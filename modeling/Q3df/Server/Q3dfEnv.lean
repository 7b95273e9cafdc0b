/-
Module: Q3df.Server.Q3dfEnv
Layer: Server
Purpose: The settings of the daemon, and the handshake that lets a connection in: one frame with the
  server's id and its api key, checked against the settings.
Imports: Q3df.Server.ClientList
Trusted boundary: human-reviewed transcription of server/Q3dfEnv.cc (Handshake) and of the settings
  of server/RecordsystemDaemon.cc
Main exports: SettingsMap, apikeySetting, underscorePos, splitAtPos, handshakeParts, Handshake,
  handshake, handshakeServerId
Open obligations: none
-/
import Q3df.Server.ClientList

namespace Q3df.Server

/-- `settings_`. -/
abbrev SettingsMap := AList fun _ : StdString => StdString

def setSetting (settings : SettingsMap) (key value : StdString) : SettingsMap :=
  settings.insert key value

/-- `settingsKey`. -/
def apikeySetting (serverId : StdString) : StdString := "apikey-".toList ++ serverId

/-- `int pos = data.find_first_of("_")`. Without an underscore the result is
`npos`, which is -1 as an `int`. -/
def underscorePos (data : StdString) : Int :=
  (data.findIdx? (· = '_')).elim (-1) fun pos => (BitVec.ofNat 32 pos).toInt

/-- The loop over the characters, from an index on: `serverId` collects those
before `pos`, `apikey` those after it. -/
def splitAtPos (pos : Int) : Nat → StdString → StdString × StdString
  | _, [] => ([], [])
  | index, c :: rest =>
      let (serverId, apikey) := splitAtPos pos (index + 1) rest
      if (index : Int) > pos then (serverId, c :: apikey)
      else if (index : Int) < pos then (c :: serverId, apikey)
      else (serverId, apikey)

/-- `serverId` and `apikey`. -/
def handshakeParts (data : StdString) : StdString × StdString :=
  splitAtPos (underscorePos data) 0 data

/-- What `Handshake` returns, and the frames it sends. -/
structure Handshake where
  accepted : Bool
  frames : List StdString
deriving Repr, DecidableEq

def accessDenied : StdString := "ACCESS DENIED!".toList

/-- `Q3dfEnv::Handshake`: the frame received, if one was, and whether the frame
`OK` can be sent. -/
def handshake (settings : SettingsMap) (received : Option StdString) (okSent : Bool) : Handshake :=
  match received with
  | none => { accepted := false, frames := [accessDenied] }
  | some data =>
      if data.length > 0 ∧ data.findIdx? (· = '_') ≠ some 0 then
        let (serverId, apikey) := handshakeParts data
        if apikey.length > 0 ∧ serverId.length > 0 ∧ apikeySetting serverId ∈ settings ∧
            (settings.lookup (apikeySetting serverId)).getD [] = apikey then
          if okSent then { accepted := true, frames := ["OK".toList] }
          else { accepted := false, frames := ["OK".toList, accessDenied] }
        else { accepted := false, frames := [accessDenied] }
      else { accepted := false, frames := [accessDenied] }

/-- The id an accepted handshake was made with. The daemon does not keep it. -/
def handshakeServerId (received : Option StdString) : StdString :=
  (handshakeParts (received.getD [])).1

end Q3df.Server
