/-
Module: Q3df.Client.Q3User
Layer: Client
Purpose: One player slot of the proxy: the info string lookup, the message that names the player to the
  API server, and `Q3User` with the operations the plugins use. A user belongs to its slot by type, so
  the number it reports is the number it is stored under.
Imports: Mathlib.Data.Int.Notation, Q3df.Client.Quake3
Trusted boundary: human-reviewed transcription of client/Q3User.{h,cc} and Utils::InfoValueForKey
Main exports: CString, Slot, InfoString, infoValueForKey, Identifier, Q3User
Open obligations: none
-/
import Mathlib.Data.Int.Notation
import Q3df.Client.Quake3

namespace Q3df.Client

/-- A C string without its terminator. -/
abbrev CString := List Char

/-- An index into `userList_`. -/
abbrev Slot := Fin maxClients

/-- An info string as the engine stores it, terminator included in
`MAX_INFO_STRING` bytes. -/
abbrev InfoString := { info : CString // info.length < maxInfoString }

/-- The buffer after `memset` to zero. -/
def InfoString.empty : InfoString := ⟨[], by decide⟩

mutual

/-- The key loop of `Utils::InfoValueForKey`, with the characters copied to
`pkey` so far. -/
def infoScanKey (key pkey : CString) : CString → CString
  | [] => []
  | c :: s => if c = '\\' then infoScanValue key pkey [] s else infoScanKey key (pkey ++ [c]) s

/-- The value loop, with the characters copied to `value[valueindex]` so far. -/
def infoScanValue (key pkey value : CString) : CString → CString
  | [] => if key = pkey then value else []
  | c :: s =>
      if c = '\\' then
        if key = pkey then value else infoScanKey key [] s
      else infoScanValue key pkey (value ++ [c]) s

end

/-- `Utils::InfoValueForKey`. -/
def infoValueForKey (infoString key : CString) : CString :=
  if infoString.length ≥ bigInfoString then []
  else
    match infoString with
    | [] => infoScanKey key [] []
    | c :: s => if c = '\\' then infoScanKey key [] s else infoScanKey key [] (c :: s)

example : infoValueForKey "\\name\\nobody\\q3dfkey\\abc".toList "q3dfkey".toList = "abc".toList := by
  decide

/-- `service.Identifier`. The slot number is a slot because it is only ever
written from a slot, or left at its default 0. -/
structure Identifier where
  serverId : Int
  playernum : Slot
  uniqueId : CString
deriving Repr, DecidableEq

/-- A message whose identifier was never filled in reads as the default values. -/
def Identifier.unfilled : Identifier := { serverId := 0, playernum := 0, uniqueId := [] }

/-- `Q3User` of one slot. -/
structure Q3User (playernum : Slot) where
  userInfo : InfoString
  userId : Int
  uniqueId : CString
  lastQ3dfkey : CString
  state : ClientState
deriving DecidableEq

namespace Q3User

variable {playernum : Slot}

def getPlayernum (_ : Q3User playernum) : Slot := playernum

def getUserInfo (cl : Q3User playernum) (key : CString) : CString :=
  infoValueForKey cl.userInfo.val key

def setUserInfoString (cl : Q3User playernum) (infoString : InfoString) : Q3User playernum :=
  { cl with userInfo := infoString }

def setState (cl : Q3User playernum) (state : ClientState) : Q3User playernum :=
  { cl with state := state }

def setUserId (cl : Q3User playernum) (userId : Int) : Q3User playernum :=
  { cl with userId := userId }

def setUniqueId (cl : Q3User playernum) (uniqueId : CString) : Q3User playernum :=
  { cl with uniqueId := uniqueId }

/-- `SetLastQ3dfKey`, which no code of the proxy calls. -/
def setLastQ3dfKey (cl : Q3User playernum) (q3dfkey : CString) : Q3User playernum :=
  { cl with lastQ3dfkey := q3dfkey.take (maxInfoString - 1) }

def writeIdentifier (cl : Q3User playernum) : Identifier :=
  { serverId := 1, playernum := cl.getPlayernum, uniqueId := cl.uniqueId }

/-- `Reset`: everything but the slot number. -/
def reset (_ : Q3User playernum) : Q3User playernum :=
  { userInfo := .empty, userId := 0, uniqueId := [], lastQ3dfkey := [], state := .clientFree }

/-- The user of a slot after `GAME_INIT`, which resets the fields the
constructor leaves uninitialised. -/
def initial : Q3User playernum :=
  { userInfo := .empty, userId := 0, uniqueId := [], lastQ3dfkey := [], state := .clientFree }

/-- The key the login is about, as the plugin last read it from the engine. -/
def q3dfKey (cl : Q3User playernum) : CString := cl.getUserInfo "q3dfkey".toList

@[simp] theorem writeIdentifier_playernum (cl : Q3User playernum) :
    cl.writeIdentifier.playernum = playernum := rfl

@[simp] theorem writeIdentifier_uniqueId (cl : Q3User playernum) :
    cl.writeIdentifier.uniqueId = cl.uniqueId := rfl

end Q3User

end Q3df.Client
