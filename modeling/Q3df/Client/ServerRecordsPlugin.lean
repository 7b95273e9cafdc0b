/-
Module: Q3df.Client.ServerRecordsPlugin
Layer: Client
Purpose: The plugin that turns the game's `ClientTimerStop:` line into a `SaveRecord` request. It
  checks seven of the eight settings its own notice demands, leaving out sv_cheats, and takes the
  slot and the numbers of the record from `atoi`, which reads 0 where there is no number, or no
  token. The headline says for every message and every valuation of the cvars when exactly the right
  thing happens all the same.
Imports: Q3df.Client.PluginHandlers, Q3df.Client.StringTokenizer
Trusted boundary: human-reviewed transcription of client/Plugins/ServerRecordsPlugin.cc; the users
  exist, which they do between GAME_INIT and GAME_SHUTDOWN
Main exports: RecordRequest, ServerCvars, ServerRecordsPlugin.onGamePrint, denotedSlot,
  denotedNumber, FromTokens, DescribesRun, RecordsLegitimately, records_legitimately_iff
Open obligations: none
-/
import Q3df.Client.PluginHandlers
import Q3df.Client.StringTokenizer

namespace Q3df.Client

/-- `service.RecordRequest`. -/
structure RecordRequest where
  identifier : Identifier
  name : CString
  mapname : CString
  mapChecksum : CString
  mstime : Int
  dfGametype : Int
  dfPromode : Int
  dfMode : Int
  interference : Int
  obsEnabled : Int
  defragVersion : Int
deriving Repr, DecidableEq

/-- What the engine answers for a cvar. -/
structure ServerCvars where
  cvarVariableIntegerValue : String → Int
  cvarVariableString : String → CString

/-- What one print makes the plugin do: the server commands, and the
`SaveRecord` requests enqueued. -/
structure PrintEffects where
  serverCommands : List (Int × CString)
  saveRecords : List RecordRequest
deriving DecidableEq

/-- The users of the proxy. -/
abbrev UserList := (playernum : Slot) → Q3User playernum

namespace ServerRecordsPlugin

/-- What the game prints when a run is over begins with this. -/
def clientTimerStop : CString := "ClientTimerStop:".toList

/-- The checks of the handler. -/
def checksFail (cvars : ServerCvars) : Prop :=
  let checkInterferenceoff := cvars.cvarVariableIntegerValue "df_mp_interferenceOff"
  let checkMsec := cvars.cvarVariableIntegerValue "pmove_msec"
  let checkFixed := cvars.cvarVariableIntegerValue "pmove_fixed"
  let checkTimescale := cvars.cvarVariableIntegerValue "timescale"
  let checkSpeed := cvars.cvarVariableIntegerValue "g_speed"
  let checkGravity := cvars.cvarVariableIntegerValue "g_gravity"
  let checkKnockback := cvars.cvarVariableIntegerValue "g_knockback"
  checkKnockback ≠ 1000 ∨ checkGravity ≠ 800 ∨ checkSpeed ≠ 320 ∨
  checkTimescale ≠ 1 ∨ checkFixed ≠ 1 ∨
    checkMsec ≠ 8 ∨ checkInterferenceoff ≠ 3

instance decidableChecksFail (cvars : ServerCvars) : Decidable (checksFail cvars) :=
  inferInstanceAs (Decidable (_ ∨ _ ∨ _ ∨ _ ∨ _ ∨ _ ∨ _))

/-- The notice. -/
def checkServerSettings : List (Int × CString) :=
  [(-1, "chat \"^7[^1Q3df::Error^7]: --------- Recordsystem ^1DISABLED^7! ----------\"".toList),
   (-1, "chat \"^7[^1Q3df::Error^7]: ---------- CHECK SERVER SETTINGS -------------\"".toList),
   (-1, "chat \"^7[^1Q3df::Error^7]: pmove_msec=8, pmove_fixed=1, timescale=1\"".toList),
   (-1, "chat \"^7[^1Q3df::Error^7]: g_speed=320, g_gravity=800, g_knockback=1000\"".toList),
   (-1, "chat \"^7[^1Q3df::Error^7]: df_mp_interferenceOff=3, sv_cheats=0\"".toList)]

def disabledNotice : Int × CString :=
  (-1, "chat \"^7[^3Q3df::Info^7]: Recordsystem ^1DISABLED^7! (rs_enabled = 0)\"".toList)

/-- The request for the tokens of a message. -/
def saveRecord {playernum : Slot} (cl : Q3User playernum) (tokenizer : StringTokenizer)
    (cvars : ServerCvars) : RecordRequest where
  identifier := cl.writeIdentifier
  name := tokenizer.argv 4
  mapname := tokenizer.argv 3
  mapChecksum := (cvars.cvarVariableString "sv_mapChecksum").take 1023
  mstime := atoi (tokenizer.argv 2)
  dfGametype := atoi (tokenizer.argv 5)
  dfPromode := atoi (tokenizer.argv 6)
  dfMode := atoi (tokenizer.argv 7)
  interference := atoi (tokenizer.argv 8)
  obsEnabled := atoi (tokenizer.argv 9)
  defragVersion := atoi (tokenizer.argv 10)

/-- `OnGamePrint`; `none` where it reads behind the tokenizer's copy of the
message or outside the user list. -/
def onGamePrint (users : UserList) (cvarRsEnabled : Int) (cvars : ServerCvars) (msg : CString) :
    Option PrintEffects :=
  if clientTimerStop.isPrefixOf msg ∧ cvarRsEnabled = 1 then
    if checksFail cvars then
      some { serverCommands := checkServerSettings, saveRecords := [] }
    else
      match StringTokenizer.new msg false with
      | none => none
      | some tokenizer =>
          match slotOf? (atoi (tokenizer.argv 1)) with
          | none => none
          | some playernum =>
              some { serverCommands := [], saveRecords := [saveRecord (users playernum) tokenizer cvars] }
  else if clientTimerStop.isPrefixOf msg ∧ cvarRsEnabled = 0 then
    some { serverCommands := [disabledNotice], saveRecords := [] }
  else
    some { serverCommands := [], saveRecords := [] }

end ServerRecordsPlugin

/-!
### What a legitimate run is

The conditions a record should meet: the settings of the notice, and ten tokens
that denote the player, the time and the rest of the run.
-/

/-- Every setting the notice demands holds. -/
structure ServerSettings (cvars : ServerCvars) : Prop where
  pmoveMsec : cvars.cvarVariableIntegerValue "pmove_msec" = 8
  pmoveFixed : cvars.cvarVariableIntegerValue "pmove_fixed" = 1
  timescale : cvars.cvarVariableIntegerValue "timescale" = 1
  gSpeed : cvars.cvarVariableIntegerValue "g_speed" = 320
  gGravity : cvars.cvarVariableIntegerValue "g_gravity" = 800
  gKnockback : cvars.cvarVariableIntegerValue "g_knockback" = 1000
  dfMpInterferenceOff : cvars.cvarVariableIntegerValue "df_mp_interferenceOff" = 3
  svCheats : cvars.cvarVariableIntegerValue "sv_cheats" = 0

/-- The slot a token denotes: it begins with the number of one. -/
def denotedSlot (token : CString) : Option Slot := (leadingNumber token).bind slotOf?

/-- The number a token denotes: it begins with one that an `int` can hold. -/
def denotedNumber (token : CString) : Option Int :=
  (leadingNumber token).filter fun value => -2147483648 ≤ value ∧ value ≤ 2147483647

/-- The record is the one tokens 1 to 10 describe, and all of them are there. -/
structure FromTokens (users : UserList) (tokenizer : StringTokenizer) (record : RecordRequest) : Prop where
  present : 11 ≤ tokenizer.argc
  identity : ∃ playernum, denotedSlot (tokenizer.argv 1) = some playernum ∧
    record.identifier = (users playernum).writeIdentifier
  time : denotedNumber (tokenizer.argv 2) = some record.mstime
  map : record.mapname = tokenizer.argv 3
  name : record.name = tokenizer.argv 4
  gameType : denotedNumber (tokenizer.argv 5) = some record.dfGametype
  promode : denotedNumber (tokenizer.argv 6) = some record.dfPromode
  mode : denotedNumber (tokenizer.argv 7) = some record.dfMode
  interference : denotedNumber (tokenizer.argv 8) = some record.interference
  obs : denotedNumber (tokenizer.argv 9) = some record.obsEnabled
  version : denotedNumber (tokenizer.argv 10) = some record.defragVersion

/-- The tokens of a run: ten behind the first, of which token 1 denotes a slot,
and all but the names of the map and the player denote numbers. -/
structure DescribesRun (tokenizer : StringTokenizer) : Prop where
  present : 11 ≤ tokenizer.argc
  slot : (denotedSlot (tokenizer.argv 1)).isSome
  numbers : ∀ index ∈ [2, 5, 6, 7, 8, 9, 10], (denotedNumber (tokenizer.argv index)).isSome

/-- Only legitimate runs are recorded, and they are recorded right. -/
def RecordsLegitimately (users : UserList) (cvarRsEnabled : Int) (cvars : ServerCvars) (msg : CString) :
    Prop :=
  ∃ effects, ServerRecordsPlugin.onGamePrint users cvarRsEnabled cvars msg = some effects ∧
    (effects.saveRecords ≠ [] ↔ ServerRecordsPlugin.clientTimerStop.isPrefixOf msg ∧
      cvarRsEnabled = 1 ∧
      ServerSettings cvars) ∧
    ∀ record ∈ effects.saveRecords, ∃ tokenizer, StringTokenizer.new msg false = some tokenizer ∧
      FromTokens users tokenizer record

section OnGamePrint

open ServerRecordsPlugin

variable {users : UserList} {cvarRsEnabled : Int} {cvars : ServerCvars} {msg : CString}

/-- The handler checks all the settings but one. -/
theorem serverSettings_iff :
    ServerSettings cvars ↔ ¬ checksFail cvars ∧ cvars.cvarVariableIntegerValue "sv_cheats" = 0 := by
  unfold checksFail
  constructor
  · intro settings
    obtain ⟨msec, fixed, timescale, speed, gravity, knockback, interference, cheats⟩ := settings
    simp [msec, fixed, timescale, speed, gravity, knockback, interference, cheats]
  · rintro ⟨passed, cheats⟩
    simp only [not_or, not_not] at passed
    obtain ⟨knockback, gravity, speed, timescale, fixed, msec, interference⟩ := passed
    exact ⟨msec, fixed, timescale, speed, gravity, knockback, interference, cheats⟩

/-- A token that denotes a slot is read as that slot. -/
theorem slotOf?_atoi {token : CString} {playernum : Slot} (denotes : denotedSlot token = some playernum) :
    slotOf? (atoi token) = some playernum := by
  obtain ⟨value, reads, slot⟩ := Option.bind_eq_some_iff.mp denotes
  have inRange : 0 ≤ value ∧ value < maxClients := by
    by_contra outside
    rw [slotOf?, dif_neg outside] at slot
    cases slot
  have small : (maxClients : Int) = 64 := rfl
  rw [atoi_of_leadingNumber reads (by omega)]
  exact slot

/-- A token that denotes a number is read as that number. -/
theorem denotedNumber_eq_atoi {token : CString} (denotes : (denotedNumber token).isSome) :
    denotedNumber token = some (atoi token) := by
  obtain ⟨value, found⟩ := Option.isSome_iff_exists.mp denotes
  obtain ⟨reads, inRange⟩ := Option.filter_eq_some_iff.mp found
  rw [found, atoi_of_leadingNumber reads (of_decide_eq_true inRange)]

/-- A message the handler does not take for a run of an enabled server enqueues
nothing. -/
theorem onGamePrint_notTaken
    (notTaken : ¬ (clientTimerStop.isPrefixOf msg = true ∧ cvarRsEnabled = 1 ∧ ¬ checksFail cvars)) :
    ∃ effects, onGamePrint users cvarRsEnabled cvars msg = some effects ∧ effects.saveRecords = [] := by
  unfold onGamePrint
  split
  case isTrue taken =>
    have fails : checksFail cvars := by
      by_contra passed
      exact notTaken ⟨taken.1, taken.2, passed⟩
    exact ⟨_, if_pos fails, rfl⟩
  case isFalse =>
    split
    · exact ⟨_, rfl, rfl⟩
    · exact ⟨_, rfl, rfl⟩

/-- A message it takes is recorded for the slot `atoi` reads. -/
theorem onGamePrint_taken (isStop : clientTimerStop.isPrefixOf msg = true) (enabled : cvarRsEnabled = 1)
    (passed : ¬ checksFail cvars) {effects : PrintEffects}
    (done : onGamePrint users cvarRsEnabled cvars msg = some effects) :
    ∃ tokenizer playernum, StringTokenizer.new msg false = some tokenizer ∧
      slotOf? (atoi (tokenizer.argv 1)) = some playernum ∧
      effects.saveRecords = [saveRecord (users playernum) tokenizer cvars] := by
  unfold onGamePrint at done
  rw [if_pos ⟨isStop, enabled⟩, if_neg passed] at done
  split at done
  · cases done
  · split at done
    · cases done
    · cases done
      exact ⟨_, _, ‹_›, ‹_›, rfl⟩

/-- The record is the one the tokens describe, if they describe one. -/
theorem fromTokens_saveRecord {tokenizer : StringTokenizer} {playernum : Slot}
    (denotes : denotedSlot (tokenizer.argv 1) = some playernum) (describes : DescribesRun tokenizer) :
    FromTokens users tokenizer (saveRecord (users playernum) tokenizer cvars) := by
  have number (index : Nat) (numeric : index ∈ [2, 5, 6, 7, 8, 9, 10]) :
      denotedNumber (tokenizer.argv index) = some (atoi (tokenizer.argv index)) :=
    denotedNumber_eq_atoi (describes.numbers index numeric)
  exact
    { present := describes.present
      identity := ⟨playernum, denotes, rfl⟩
      time := number 2 (by decide)
      map := rfl
      name := rfl
      gameType := number 5 (by decide)
      promode := number 6 (by decide)
      mode := number 7 (by decide)
      interference := number 8 (by decide)
      obs := number 9 (by decide)
      version := number 10 (by decide) }

/-- A record made from the tokens shows that they describe a run. -/
theorem FromTokens.describesRun {tokenizer : StringTokenizer} {record : RecordRequest}
    (tokens : FromTokens users tokenizer record) : DescribesRun tokenizer where
  present := tokens.present
  slot := by
    obtain ⟨playernum, denotes, -⟩ := tokens.identity
    rw [denotes]
    rfl
  numbers := by
    intro index numeric
    simp only [List.mem_cons, List.not_mem_nil, or_false] at numeric
    rcases numeric with rfl | rfl | rfl | rfl | rfl | rfl | rfl
    · rw [tokens.time]; rfl
    · rw [tokens.gameType]; rfl
    · rw [tokens.promode]; rfl
    · rw [tokens.mode]; rfl
    · rw [tokens.interference]; rfl
    · rw [tokens.obs]; rfl
    · rw [tokens.version]; rfl

/-- What holds of a message that is taken, if it is recorded as it should be. -/
theorem describesRun_of_records (legitimate : RecordsLegitimately users cvarRsEnabled cvars msg)
    (isStop : clientTimerStop.isPrefixOf msg = true) (enabled : cvarRsEnabled = 1)
    (passed : ¬ checksFail cvars) :
    cvars.cvarVariableIntegerValue "sv_cheats" = 0 ∧
      ∃ tokenizer, StringTokenizer.new msg false = some tokenizer ∧ DescribesRun tokenizer := by
  obtain ⟨effects, done, enqueues, records⟩ := legitimate
  obtain ⟨tokenizer, playernum, made, -, saved⟩ := onGamePrint_taken isStop enabled passed done
  have settings : ServerSettings cvars := by
    refine (enqueues.mp ?_).2.2
    rw [saved]
    exact List.cons_ne_nil _ _
  refine ⟨(serverSettings_iff.mp settings).2, tokenizer, made, ?_⟩
  obtain ⟨sameTokenizer, madeAgain, tokens⟩ := records _ (by rw [saved]; exact List.mem_singleton_self _)
  rw [made, Option.some.injEq] at madeAgain
  rw [madeAgain]
  exact tokens.describesRun

end OnGamePrint

/-- Only legitimate runs are recorded, and they are recorded right, exactly if
the message is not a run an enabled server with the seven checked settings
takes, or sv_cheats is 0 and the tokens describe a run. -/
theorem records_legitimately_iff (users : UserList) (cvarRsEnabled : Int) (cvars : ServerCvars)
    (msg : CString) :
    RecordsLegitimately users cvarRsEnabled cvars msg ↔
      (ServerRecordsPlugin.clientTimerStop.isPrefixOf msg = true → cvarRsEnabled = 1 →
        ¬ ServerRecordsPlugin.checksFail cvars →
          cvars.cvarVariableIntegerValue "sv_cheats" = 0 ∧
            ∃ tokenizer, StringTokenizer.new msg false = some tokenizer ∧ DescribesRun tokenizer) := by
  constructor
  · intro legitimate isStop enabled passed
    exact describesRun_of_records legitimate isStop enabled passed
  · intro condition
    by_cases taken : ServerRecordsPlugin.clientTimerStop.isPrefixOf msg = true ∧ cvarRsEnabled = 1 ∧
        ¬ ServerRecordsPlugin.checksFail cvars
    · obtain ⟨isStop, enabled, passed⟩ := taken
      obtain ⟨cheats, tokenizer, made, describes⟩ := condition isStop enabled passed
      obtain ⟨playernum, denotes⟩ := Option.isSome_iff_exists.mp describes.slot
      have done : ServerRecordsPlugin.onGamePrint users cvarRsEnabled cvars msg =
          some { serverCommands := [],
                 saveRecords := [ServerRecordsPlugin.saveRecord (users playernum) tokenizer cvars] } := by
        rw [ServerRecordsPlugin.onGamePrint, if_pos ⟨isStop, enabled⟩, if_neg passed, made]
        simp only [slotOf?_atoi denotes]
      refine ⟨_, done, ?_, ?_⟩
      · exact iff_of_true (List.cons_ne_nil _ _)
          ⟨isStop, enabled, serverSettings_iff.mpr ⟨passed, cheats⟩⟩
      · intro record member
        rw [List.mem_singleton.mp member]
        exact ⟨tokenizer, made, fromTokens_saveRecord denotes describes⟩
    · obtain ⟨effects, done, none_⟩ := @onGamePrint_notTaken users _ _ _ taken
      refine ⟨effects, done, ?_, ?_⟩
      · apply iff_of_false
        · exact not_not.mpr none_
        · rintro ⟨isStop, enabled, settings⟩
          exact taken ⟨isStop, enabled, (serverSettings_iff.mp settings).1⟩
      · rw [none_]
        intro record member
        cases member

/-- A server with the settings the handler checks. -/
def checkedCvars (svCheats : Int) : ServerCvars where
  cvarVariableIntegerValue := fun name =>
    if name = "pmove_msec" then 8
    else if name = "g_speed" then 320
    else if name = "g_gravity" then 800
    else if name = "g_knockback" then 1000
    else if name = "df_mp_interferenceOff" then 3
    else if name = "sv_cheats" then svCheats
    else 1
  cvarVariableString := fun _ => []

/-- A run with cheats is recorded, a message without a slot number for player 0,
and a message that ends behind the slot as a run of time 0 on no map. -/
theorem cheatedRun_recorded :
    ¬ RecordsLegitimately (fun _ => .initial) 1 (checkedCvars 1)
        "ClientTimerStop: 3 12000 q3dm17 nobody 1 1 1 3 0 19108".toList ∧
      ¬ RecordsLegitimately (fun _ => .initial) 1 (checkedCvars 0)
        "ClientTimerStop: x 12000 q3dm17 nobody 1 1 1 3 0 19108".toList ∧
      ¬ RecordsLegitimately (fun _ => .initial) 1 (checkedCvars 0) "ClientTimerStop: 3".toList := by
  refine ⟨?_, ?_, ?_⟩
  · intro legitimate
    obtain ⟨cheats, -⟩ := describesRun_of_records legitimate (by decide) rfl (by decide)
    revert cheats
    decide
  · intro legitimate
    obtain ⟨-, tokenizer, made, describes⟩ :=
      describesRun_of_records legitimate (by decide) rfl (by decide)
    have noSlot : (StringTokenizer.new "ClientTimerStop: x 12000 q3dm17 nobody 1 1 1 3 0 19108".toList
        false).map (fun tokenizer => (denotedSlot (tokenizer.argv 1)).isSome) = some false := by
      decide +kernel
    rw [made, Option.map_some, Option.some.injEq, describes.slot] at noSlot
    cases noSlot
  · intro legitimate
    obtain ⟨-, tokenizer, made, describes⟩ :=
      describesRun_of_records legitimate (by decide) rfl (by decide)
    have short : (StringTokenizer.new "ClientTimerStop: 3".toList false).map StringTokenizer.argc =
        some 2 := by decide +kernel
    rw [made, Option.map_some, Option.some.injEq] at short
    exact absurd describes.present (by omega)

end Q3df.Client
