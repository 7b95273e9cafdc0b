/-
Module: Q3df.Server.ConsoleLock
Layer: Server
Purpose: The console of the daemon as a state: its mutex, whether the terminal mode is on, how often
  the prompt is hidden, and what has been written. The three print functions take the mutex and give
  it back at their end, but return before that where the terminal mode is off, and so the mutex is
  balanced exactly when stdin is a terminal. The constructor prints, so without one the mutex is
  lost before the first call.
Imports: Mathlib.Data.Int.Notation, Q3df.Library.Transition, Q3df.Server.ConsoleTty
Trusted boundary: human-reviewed transcription of server/ConsoleTty.cc (the constructor, Init,
  Print, PrintInfo, PrintError, Show, Hide, AnsiColorPrint) and server/Console.cc (Lock, Unlock); a
  default mutex blocks a thread that holds it already; fewer than 2^31 prints are outstanding, so
  that the counters, which are `int`, do not wrap
Main exports: ConsoleState, ConsoleState.new, PrintCall, PrintCall.step, Balanced,
  console_balanced_iff
Open obligations: none
-/
import Mathlib.Data.Int.Notation
import Q3df.Library.Transition
import Q3df.Server.ConsoleTty

namespace Q3df.Server

open Q3df.Transition

/-- `TTY_CONSOLE_PROMPT`. -/
def ttyConsolePrompt : CString := "> ".toList

/-- `MAXPRINTMSG`. -/
def maxPrintMsg : Nat := 4096

/-- The fields of the console that printing uses: `locked` is the mutex, held by
the one thread there is; `ttyCon` is what the user has typed up to the cursor. -/
structure ConsoleState where
  locked : Bool
  ttyconOn : Bool
  ttyconHide : Int
  ttyconShowOverdue : Int
  ttyCon : CString
  stdout : CString
  stderr : CString
deriving DecidableEq

/-- `isalnum` of the C locale. -/
def isAlnum (c : Char) : Bool := c.isDigit || c.isLower || c.isUpper

/-- `q3ToAnsi` at `ColorIndex` of the character. -/
def q3ToAnsi (c : Char) : Nat := [33, 31, 32, 33, 34, 36, 35, 0].getD ((c.toNat - '0'.toNat) % 8) 0

/-- The escape sequence of a colour. -/
def colorCode (c : Char) : CString := "\x1b[".toList ++ (toString (q3ToAnsi c)).toList ++ ['m']

/-- The loop of `AnsiColorPrint`: what is written for the rest of the message,
with the characters that are already in the buffer. A run of more plain
characters than the buffer holds ends the loop. -/
def ansiColorText (buffer : CString) : CString → CString
  | [] => buffer
  | [c] =>
      if c = '\n' then buffer ++ "\x1b[0m\n".toList
      else if buffer.length ≥ maxPrintMsg - 1 then buffer
      else buffer ++ [c]
  | c :: d :: msg =>
      if c = '^' ∧ isAlnum d then buffer ++ colorCode d ++ ansiColorText [] msg
      else if c = '\n' then buffer ++ "\x1b[0m\n".toList ++ ansiColorText [] (d :: msg)
      else if buffer.length ≥ maxPrintMsg - 1 then buffer
      else ansiColorText (buffer ++ [c]) (d :: msg)

namespace ConsoleState

/-- `write` to stdout. -/
def write (s : ConsoleState) (text : CString) : ConsoleState := { s with stdout := s.stdout ++ text }

/-- `Back`. -/
def back (s : ConsoleState) : ConsoleState := s.write "\x08 \x08".toList

/-- `Show`. -/
def show_ (s : ConsoleState) : ConsoleState :=
  if s.ttyconOn then
    let s : ConsoleState := { s with ttyconHide := s.ttyconHide - 1 }
    if s.ttyconHide = 0 then (s.write ttyConsolePrompt).write s.ttyCon else s
  else s

/-- `Hide`. -/
def hide (s : ConsoleState) : ConsoleState :=
  if s.ttyconOn then
    if s.ttyconHide ≠ 0 then { s with ttyconHide := s.ttyconHide + 1 }
    else
      let s := Nat.repeat back (s.ttyCon.length + ttyConsolePrompt.length) s
      { s with ttyconHide := s.ttyconHide + 1 }
  else s

/-- `AnsiColorPrint`. -/
def ansiColorPrint (s : ConsoleState) (msg : CString) : ConsoleState :=
  { s with stderr := s.stderr ++ ansiColorText [] msg }

/-- The loop that makes up for the deferred calls of `Show`, for as many rounds
as are overdue. -/
def showOverdue : Nat → ConsoleState → ConsoleState
  | 0, s => s
  | rounds + 1, s =>
      let s := s.show_
      showOverdue rounds { s with ttyconShowOverdue := s.ttyconShowOverdue - 1 }

/-- `Lock`: `none` where the thread holds the mutex already and waits for itself. -/
def lock (s : ConsoleState) : Option ConsoleState :=
  if s.locked then none else some { s with locked := true }

/-- `Unlock`. -/
def unlock (s : ConsoleState) : ConsoleState := { s with locked := false }

/-- The prompt, behind a message that ends its line; else it stays away until
one does. -/
def restorePrompt (msg : CString) (s : ConsoleState) : ConsoleState :=
  if msg.getLast? = some '\n' then
    let s := s.show_
    showOverdue s.ttyconShowOverdue.toNat s
  else { s with ttyconShowOverdue := s.ttyconShowOverdue + 1 }

/-- The part of the print functions between `Lock` and the return: `text` is
what they hand to `AnsiColorPrint`. Without terminal mode they return here, and
the mutex stays locked. -/
def printLocked (msg text : CString) (s : ConsoleState) : ConsoleState :=
  let s := s.hide.ansiColorPrint text
  if !s.ttyconOn then s else (restorePrompt msg s).unlock

/-- The print functions: `string` is what `vsprintf` makes of `msg` and its
arguments, `label` what `va` puts in front. -/
def printWith (label msg string : CString) (s : ConsoleState) : Option ConsoleState :=
  if msg = [] then some s else s.lock.map (printLocked msg (label ++ string))

/-- `ConsoleTty::Print`. -/
def print : CString → CString → ConsoleState → Option ConsoleState := printWith []

/-- `ConsoleTty::PrintInfo`. -/
def printInfo : CString → CString → ConsoleState → Option ConsoleState :=
  printWith "^7[^3Info ^7]: ".toList

/-- `ConsoleTty::PrintError`. -/
def printError : CString → CString → ConsoleState → Option ConsoleState :=
  printWith "^7[^1Error^7]: ".toList

/-- `stdinIsATTY_`. -/
def stdinIsATTY (isatty : Bool) (term : Option CString) : Bool :=
  isatty && !(term = some "raw".toList || term = some "dumb".toList)

/-- The fields as the constructor sets them. -/
def off : ConsoleState :=
  { locked := false, ttyconOn := false, ttyconHide := 0, ttyconShowOverdue := 0, ttyCon := []
    stdout := [], stderr := [] }

/-- The constructor up to its own print: the fields, and `Init`. -/
def new (isatty : Bool) (term : Option CString) : ConsoleState :=
  if !stdinIsATTY isatty term then off.write "tty console mode disabled\n".toList
  else show_ { off with ttyconOn := true, ttyconHide := 1 }

end ConsoleState

/-- One call of a print function, with its message and the formatted text. The
text fits the buffer that `vsprintf` writes it to, and with the label in front
it fits the buffer of `va`. -/
inductive PrintCall where
  | print (msg string : CString) (fits : string.length < formatBuffer)
  | printInfo (msg string : CString) (fits : ("^7[^3Info ^7]: ".toList ++ string).length < formatBuffer)
  | printError (msg string : CString) (fits : ("^7[^1Error^7]: ".toList ++ string).length < formatBuffer)
deriving DecidableEq

/-- The message of a call. -/
def PrintCall.msg : PrintCall → CString
  | .print msg _ _ | .printInfo msg _ _ | .printError msg _ _ => msg

/-- A call runs to its return; `none` where it waits forever. -/
def PrintCall.step (s : ConsoleState) : PrintCall → Option ConsoleState
  | .print msg string _ => s.print msg string
  | .printInfo msg string _ => s.printInfo msg string
  | .printError msg string _ => s.printError msg string

/-- The call starts with the mutex free, returns, and leaves it free. -/
def LeavesFree (s : ConsoleState) (call : PrintCall) : Prop :=
  s.locked = false ∧ ∃ t, call.step s = some t ∧ t.locked = false

/-- What the constructor prints. -/
def consoleInitialized : PrintCall :=
  .printInfo "Console initialized...\n".toList "Console initialized...\n".toList (by decide)

/-- The mutex is balanced over all the calls a program makes, the constructor's
own first. -/
def Balanced (isatty : Bool) (term : Option CString) (calls : List PrintCall) : Prop :=
  StepsMeet PrintCall.step LeavesFree (.new isatty term) (consoleInitialized :: calls)

/-!
### What printing keeps

A print hides the prompt, writes and shows it again. Of the fields that decide
about the lock it touches none.
-/

section Printing

variable {s t : ConsoleState} {msg text : CString} {call : PrintCall}

theorem mode_show : s.show_.locked = s.locked ∧ s.show_.ttyconOn = s.ttyconOn := by
  unfold ConsoleState.show_
  dsimp only
  split
  · split <;> exact ⟨rfl, rfl⟩
  · exact ⟨rfl, rfl⟩

theorem mode_back (rounds : Nat) : (Nat.repeat ConsoleState.back rounds s).locked = s.locked ∧
    (Nat.repeat ConsoleState.back rounds s).ttyconOn = s.ttyconOn := by
  induction rounds with
  | zero => exact ⟨rfl, rfl⟩
  | succ rounds inductionHypothesis => exact inductionHypothesis

/-- Hiding changes neither the lock nor the mode. -/
theorem mode_hide : s.hide.locked = s.locked ∧ s.hide.ttyconOn = s.ttyconOn := by
  unfold ConsoleState.hide
  split
  · split
    · exact ⟨rfl, rfl⟩
    · exact mode_back _
  · exact ⟨rfl, rfl⟩

theorem mode_showOverdue (rounds : Nat) (s : ConsoleState) :
    (ConsoleState.showOverdue rounds s).ttyconOn = s.ttyconOn := by
  induction rounds generalizing s with
  | zero => rfl
  | succ rounds inductionHypothesis =>
      rw [ConsoleState.showOverdue, inductionHypothesis]
      exact mode_show.2

theorem mode_restorePrompt : (s.restorePrompt msg).ttyconOn = s.ttyconOn := by
  unfold ConsoleState.restorePrompt
  dsimp only
  split
  · exact (mode_showOverdue _ _).trans mode_show.2
  · rfl

/-- Printing keeps the mode, and gives the mutex back in terminal mode only. -/
theorem mode_printLocked (held : s.locked = true) :
    (s.printLocked msg text).ttyconOn = s.ttyconOn ∧
      (s.printLocked msg text).locked = !s.ttyconOn := by
  obtain ⟨sameLock, sameMode⟩ := @mode_hide s
  have mode : (s.hide.ansiColorPrint text).ttyconOn = s.ttyconOn := sameMode
  have stillHeld : (s.hide.ansiColorPrint text).locked = true := sameLock.trans held
  unfold ConsoleState.printLocked
  dsimp only
  cases on : s.ttyconOn with
  | false =>
      rw [mode, on]
      exact ⟨mode.trans on, stillHeld⟩
  | true =>
      rw [mode, on]
      exact ⟨mode_restorePrompt.trans (mode.trans on), rfl⟩

/-- A call that starts with the mutex free returns. It keeps the mode; in
terminal mode it leaves the mutex free, and otherwise it does so only if there
is nothing to print. -/
theorem printWith_free {label string : CString} (free : s.locked = false) :
    ∃ t, s.printWith label msg string = some t ∧ t.ttyconOn = s.ttyconOn ∧
      (t.locked = false ↔ s.ttyconOn = true ∨ msg = []) := by
  unfold ConsoleState.printWith
  by_cases silent : msg = []
  · exact ⟨s, if_pos silent, rfl, iff_of_true free (.inr silent)⟩
  · let held : ConsoleState := { s with locked := true }
    have taken : s.lock = some held := by
      rw [ConsoleState.lock, free]
      rfl
    obtain ⟨mode, lock⟩ := @mode_printLocked held msg (label ++ string) rfl
    refine ⟨held.printLocked msg (label ++ string), ?_, mode, ?_⟩
    · rw [if_neg silent, taken]
      rfl
    · rw [lock]
      simp [silent, held]

/-- From a free lock a call of a printing function returns, and leaves the lock free
unless the prompt is off and the message is not empty. -/
theorem step_free (free : s.locked = false) :
    ∃ t, call.step s = some t ∧ t.ttyconOn = s.ttyconOn ∧
      (t.locked = false ↔ s.ttyconOn = true ∨ call.msg = []) := by
  cases call with
  | print msg string fits => exact printWith_free free
  | printInfo msg string fits => exact printWith_free free
  | printError msg string fits => exact printWith_free free

/-- The terminal mode with the mutex free. -/
def Idle (s : ConsoleState) : Prop := s.locked = false ∧ s.ttyconOn = true

theorem leavesFree_of_idle (idle : Idle s) : LeavesFree s call := by
  obtain ⟨t, stepped, -, free⟩ := step_free idle.1
  exact ⟨idle.1, t, stepped, free.mpr (.inl idle.2)⟩

/-- Every call leaves an idle console idle. -/
theorem idle_step (idle : Idle s) (stepped : call.step s = some t) : Idle t := by
  obtain ⟨u, made, mode, free⟩ := @step_free s call idle.1
  rw [stepped, Option.some.injEq] at made
  subst made
  exact ⟨free.mpr (.inl idle.2), mode.trans idle.2⟩

end Printing

/-- The constructor sets the terminal mode for good, and leaves the mutex free. -/
theorem new_mode (isatty : Bool) (term : Option CString) :
    (ConsoleState.new isatty term).locked = false ∧
      (ConsoleState.new isatty term).ttyconOn = ConsoleState.stdinIsATTY isatty term := by
  unfold ConsoleState.new
  cases ConsoleState.stdinIsATTY isatty term with
  | false => exact ⟨rfl, rfl⟩
  | true => exact @mode_show { (ConsoleState.off) with ttyconOn := true, ttyconHide := 1 }

/-- The mutex is balanced over every sequence of calls exactly if stdin is a
terminal, and none that `TERM` calls raw or dumb. -/
theorem console_balanced_iff (isatty : Bool) (term : Option CString) (calls : List PrintCall) :
    Balanced isatty term calls ↔
      isatty = true ∧ term ≠ some "raw".toList ∧ term ≠ some "dumb".toList := by
  obtain ⟨free, mode⟩ := new_mode isatty term
  have terminal : ConsoleState.stdinIsATTY isatty term = true ↔
      isatty = true ∧ term ≠ some "raw".toList ∧ term ≠ some "dumb".toList := by
    simp [ConsoleState.stdinIsATTY]
  rw [← terminal]
  constructor
  · rintro ⟨⟨-, t, stepped, leftFree⟩, -⟩
    obtain ⟨u, made, -, freeIff⟩ := @step_free _ consoleInitialized free
    rw [stepped, Option.some.injEq] at made
    subst made
    rcases freeIff.mp leftFree with on | silent
    · exact mode.symm.trans on
    · cases silent
  · intro isTerminal
    apply stepsMeet_of_preserved leavesFree_of_idle idle_step
    exact ⟨free, mode.trans isTerminal⟩

/-- A letter is printed. -/
def letterPrinted : PrintCall := .print ['a'] ['a'] (by decide)

/-- Without a terminal the console prints one line, its own, and the next call
waits forever. -/
theorem console_blocks :
    ¬ Balanced false none [letterPrinted] ∧
      ∃ t, run PrintCall.step (.new false none) [consoleInitialized] = some t ∧ t.locked = true ∧
        PrintCall.step t letterPrinted = none := by
  have lost : (run PrintCall.step (.new false none) [consoleInitialized]).map
      (fun t => decide (t.locked = true ∧ PrintCall.step t letterPrinted = none)) =
        some true := by decide +kernel
  obtain ⟨t, ran, blocks⟩ := Option.map_eq_some_iff.mp lost
  obtain ⟨locked, waits⟩ := of_decide_eq_true blocks
  refine ⟨?_, t, ran, locked, waits⟩
  rintro ⟨⟨-, u, stepped, free⟩, -⟩
  obtain ⟨v, first, rest⟩ := run_cons_eq_some.mp ran
  cases rest
  rw [stepped, Option.some.injEq] at first
  subst first
  rw [locked] at free
  cases free

end Q3df.Server
