/-
Module: Q3df.Server.PromptVisibility
Layer: Server
Purpose: When the prompt of the terminal console is on the screen. Hiding and showing it is counted,
  and a print that does not end its line leaves it hidden until one does. Over prints, redrawn lines
  and continued processes the two counters stay equal, and the prompt is on the screen exactly when
  no print is outstanding, as long as no process is continued while one is: then one of the counters
  starts anew and the other does not.
Imports: Mathlib.Data.List.DropRight, Q3df.Server.ConsoleHistory, Q3df.Server.ConsoleLock
Trusted boundary: human-reviewed transcription of server/ConsoleTty.cc (SigCont, Init, and the Tab,
  Up and Down of Input); the signal is handled between two operations; the terminal mode is on, so
  that stdin is a terminal; fewer than 2^31 prints are outstanding
Main exports: PromptOnScreen, PromptState, PromptAction, Accounted, ContinuesSettled,
  prompt_accounted_iff
Open obligations: none
-/
import Mathlib.Data.List.DropRight
import Q3df.Server.ConsoleHistory
import Q3df.Server.ConsoleLock

namespace Q3df.Server

open Q3df.Buffer Q3df.Transition

/-- What was written since a character was last taken back. -/
def sinceErased (stdout : CString) : CString := stdout.rtakeWhile (· ≠ '\x08')

/-- The prompt is on the screen: it was written after everything that was taken
back. -/
def PromptOnScreen (s : ConsoleState) : Prop := ttyConsolePrompt <+: sinceErased s.stdout

instance (s : ConsoleState) : Decidable (PromptOnScreen s) :=
  inferInstanceAs (Decidable (ttyConsolePrompt <+: sinceErased s.stdout))

namespace ConsoleState

/-- `Init`, which `SigCont` calls as well. -/
def init (stdinIsATTY : Bool) (s : ConsoleState) : ConsoleState :=
  if !stdinIsATTY then { s.write "tty console mode disabled\n".toList with ttyconOn := false }
  else show_ { s with ttyCon := [], ttyconOn := true, ttyconHide := 1 }

/-- The constructor sets the fields and calls `Init`. -/
theorem new_eq_init (isatty : Bool) (term : Option CString) :
    new isatty term = off.init (stdinIsATTY isatty term) := rfl

/-- The edit line is replaced behind a hidden prompt, as Up and Down do. -/
def redraw (s : ConsoleState) (line : CString) : ConsoleState := show_ { s.hide with ttyCon := line }

end ConsoleState

/-- What moves the prompt. -/
inductive PromptAction where
  | print (call : PrintCall)
  | tab
  | up
  | down
  | sigCont

/-- The console and its history. `outstanding` is history of another kind: how
many prints have not ended their line since one last did. -/
structure PromptState where
  console : ConsoleState
  history : TtyHistory
  outstanding : Nat

/-- The prints outstanding after one more message. -/
def outstandingAfter (outstanding : Nat) (msg : CString) : Nat :=
  if msg = [] then outstanding else if msg.getLast? = some '\n' then 0 else outstanding + 1

namespace PromptState

/-- One operation. Without an older line Up redraws nothing; `stdinIsATTY_` is
what the mode was set to. -/
def step (s : PromptState) : PromptAction → Option PromptState
  | .print call => (call.step s.console).map fun console =>
      { s with console := console, outstanding := outstandingAfter s.outstanding call.msg }
  | .tab => some { s with console := s.console.hide.show_ }
  | .up => s.history.histPrev.map fun found =>
      { s with console := found.1.elim s.console s.console.redraw, history := found.2 }
  | .down => s.history.histNext.map fun found =>
      { s with console := s.console.redraw (found.1.getD []), history := found.2 }
  | .sigCont => some { s with console := s.console.init s.console.ttyconOn }

end PromptState

/-- The two counters agree and are not negative, and the prompt is on the screen
exactly when no print is outstanding. -/
structure Accounted (s : PromptState) : Prop where
  balanced : s.console.ttyconHide = s.console.ttyconShowOverdue
  hide : 0 ≤ s.console.ttyconHide
  overdue : 0 ≤ s.console.ttyconShowOverdue
  prompt : PromptOnScreen s.console ↔ s.outstanding = 0

/-- The condition on an operation: no print is outstanding when the process is
continued. -/
def ContinuesSettled (s : PromptState) : PromptAction → Prop
  | .sigCont => s.outstanding = 0
  | .print _ | .tab | .up | .down => True

instance (s : PromptState) : ∀ action, Decidable (ContinuesSettled s action)
  | .sigCont => inferInstanceAs (Decidable (s.outstanding = 0))
  | .print _ | .tab | .up | .down => isTrue trivial

/-!
### Erasing and writing

What stands on the output since the last erasure, which is what a user sees of
the line.
-/

section Screen

variable {stdout text : CString}

/-- Text without backspaces is added to what stands there. -/
theorem sinceErased_append (clean : '\x08' ∉ text) :
    sinceErased (stdout ++ text) = sinceErased stdout ++ text := by
  induction text using List.reverseRecOn with
  | nil => rw [List.append_nil, List.append_nil]
  | append_singleton text c inductionHypothesis =>
      rw [List.mem_append, not_or, List.mem_singleton] at clean
      have kept : decide (c ≠ '\x08') = true := decide_eq_true (Ne.symm clean.2)
      have before := inductionHypothesis clean.1
      rw [sinceErased] at before ⊢
      rw [← List.append_assoc, List.rtakeWhile_concat_pos (· ≠ '\x08') _ c kept,
        before, ← List.append_assoc]

theorem sinceErased_back (s : ConsoleState) : sinceErased s.back.stdout = [] := by
  show sinceErased (s.stdout ++ "\x08 \x08".toList) = []
  have split : s.stdout ++ "\x08 \x08".toList = s.stdout ++ "\x08 ".toList ++ ['\x08'] := by
    rw [List.append_assoc]
    rfl
  rw [split]
  exact List.rtakeWhile_concat_neg _ _ _ (by decide)

/-- Something is taken back whenever the prompt is. -/
theorem sinceErased_backs (s : ConsoleState) (rounds : Nat) :
    sinceErased (Nat.repeat ConsoleState.back (rounds + 1) s).stdout = [] := sinceErased_back _

end Screen

/-!
### The counters of one operation

How often the prompt is hidden, and how many prints are outstanding, before and
after one operation.
-/

/-- The prompt is hidden so many times: it is on the screen if that is not at
all, and else nothing is that has been written since. -/
structure Hidden (s : ConsoleState) (times : Nat) : Prop where
  on : s.ttyconOn = true
  hide : s.ttyconHide = times
  shown : times = 0 → PromptOnScreen s
  erased : times ≠ 0 → sinceErased s.stdout = []
  typed : '\x08' ∉ s.ttyCon

section Counters

variable {s : ConsoleState} {times : Nat}

/-- Erasing changes none of the counters. -/
theorem frame_backs (rounds : Nat) :
    (Nat.repeat ConsoleState.back rounds s).ttyconShowOverdue = s.ttyconShowOverdue ∧
      (Nat.repeat ConsoleState.back rounds s).ttyconHide = s.ttyconHide ∧
      (Nat.repeat ConsoleState.back rounds s).ttyCon = s.ttyCon := by
  induction rounds with
  | zero => exact ⟨rfl, rfl, rfl⟩
  | succ rounds inductionHypothesis => exact inductionHypothesis

theorem frame_hide : s.hide.ttyconShowOverdue = s.ttyconShowOverdue ∧ s.hide.ttyCon = s.ttyCon := by
  unfold ConsoleState.hide
  split
  · split
    · exact ⟨rfl, rfl⟩
    · exact ⟨(frame_backs _).1, (frame_backs _).2.2⟩
  · exact ⟨rfl, rfl⟩

theorem frame_show : s.show_.ttyconShowOverdue = s.ttyconShowOverdue ∧ s.show_.ttyCon = s.ttyCon := by
  unfold ConsoleState.show_
  dsimp only
  split
  · split <;> exact ⟨rfl, rfl⟩
  · exact ⟨rfl, rfl⟩

/-- `Hide` hides it once more. -/
theorem Hidden.once_more (hidden : Hidden s times) : Hidden s.hide (times + 1) := by
  have typed : '\x08' ∉ s.hide.ttyCon := by
    rw [frame_hide.2]
    exact hidden.typed
  have notShown : times + 1 = 0 → PromptOnScreen s.hide := fun impossible => absurd impossible (by omega)
  have counted : s.hide.ttyconHide = s.ttyconHide + 1 ∧ sinceErased s.hide.stdout = [] := by
    unfold ConsoleState.hide
    rw [if_pos hidden.on]
    by_cases already : s.ttyconHide = 0
    · rw [if_neg (not_not.mpr already)]
      exact ⟨congrArg (· + 1) (frame_backs _).2.1, sinceErased_backs s _⟩
    · rw [if_pos already]
      have times : times ≠ 0 := by
        rintro rfl
        exact already hidden.hide
      exact ⟨rfl, hidden.erased times⟩
  refine ⟨mode_hide.2.trans hidden.on, ?_, notShown, fun _ => counted.2, typed⟩
  rw [counted.1, hidden.hide]
  rfl

/-- `Show` takes that back, and writes the prompt if it was hidden just once. -/
theorem Hidden.once_less (hidden : Hidden s (times + 1)) : Hidden s.show_ times := by
  have typed : '\x08' ∉ s.show_.ttyCon := by
    rw [frame_show.2]
    exact hidden.typed
  have less : s.ttyconHide - 1 = times := by
    rw [hidden.hide]
    omega
  have erased : sinceErased s.stdout = [] := hidden.erased (by omega)
  refine ⟨mode_show.2.trans hidden.on, ?_, ?_, ?_, typed⟩
  · unfold ConsoleState.show_
    rw [if_pos hidden.on]
    dsimp only
    split
    · exact less
    · exact less
  · rintro rfl
    unfold ConsoleState.show_ PromptOnScreen
    rw [if_pos hidden.on]
    dsimp only
    rw [less, if_pos Int.natCast_zero]
    show ttyConsolePrompt <+: sinceErased (s.stdout ++ ttyConsolePrompt ++ s.ttyCon)
    rw [sinceErased_append hidden.typed, sinceErased_append (by decide), erased]
    exact List.prefix_append _ _
  · intro still
    unfold ConsoleState.show_
    rw [if_pos hidden.on]
    dsimp only
    rw [less, if_neg (by omega)]
    exact erased

/-- The loop that makes up for the deferred calls of `Show`. -/
theorem Hidden.showOverdue (hidden : Hidden s times) (overdue : s.ttyconShowOverdue = times) :
    Hidden (s.showOverdue times) 0 ∧ (s.showOverdue times).ttyconShowOverdue = 0 := by
  induction times generalizing s with
  | zero => exact ⟨hidden, overdue⟩
  | succ times inductionHypothesis =>
      have less := hidden.once_less
      apply inductionHypothesis
      · exact ⟨less.on, less.hide, less.shown, less.erased, less.typed⟩
      · show s.show_.ttyconShowOverdue - 1 = times
        rw [frame_show.1, overdue]
        omega

/-- A print counts its hidden prompt as overdue, or shows it for good. -/
theorem Hidden.restorePrompt {msg : CString} (hidden : Hidden s (times + 1))
    (overdue : s.ttyconShowOverdue = times) (some : msg ≠ []) :
    Hidden (s.restorePrompt msg) (outstandingAfter times msg) ∧
      (s.restorePrompt msg).ttyconShowOverdue = outstandingAfter times msg := by
  rw [outstandingAfter, if_neg some, ConsoleState.restorePrompt]
  by_cases ends : msg.getLast? = Option.some '\n'
  · rw [if_pos ends, if_pos ends]
    dsimp only
    have less := hidden.once_less
    have same : s.show_.ttyconShowOverdue = times := frame_show.1.trans overdue
    rw [same, Int.toNat_natCast]
    exact less.showOverdue same
  · rw [if_neg ends, if_neg ends]
    refine ⟨⟨hidden.on, hidden.hide, hidden.shown, hidden.erased, hidden.typed⟩, ?_⟩
    show s.ttyconShowOverdue + 1 = _
    rw [overdue]
    rfl

/-- Redrawing an editing line keeps the prompt hidden as often as before. -/
theorem Hidden.redraw {line : CString} (hidden : Hidden s times) (clean : '\x08' ∉ line) :
    Hidden (s.redraw line) times := by
  have more := hidden.once_more
  have edited : Hidden { s.hide with ttyCon := line } (times + 1) :=
    ⟨more.on, more.hide, more.shown, more.erased, clean⟩
  exact edited.once_less

theorem overdue_redraw {line : CString} : (s.redraw line).ttyconShowOverdue = s.ttyconShowOverdue :=
  frame_show.1.trans frame_hide.1

theorem locked_redraw {line : CString} : (s.redraw line).locked = s.locked :=
  mode_show.1.trans mode_hide.1

/-- A print, with the mutex free before it. -/
theorem Hidden.print {call : PrintCall} (hidden : Hidden s times) (overdue : s.ttyconShowOverdue = times)
    (free : s.locked = false) : ∃ t, call.step s = some t ∧ t.locked = false ∧
      Hidden t (outstandingAfter times call.msg) ∧
      t.ttyconShowOverdue = outstandingAfter times call.msg := by
  have with_ (label msg string : CString) : ∃ t, s.printWith label msg string = some t ∧
      t.locked = false ∧ Hidden t (outstandingAfter times msg) ∧
      t.ttyconShowOverdue = outstandingAfter times msg := by
    unfold ConsoleState.printWith
    by_cases silent : msg = []
    · refine ⟨s, if_pos silent, free, ?_⟩
      rw [outstandingAfter, if_pos silent]
      exact ⟨hidden, overdue⟩
    · let held : ConsoleState := { s with locked := true }
      have taken : s.lock = some held := by
        rw [ConsoleState.lock, free]
        rfl
      let printed : ConsoleState := held.hide.ansiColorPrint (label ++ string)
      have start : Hidden held times :=
        ⟨hidden.on, hidden.hide, hidden.shown, hidden.erased, hidden.typed⟩
      have more := start.once_more
      have waits : Hidden printed (times + 1) := ⟨more.on, more.hide, more.shown, more.erased, more.typed⟩
      have waitsOverdue : printed.ttyconShowOverdue = times := (@frame_hide held).1.trans overdue
      obtain ⟨restored, restoredOverdue⟩ := waits.restorePrompt waitsOverdue silent
      refine ⟨(printed.restorePrompt msg).unlock, ?_, rfl, ?_, restoredOverdue⟩
      · rw [if_neg silent, taken, Option.map_some, ConsoleState.printLocked,
          if_neg (by rw [waits.on]; decide)]
      · exact ⟨restored.on, restored.hide, restored.shown, restored.erased, restored.typed⟩
  cases call with
  | print msg string fits => exact with_ _ _ _
  | printInfo msg string fits => exact with_ _ _ _
  | printError msg string fits => exact with_ _ _ _

/-- `Init` starts the first counter anew, and shows the prompt. -/
theorem Hidden.init (hidden : Hidden s times) : Hidden (s.init s.ttyconOn) 0 ∧
    (s.init s.ttyconOn).ttyconShowOverdue = s.ttyconShowOverdue ∧
    (s.init s.ttyconOn).locked = s.locked := by
  let fresh : ConsoleState := { s with ttyCon := [], ttyconOn := true, ttyconHide := 1 }
  have shown : s.init s.ttyconOn = (({ fresh with ttyconHide := 0 } : ConsoleState).write
      ttyConsolePrompt).write [] := by
    rw [ConsoleState.init, hidden.on]
    rfl
  rw [shown]
  refine ⟨⟨rfl, rfl, fun _ => ?_, fun impossible => absurd rfl impossible, List.not_mem_nil⟩,
    rfl, rfl⟩
  show ttyConsolePrompt <+: sinceErased (s.stdout ++ ttyConsolePrompt ++ [])
  rw [List.append_nil, sinceErased_append (by decide)]
  by_cases onScreen : times = 0
  · exact (hidden.shown onScreen).trans (List.prefix_append _ _)
  · rw [hidden.erased onScreen]
    exact List.prefix_refl _

end Counters

/-!
### Runs

By induction on the operations. A process that is stopped and continued is the
one that may break the account.
-/

/-- The places of the history are inside it, and its lines hold no character
that `Input` takes as a Backspace. -/
structure TtyHistory.Inside (h : TtyHistory) : Prop where
  size : h.editLines.length = qconsoleHistory
  current : -1 ≤ h.histCurrent ∧ h.histCurrent < qconsoleHistory
  count : h.histCount ≤ qconsoleHistory
  typed : ∀ line ∈ h.editLines, '\x08' ∉ line

namespace TtyHistory.Inside

variable {h : TtyHistory}

/-- A place inside the history has a line, and it can be drawn. -/
theorem fetch (inside : h.Inside) {place : Int} (inRange : 0 ≤ place ∧ place < qconsoleHistory) :
    ∃ line, Buffer.fetch h.editLines place = some line ∧ '\x08' ∉ line := by
  have among : place.toNat < h.editLines.length := by
    rw [inside.size]
    omega
  refine ⟨h.editLines[place.toNat], ?_, inside.typed _ (List.getElem_mem among)⟩
  rw [Buffer.fetch, if_pos inRange.1, List.getElem?_eq_getElem among]

theorem histPrev (inside : h.Inside) : ∃ found, h.histPrev = some found ∧ found.2.Inside ∧
    ∀ line ∈ found.1, '\x08' ∉ line := by
  have current := inside.current
  have count := inside.count
  unfold TtyHistory.histPrev
  by_cases oldest : h.histCurrent + 1 ≥ h.histCount
  · exact ⟨(none, h), if_pos oldest, inside, fun line impossible => absurd impossible (by simp)⟩
  · have inRange : 0 ≤ h.histCurrent + 1 ∧ h.histCurrent + 1 < qconsoleHistory := by omega
    obtain ⟨line, found, typed⟩ := inside.fetch inRange
    refine ⟨_, (if_neg oldest).trans (Option.bind_eq_some_iff.mpr ⟨line, found, rfl⟩), ?_, ?_⟩
    · exact ⟨inside.size, ⟨Int.le_trans (by decide) inRange.1, inRange.2⟩, count, inside.typed⟩
    · intro other same
      cases same
      exact typed

theorem histNext (inside : h.Inside) : ∃ found, h.histNext = some found ∧ found.2.Inside ∧
    '\x08' ∉ found.1.getD [] := by
  have current := inside.current
  unfold TtyHistory.histNext
  by_cases edited : h.histCurrent = -1
  · have stays : (if h.histCurrent ≥ 0 then { h with histCurrent := h.histCurrent - 1 } else h) = h :=
      if_neg (by omega)
    simp only [stays]
    exact ⟨(none, h), if_pos edited, inside, List.not_mem_nil⟩
  · simp only [if_pos (show h.histCurrent ≥ 0 by omega)]
    have newer : TtyHistory.Inside { h with histCurrent := h.histCurrent - 1 } :=
      ⟨inside.size, ⟨show -1 ≤ h.histCurrent - 1 by omega, show h.histCurrent - 1 < _ by omega⟩,
        inside.count, inside.typed⟩
    by_cases newest : h.histCurrent - 1 = -1
    · exact ⟨(none, _), if_pos newest, newer, List.not_mem_nil⟩
    · obtain ⟨line, found, typed⟩ := inside.fetch (show 0 ≤ h.histCurrent - 1 ∧ _ by omega)
      exact ⟨_, (if_neg newest).trans (Option.bind_eq_some_iff.mpr ⟨line, found, rfl⟩), newer, typed⟩

end TtyHistory.Inside

/-- The state with no print half done: the mutex is free, and both counters
count the prints outstanding. -/
structure Settled (s : PromptState) : Prop where
  free : s.console.locked = false
  hidden : Hidden s.console s.outstanding
  overdue : s.console.ttyconShowOverdue = s.outstanding
  history : s.history.Inside

namespace Settled

variable {s t : PromptState} {action : PromptAction}

/-- Between the operations the prompt is accounted for. -/
theorem accounted (settled : Settled s) : Accounted s where
  balanced := settled.hidden.hide.trans settled.overdue.symm
  hide := settled.hidden.hide ▸ Int.natCast_nonneg _
  overdue := settled.overdue ▸ Int.natCast_nonneg _
  prompt := by
    constructor
    · intro onScreen
      by_contra hidden
      rw [PromptOnScreen, settled.hidden.erased hidden] at onScreen
      exact absurd (List.prefix_nil.mp onScreen) (by decide)
    · exact settled.hidden.shown

/-- Redrawing with another line or history keeps the account. -/
theorem redraw {line : CString} {history : TtyHistory} (settled : Settled s) (typed : '\x08' ∉ line)
    (inside : history.Inside) :
    Settled { s with console := s.console.redraw line, history := history } where
  free := locked_redraw.trans settled.free
  hidden := settled.hidden.redraw typed
  overdue := overdue_redraw.trans settled.overdue
  history := inside

/-- An operation that meets the condition keeps the prompt accounted for. -/
theorem step (settled : Settled s) (ok : ContinuesSettled s action) :
    ∃ t, s.step action = some t ∧ Settled t := by
  cases action with
  | print call =>
      obtain ⟨console, printed, free, hidden, overdue⟩ :=
        @Hidden.print _ _ call settled.hidden settled.overdue settled.free
      refine ⟨{ s with console := console, outstanding := outstandingAfter s.outstanding call.msg },
        ?_, free,
        hidden, overdue, settled.history⟩
      rw [PromptState.step, printed]
      rfl
  | tab =>
      have more := settled.hidden.once_more
      exact ⟨_, rfl, mode_show.1.trans (mode_hide.1.trans settled.free), more.once_less,
        frame_show.1.trans (frame_hide.1.trans settled.overdue), settled.history⟩
  | up =>
      obtain ⟨⟨line?, history⟩, found, inside, typed⟩ := settled.history.histPrev
      rw [PromptState.step, found]
      cases line? with
      | none => exact ⟨_, rfl, settled.free, settled.hidden, settled.overdue, inside⟩
      | some line => exact ⟨_, rfl, settled.redraw (typed line rfl) inside⟩
  | down =>
      obtain ⟨found, moved, inside, typed⟩ := settled.history.histNext
      rw [PromptState.step, moved]
      exact ⟨_, rfl, settled.redraw typed inside⟩
  | sigCont =>
      have none : s.outstanding = 0 := ok
      obtain ⟨shown, overdue, lock⟩ := settled.hidden.init
      refine ⟨_, rfl, lock.trans settled.free, ?_, overdue.trans settled.overdue, settled.history⟩
      show Hidden _ s.outstanding
      rw [none]
      exact shown

/-- And no other operation does: the process is continued with a print
outstanding, and the second counter still counts it. -/
theorem accounted_step_iff (settled : Settled s) :
    (∃ t, s.step action = some t ∧ Accounted t) ↔ ContinuesSettled s action := by
  constructor
  · rintro ⟨t, stepped, accounted⟩
    cases action with
    | sigCont =>
        cases stepped
        obtain ⟨shown, overdue, -⟩ := settled.hidden.init
        have balanced : (0 : Int) = s.outstanding :=
          shown.hide.symm.trans (accounted.balanced.trans (overdue.trans settled.overdue))
        exact (Int.natCast_eq_zero.mp balanced.symm)
    | _ => trivial
  · intro ok
    obtain ⟨t, stepped, settled'⟩ := settled.step ok
    exact ⟨t, stepped, settled'.accounted⟩

end Settled

/-- The console is constructed in terminal mode, next to any history. -/
theorem settled_new {isatty : Bool} {term : Option CString} {history : TtyHistory}
    (terminal : ConsoleState.stdinIsATTY isatty term = true) (inside : history.Inside) :
    Settled { console := .new isatty term, history := history, outstanding := 0 } := by
  let fresh : ConsoleState := { (ConsoleState.off) with ttyconOn := true, ttyconHide := 1 }
  have shown : ConsoleState.new isatty term = fresh.show_ := by
    rw [ConsoleState.new, terminal]
    rfl
  have once : Hidden fresh (0 + 1) :=
    ⟨rfl, rfl, fun impossible => absurd impossible (by decide), fun _ => rfl, List.not_mem_nil⟩
  rw [shown]
  exact ⟨mode_show.1, once.once_less, frame_show.1, inside⟩

/-- From a settled state the prompt is accounted for in every state that a run
reaches exactly if no print is outstanding whenever the process is continued. -/
theorem prompt_accounted_iff {s : PromptState} (settled : Settled s) (actions : List PromptAction) :
    (∀ before after, actions = before ++ after →
        ∃ t, run PromptState.step s before = some t ∧ Accounted t) ↔
      StepsMeet PromptState.step ContinuesSettled s actions := by
  rw [← stepsMeet_iff_runs settled.accounted]
  apply stepsMeet_iff_of_invariant _ _ settled
  · intro s action settled
    exact settled.accounted_step_iff
  · intro s action u settled ok stepped
    obtain ⟨t, stepped', settled'⟩ := settled.step ok
    cases stepped.symm.trans stepped'
    exact settled'

/-!
### A process that is continued

Continued while no print is outstanding, the console keeps the account.
Continued with half a line printed it does not.
-/

/-- A console that was just constructed. -/
def newPrompt : PromptState :=
  { console := .new true none, history := .new (Vector.replicate 32 []), outstanding := 0 }

/-- Half a line is printed, and the rest of it; then the process is continued. -/
def continuedBetween : List PromptAction :=
  [.print letterPrinted, .tab, .print (.printInfo ['b', '\n'] ['b', '\n'] (by decide)), .sigCont, .down]

/-- The process is continued with half a line printed. -/
def continuedWithin : List PromptAction :=
  [.print letterPrinted, .sigCont, .print (.print ['b', '\n'] ['b', '\n'] (by decide))]

/-- A console that has just been set up is settled. -/
theorem settled_newPrompt : Settled newPrompt := by
  apply settled_new
  · decide
  · refine ⟨rfl, ⟨by decide, by decide⟩, by decide, ?_⟩
    intro line entry
    rw [List.eq_of_mem_replicate entry]
    exact List.not_mem_nil

theorem prompt_accounted_between :
    StepsMeet PromptState.step ContinuesSettled newPrompt continuedBetween ∧
      ∀ before after, continuedBetween = before ++ after →
        ∃ t, run PromptState.step newPrompt before = some t ∧ Accounted t := by
  have meets : StepsMeet PromptState.step ContinuesSettled newPrompt continuedBetween := by decide +kernel
  exact ⟨meets, (prompt_accounted_iff settled_newPrompt continuedBetween).mpr meets⟩

/-- The first counter is 0 and the second 1 when the process is continued; the
rest of the line then makes the first one negative. -/
theorem prompt_lost_within :
    (run PromptState.step newPrompt continuedWithin).map
        (fun t => (t.console.ttyconHide, t.console.ttyconShowOverdue)) = some (-1, 0) ∧
      ¬ ∀ before after, continuedWithin = before ++ after →
        ∃ t, run PromptState.step newPrompt before = some t ∧ Accounted t := by
  have negative : (run PromptState.step newPrompt continuedWithin).map
      (fun t => (t.console.ttyconHide, t.console.ttyconShowOverdue)) = some (-1, 0) := by decide +kernel
  refine ⟨negative, ?_⟩
  intro accounted
  obtain ⟨t, ran, good⟩ := accounted continuedWithin [] (List.append_nil _).symm
  rw [ran, Option.map_some, Option.some.injEq, Prod.mk.injEq] at negative
  have nonneg := good.hide
  omega

end Q3df.Server
