/-
Module: Q3df.Server.ConsoleHistory
Layer: Server
Purpose: The command history of the two consoles. One shifts an array, the other keeps a ring whose
  oldest place also marks the line being edited. Both are compared with one description: the recent
  lines, and a place among them that Up and Down move. The array follows it with all of its 32
  lines. The ring follows it with 31, as it cannot step onto the oldest place; so the two agree
  until 32 lines are submitted.
Imports: Q3df.Library.Transition, Q3df.Server.ConsoleWin32
Trusted boundary: human-reviewed transcription of server/ConsoleTty.cc (HistAdd, HistPrev, HistNext
  and the Return, Up and Down of Input); a field is what is typed up to the cursor
Main exports: TtyHistory, TtyEditor, SubmittedLine, HistoryAction, lineAt, HistoryKey.move,
  TtyRecalls, Win32Recalls, consoles_recall_iff
Open obligations: none
-/
import Q3df.Library.Transition
import Q3df.Server.ConsoleWin32

namespace Q3df.Server

open Q3df.Buffer Q3df.Transition

/-!
### The history of the terminal console

An array of 32 fields with the newest line in front, and a place that says how
far the user has gone back.
-/

/-- The fields of the history; the lines are the contents of `ttyEditLines_`. -/
structure TtyHistory where
  editLines : List CString
  histCurrent : Int
  histCount : Int
deriving DecidableEq

namespace TtyHistory

/-- The constructor; the lines are whatever was there before. -/
def new (memory : Vector CString qconsoleHistory) : TtyHistory :=
  { editLines := memory.toList, histCurrent := -1, histCount := 0 }

/-- `HistAdd`. Room is made by `lines[i] = lines[i - 1]` for `i` from the last
line down to 1. -/
def histAdd (h : TtyHistory) (field : CString) : Option TtyHistory :=
  if field = [] then some h
  else do
    let editLines ← shiftUp (qconsoleHistory - 1) (qconsoleHistory - 2) h.editLines
    let editLines ← store editLines 0 field
    some
      { editLines := editLines
        histCurrent := -1
        histCount := if h.histCount < qconsoleHistory then h.histCount + 1 else h.histCount }

/-- `HistPrev`: the line, if there is one, and the history. -/
def histPrev (h : TtyHistory) : Option (Option CString × TtyHistory) :=
  if h.histCurrent + 1 ≥ h.histCount then some (none, h)
  else do
    let h : TtyHistory := { h with histCurrent := h.histCurrent + 1 }
    let line ← fetch h.editLines h.histCurrent
    some (some line, h)

/-- `HistNext`. -/
def histNext (h : TtyHistory) : Option (Option CString × TtyHistory) :=
  let h : TtyHistory := if h.histCurrent ≥ 0 then { h with histCurrent := h.histCurrent - 1 } else h
  if h.histCurrent = -1 then some (none, h)
  else do
    let line ← fetch h.editLines h.histCurrent
    some (some line, h)

end TtyHistory

/-- The edit line of the terminal console, `TTY_con_`, and the history. -/
structure TtyEditor where
  ttyCon : CString
  history : TtyHistory
deriving DecidableEq

namespace TtyEditor

def new (memory : Vector CString qconsoleHistory) : TtyEditor :=
  { ttyCon := [], history := .new memory }

/-- Return: the line, and what is left. -/
def returnKey (s : TtyEditor) : Option (CString × TtyEditor) :=
  (s.history.histAdd s.ttyCon).map fun history => (s.ttyCon, { ttyCon := [], history := history })

/-- Up. Without an older line the edit line stays. -/
def upKey (s : TtyEditor) : Option TtyEditor :=
  s.history.histPrev.map fun found => { ttyCon := found.1.getD s.ttyCon, history := found.2 }

/-- Down. Without a newer line the edit line is cleared. -/
def downKey (s : TtyEditor) : Option TtyEditor :=
  s.history.histNext.map fun found => { ttyCon := found.1.getD [], history := found.2 }

end TtyEditor

/-!
### Sessions

A session is a sequence of lines that were submitted and of keys pressed in between.
-/

/-- A line that can be submitted: not blank, and no longer than the edit line. -/
structure SubmittedLine where
  text : CString
  nonblank : text ≠ []
  fits : text.length < maxEditLine
  terminated : '\x00' ∉ text

/-- The keys that move through the history. -/
inductive HistoryKey where
  | up
  | down
deriving Repr, DecidableEq

/-- What the user does: bring the edit line to this text and submit it, or move
through the history. -/
inductive HistoryAction where
  | submit (line : SubmittedLine)
  | press (key : HistoryKey)

/-- The lines submitted in a session, the most recent one first, before some
that were there already. -/
def submittedLines (lines : List CString) : List HistoryAction → List CString
  | [] => lines
  | .submit line :: session => submittedLines (line.text :: lines) session
  | .press _ :: session => submittedLines lines session

/-- A session can be cut in two. -/
theorem submittedLines_append (lines : List CString) (session rest : List HistoryAction) :
    submittedLines lines (session ++ rest) = submittedLines (submittedLines lines session) rest := by
  induction session generalizing lines with
  | nil => rfl
  | cons action session inductionHypothesis =>
      cases action with
      | submit line => exact inductionHypothesis (line.text :: lines)
      | press key => exact inductionHypothesis lines

/-- One action on the terminal console. -/
def TtyEditor.act (s : TtyEditor) : HistoryAction → Option TtyEditor
  | .submit line => ({ s with ttyCon := line.text } : TtyEditor).returnKey.map Prod.snd
  | .press .up => s.upKey
  | .press .down => s.downKey

/-- The record of a key that is pressed and types nothing. -/
def keyRecord (key : VirtualKey) : InputRecord :=
  { isKeyEvent := true, bKeyDown := true, wVirtualKeyCode := key, asciiChar := '\x00' }

/-- One action on the Windows console. -/
def Win32Console.act (s : Win32Console) : HistoryAction → Option Win32Console
  | .submit line =>
      let s : Win32Console :=
        { s with line := copyToLine line.text, linelen := line.text.length, cursorPosOffset := 0 }
      (s.input [keyRecord .return_]).map Prod.fst
  | .press .up => (s.input [keyRecord .up]).map Prod.fst
  | .press .down => (s.input [keyRecord .down]).map Prod.fst

/-!
### What a history is for

After any session, pressing the key up shows the lines in the order from the
newest to the oldest.
-/

/-- The line at a place: place 0 is the empty line being edited, and place `k`
has the `k`-th most recent line. -/
def lineAt (lines : List CString) : Nat → CString
  | 0 => []
  | place + 1 => lines.getD place []

/-- Up goes to the next older line, as far as there is one, and Down back to the
next newer one. -/
def HistoryKey.move (oldest place : Nat) : HistoryKey → Nat
  | .up => min (place + 1) oldest
  | .down => place - 1

/-- The place after some keys, from the line being edited. -/
def placeAfter (oldest : Nat) (presses : List HistoryKey) : Nat :=
  presses.foldl (HistoryKey.move oldest) 0

/-- From this state on, the console has these lines for its history: whatever
keys are pressed, no access is outside an array, and the line shown is the one
at their place among the last 32. -/
def Recalls {σ : Type*} (act : σ → HistoryAction → Option σ) (shown : σ → CString) (s : σ)
    (lines : List CString) : Prop :=
  ∀ presses : List HistoryKey, ∃ t, run act s (presses.map .press) = some t ∧
    shown t = lineAt lines (placeAfter (min lines.length qconsoleHistory) presses)

/-- After the session and one more line, the terminal console recalls the lines
submitted. -/
def TtyRecalls (memory : Vector CString qconsoleHistory) (session : List HistoryAction)
    (last : SubmittedLine) : Prop :=
  ∃ s, run TtyEditor.act (.new memory) (session ++ [.submit last]) = some s ∧
    Recalls TtyEditor.act TtyEditor.ttyCon s (submittedLines [] (session ++ [.submit last]))

/-- After the session and one more line, the Windows console recalls the lines
submitted. -/
def Win32Recalls (memory : Vector Char maxEditLine) (session : List HistoryAction)
    (last : SubmittedLine) : Prop :=
  ∃ s, run Win32Console.act (.new memory) (session ++ [.submit last]) = some s ∧
    Recalls Win32Console.act Win32Console.shown s (submittedLines [] (session ++ [.submit last]))

/-!
### Consoles that follow a session

A console follows the sessions up to a limit if it is always at some place among
the lines submitted, the ends of its way being the line edited and the limit.
-/

section Following

variable {σ : Type*} {act : σ → HistoryAction → Option σ} {shown : σ → CString}
  {at_ : σ → List CString → Nat → Prop} {limit place : Nat} {s : σ} {lines : List CString}

structure Follows (act : σ → HistoryAction → Option σ) (shown : σ → CString)
    (at_ : σ → List CString → Nat → Prop) (limit : Nat) : Prop where
  shows : ∀ {s lines place}, at_ s lines place → shown s = lineAt lines place
  submit : ∀ {s lines place} (line : SubmittedLine), at_ s lines place →
    ∃ t, act s (.submit line) = some t ∧ at_ t (line.text :: lines) 0
  press : ∀ {s lines place} (key : HistoryKey), at_ s lines place →
    ∃ t, act s (.press key) = some t ∧ at_ t lines (key.move (min lines.length limit) place)

namespace Follows

/-- A console that follows gets through every session. -/
theorem run_session (follows : Follows act shown at_ limit) (session : List HistoryAction)
    (here : at_ s lines place) :
    ∃ t place', run act s session = some t ∧ at_ t (submittedLines lines session) place' := by
  induction session generalizing s lines place with
  | nil => exact ⟨s, place, rfl, here⟩
  | cons action session inductionHypothesis =>
      cases action with
      | submit line =>
          obtain ⟨u, acted, there⟩ := follows.submit line here
          obtain ⟨t, place', ran, last⟩ := inductionHypothesis there
          exact ⟨t, place', run_cons_eq_some.mpr ⟨u, acted, ran⟩, last⟩
      | press key =>
          obtain ⟨u, acted, there⟩ := follows.press key here
          obtain ⟨t, place', ran, last⟩ := inductionHypothesis there
          exact ⟨t, place', run_cons_eq_some.mpr ⟨u, acted, ran⟩, last⟩

/-- A console that follows gets through every sequence of keys. -/
theorem run_presses (follows : Follows act shown at_ limit) (presses : List HistoryKey)
    (here : at_ s lines place) :
    ∃ t, run act s (presses.map .press) = some t ∧
      at_ t lines (presses.foldl (HistoryKey.move (min lines.length limit)) place) := by
  induction presses generalizing s place with
  | nil => exact ⟨s, rfl, here⟩
  | cons key presses inductionHypothesis =>
      obtain ⟨u, acted, there⟩ := follows.press key here
      obtain ⟨t, ran, last⟩ := inductionHypothesis there
      exact ⟨t, run_cons_eq_some.mpr ⟨u, acted, ran⟩, last⟩

/-- After a session that ends in a submission the console is at the line edited,
and goes from there to every place within its limit. -/
theorem after_submission (follows : Follows act shown at_ limit) (session : List HistoryAction)
    (last : SubmittedLine) (here : at_ s [] place) :
    ∃ t, run act s (session ++ [.submit last]) = some t ∧
      ∀ presses : List HistoryKey, ∃ u, run act t (presses.map .press) = some u ∧
        shown u = lineAt (submittedLines [] (session ++ [.submit last]))
          (placeAfter (min (submittedLines [] (session ++ [.submit last])).length limit) presses) := by
  obtain ⟨u, place', ran, there⟩ := follows.run_session session here
  obtain ⟨t, acted, atLast⟩ := follows.submit last there
  refine ⟨t, run_append_eq_some.mpr ⟨u, ran, run_cons_eq_some.mpr ⟨t, acted, rfl⟩⟩, ?_⟩
  intro presses
  rw [submittedLines_append]
  obtain ⟨v, pressed, there⟩ := follows.run_presses presses atLast
  exact ⟨v, pressed, follows.shows there⟩

end Follows

end Following

/-- The line at a place is the one with this index, counted from one. -/
theorem lineAt_of_getElem? {lines : List CString} {place : Nat} {text : CString}
    (found : lines[place]? = some text) : lineAt lines (place + 1) = text := by
  rw [lineAt, List.getD_eq_getElem?_getD, found, Option.getD_some]

/-!
### The terminal console follows with all 32 lines

The newest lines are the first in the array. Each submission shifts the others
by one.
-/

/-- The history has the last 32 of these lines. -/
structure TtyHistory.Holds (h : TtyHistory) (lines : List CString) : Prop where
  size : h.editLines.length = qconsoleHistory
  count : h.histCount = (min lines.length qconsoleHistory : Nat)
  entries : ∀ i < min lines.length qconsoleHistory, h.editLines[i]? = lines[i]?

namespace TtyHistory.Holds

variable {h : TtyHistory} {lines : List CString} {line : CString}

/-- The new line comes first, and the last line is dropped. -/
theorem histAdd_eq (holds : h.Holds lines) (nonblank : line ≠ []) :
    ∃ older oldest, h.editLines = older ++ [oldest] ∧ h.histAdd line = some
      { editLines := line :: older
        histCurrent := -1
        histCount := if h.histCount < qconsoleHistory then h.histCount + 1 else h.histCount } := by
  have size : h.editLines.length = 31 + 1 := holds.size
  obtain ⟨older, oldest, split⟩ : ∃ older oldest, h.editLines = older ++ [oldest] := by
    rcases List.eq_nil_or_concat h.editLines with empty | ⟨older, oldest, split⟩
    · rw [empty] at size
      cases size
    · exact ⟨older, oldest, split.trans List.concat_eq_append⟩
  have length : older.length = 31 := by
    rw [split, List.length_append, List.length_singleton] at size
    omega
  have room : (30 : Int) + 1 = ([] ++ older).length := by
    rw [List.nil_append, length]
    rfl
  obtain ⟨left, moved⟩ := @shiftUp_middle _ [] older [] 30 oldest room
  rw [length, List.append_nil, List.nil_append, List.nil_append, ← split] at moved
  have stored : store (left :: older) 0 line = some (line :: older) :=
      @store_middle _ [] older 0 left line rfl
  refine ⟨older, oldest, split, ?_⟩
  rw [TtyHistory.histAdd, if_neg nonblank]
  exact Option.bind_eq_some_iff.mpr ⟨_, moved, Option.bind_eq_some_iff.mpr ⟨_, stored, rfl⟩⟩

/-- A line that is submitted becomes the newest one. -/
theorem histAdd (holds : h.Holds lines) (nonblank : line ≠ []) :
    ∃ h', h.histAdd line = some h' ∧ h'.histCurrent = -1 ∧ h'.Holds (line :: lines) := by
  obtain ⟨older, oldest, split, added⟩ := holds.histAdd_eq nonblank
  have size := holds.size
  rw [split, List.length_append, List.length_singleton] at size
  refine ⟨_, added, rfl, ?_⟩
  constructor
  · exact size
  · show (if h.histCount < qconsoleHistory then h.histCount + 1 else h.histCount) = _
    rw [holds.count, List.length_cons]
    unfold qconsoleHistory
    split
    · omega
    · omega
  · intro i inside
    cases i with
    | zero => rfl
    | succ i =>
        rw [List.length_cons] at inside
        have kept := holds.entries i (by omega)
        rw [split, List.getElem?_append_left (by omega)] at kept
        exact kept

/-- A place among the lines has its line. -/
theorem fetch_line (holds : h.Holds lines) {place : Nat}
    (inside : place < min lines.length qconsoleHistory) :
    fetch h.editLines place = some (lineAt lines (place + 1)) := by
  have among : place < lines.length := by omega
  rw [fetch, if_pos (Int.natCast_nonneg place), Int.toNat_natCast, holds.entries place inside,
    List.getElem?_eq_getElem among, lineAt_of_getElem? (List.getElem?_eq_getElem among)]

/-- One step back shows the next older line. -/
theorem histPrev_older (holds : h.Holds lines) {place : Nat} (current : h.histCurrent = place - 1)
    (older : place < min lines.length qconsoleHistory) :
    h.histPrev = some (some (lineAt lines (place + 1)), { h with histCurrent := place }) := by
  have next : h.histCurrent + 1 = place := by omega
  have among : ¬ h.histCurrent + 1 ≥ h.histCount := by
    rw [next, holds.count]
    omega
  rw [TtyHistory.histPrev, if_neg among, next]
  exact Option.bind_eq_some_iff.mpr ⟨_, holds.fetch_line older, rfl⟩

/-- At the oldest line there is no step back. -/
theorem histPrev_oldest (holds : h.Holds lines) {place : Nat} (current : h.histCurrent = place - 1)
    (oldest : ¬ place < min lines.length qconsoleHistory) : h.histPrev = some (none, h) := by
  have last : h.histCurrent + 1 ≥ h.histCount := by
    rw [current, holds.count]
    omega
  rw [TtyHistory.histPrev, if_pos last]

/-- One step forth shows the next newer line. -/
theorem histNext_line (holds : h.Holds lines) {place : Nat} (current : h.histCurrent = (place : Int) + 1)
    (inside : place < min lines.length qconsoleHistory) :
    h.histNext = some (some (lineAt lines (place + 1)), { h with histCurrent := place }) := by
  have back : h.histCurrent - 1 = place := by omega
  have among : (place : Int) ≠ -1 := by omega
  rw [TtyHistory.histNext]
  simp only [if_pos (show h.histCurrent ≥ 0 by omega), back, if_neg among]
  exact Option.bind_eq_some_iff.mpr ⟨_, holds.fetch_line inside, rfl⟩

end TtyHistory.Holds

/-- From the most recent line, or from the line edited, Down leads to the latter. -/
theorem TtyHistory.histNext_newest {h : TtyHistory} (current : h.histCurrent = -1 ∨ h.histCurrent = 0) :
    h.histNext = some (none, { h with histCurrent := -1 }) := by
  rcases current with edited | newest
  · rw [TtyHistory.histNext, edited]
    simp only [if_neg (show ¬ (-1 : Int) ≥ 0 by decide), edited, if_true]
    rw [← edited]
  · rw [TtyHistory.histNext, newest]
    rfl

/-- The editor is at this place of its history. -/
structure TtyEditor.AtPlace (s : TtyEditor) (lines : List CString) (place : Nat) : Prop where
  holds : s.history.Holds lines
  current : s.history.histCurrent = place - 1
  within : place ≤ min lines.length qconsoleHistory
  line : s.ttyCon = lineAt lines place

/-- The terminal console follows every session with all the lines it can hold. -/
theorem ttyEditor_follows : Follows TtyEditor.act TtyEditor.ttyCon TtyEditor.AtPlace qconsoleHistory where
  shows := fun here => here.line
  submit := by
    intro s lines place line here
    obtain ⟨history, added, current, holds⟩ := here.holds.histAdd line.nonblank
    refine ⟨{ ttyCon := [], history := history }, ?_, holds, current, Nat.zero_le _, rfl⟩
    rw [TtyEditor.act, TtyEditor.returnKey, added]
    rfl
  press := by
    intro s lines place key here
    cases key with
    | up =>
        by_cases older : place < min lines.length qconsoleHistory
        · refine ⟨{ ttyCon := lineAt lines (place + 1)
                    history := { s.history with histCurrent := place } }, ?_, ?_⟩
          · rw [TtyEditor.act, TtyEditor.upKey, here.holds.histPrev_older here.current older]
            rfl
          · refine ⟨⟨here.holds.size, here.holds.count, here.holds.entries⟩, ?_, ?_, ?_⟩
            · show (place : Int) = (min (place + 1) (min lines.length qconsoleHistory) : Nat) - 1
              omega
            · exact Nat.min_le_right _ _
            · rw [HistoryKey.move, Nat.min_eq_left older]
        · refine ⟨s, ?_, ?_⟩
          · rw [TtyEditor.act, TtyEditor.upKey, here.holds.histPrev_oldest here.current older]
            rfl
          · have stays : HistoryKey.up.move (min lines.length qconsoleHistory) place = place := by
              rw [HistoryKey.move]
              have within := here.within
              omega
            rw [stays]
            exact here
    | down =>
        by_cases recent : place ≤ 1
        · have newest : s.history.histCurrent = -1 ∨ s.history.histCurrent = 0 := by
            have current := here.current
            omega
          have edited : HistoryKey.down.move (min lines.length qconsoleHistory) place = 0 := by
            rw [HistoryKey.move]
            omega
          refine ⟨{ ttyCon := [], history := { s.history with histCurrent := -1 } }, ?_, ?_⟩
          · rw [TtyEditor.act, TtyEditor.downKey, TtyHistory.histNext_newest newest]
            rfl
          · rw [edited]
            exact ⟨⟨here.holds.size, here.holds.count, here.holds.entries⟩, rfl, Nat.zero_le _, rfl⟩
        · obtain ⟨newer, rfl⟩ : ∃ newer, place = newer + 2 := ⟨place - 2, by omega⟩
          have within := here.within
          have current : s.history.histCurrent = (newer : Int) + 1 := by
            rw [here.current]
            omega
          refine ⟨{ ttyCon := lineAt lines (newer + 1)
                    history := { s.history with histCurrent := newer } }, ?_, ?_⟩
          · rw [TtyEditor.act, TtyEditor.downKey, here.holds.histNext_line current (by omega)]
            rfl
          · refine ⟨⟨here.holds.size, here.holds.count, here.holds.entries⟩, ?_, ?_, rfl⟩
            · show (newer : Int) = ((newer + 2 - 1 : Nat) : Int) - 1
              omega
            · rw [HistoryKey.move]
              omega

/-- The terminal console recalls the last 32 lines in every session. -/
theorem ttyRecalls_always (memory : Vector CString qconsoleHistory) (session : List HistoryAction)
    (last : SubmittedLine) : TtyRecalls memory session last := by
  have constructed : (TtyEditor.new memory).AtPlace [] 0 := by
    refine ⟨⟨memory.size_toArray, rfl, ?_⟩, rfl, Nat.le_refl 0, rfl⟩
    intro i impossible
    exact absurd impossible (Nat.not_lt_zero i)
  exact ttyEditor_follows.after_submission session last constructed

/-!
### The Windows console follows with 31 lines

The entries are a ring in which a new line takes the oldest place. The line
being edited is kept at that place too, which leaves 31 entries to recall.
-/

/-- A line that fits is copied whole. -/
theorem cStr_copyToLine {text : CString} (fits : text.length < maxEditLine) (terminated : '\x00' ∉ text) :
    cStr (copyToLine text) = text := by
  have whole : text.take (maxEditLine - 1) = text := List.take_of_length_le (Nat.le_sub_one_of_lt fits)
  rw [copyToLine, whole, cStr_append terminated, cStr, List.takeWhile_replicate]
  exact List.append_nil text

theorem length_copyToLine {text : CString} (fits : text.length < maxEditLine) :
    (copyToLine text).length = maxEditLine := by
  have whole : text.take (maxEditLine - 1) = text := List.take_of_length_le (Nat.le_sub_one_of_lt fits)
  rw [copyToLine, whole, List.length_append, List.length_replicate]
  omega

theorem take_copyToLine {text : CString} (fits : text.length < maxEditLine) :
    (copyToLine text).take text.length = text := by
  have whole : text.take (maxEditLine - 1) = text := List.take_of_length_le (Nat.le_sub_one_of_lt fits)
  rw [copyToLine, whole, List.take_left]

/-- The place of the ring that is so many places before the oldest one. -/
def ringPlace (oldest place : Nat) : Nat := (oldest + qconsoleHistory - place) % qconsoleHistory

section RingPlace

variable {oldest place : Nat}

theorem ringPlace_lt : ringPlace oldest place < qconsoleHistory := Nat.mod_lt _ (by decide)

theorem ringPlace_zero (inside : oldest < qconsoleHistory) : ringPlace oldest 0 = oldest := by
  rw [ringPlace, Nat.sub_zero, Nat.add_mod_right, Nat.mod_eq_of_lt inside]

/-- Only the line edited is at the oldest place. -/
theorem ringPlace_ne (inside : oldest < qconsoleHistory) (within : place < qconsoleHistory - 1) :
    ringPlace oldest (place + 1) ≠ oldest := by
  unfold ringPlace qconsoleHistory at *
  omega

/-- Going around the ring once ends where it began. -/
theorem ringPlace_all (inside : oldest < qconsoleHistory) : ringPlace oldest qconsoleHistory = oldest := by
  rw [ringPlace, Nat.add_sub_cancel, Nat.mod_eq_of_lt inside]

/-- Before the ring is full its places are those of an array. -/
theorem ringPlace_unwrapped (inside : oldest < qconsoleHistory) (within : place < qconsoleHistory) :
    ringPlace oldest (place + 1) < oldest ↔ place < oldest := by
  unfold ringPlace qconsoleHistory at *
  omega

/-- With a new oldest place everything is one place further away. -/
theorem ringPlace_next (inside : oldest < qconsoleHistory) (within : place < qconsoleHistory) :
    ringPlace ((oldest + 1) % qconsoleHistory) (place + 1) = ringPlace oldest place := by
  unfold ringPlace qconsoleHistory at *
  omega

/-- One step back in the ring. -/
theorem ringPlace_back (inside : oldest < qconsoleHistory) (within : place < qconsoleHistory) :
    (if (ringPlace oldest place : Int) < 1 then (qconsoleHistory : Int) - 1
      else ringPlace oldest place - 1) = ringPlace oldest (place + 1) := by
  unfold ringPlace qconsoleHistory at *
  split
  · omega
  · omega

/-- One step on. -/
theorem ringPlace_forth (inside : oldest < qconsoleHistory) (within : place < qconsoleHistory) :
    (if (ringPlace oldest (place + 1) : Int) ≥ (qconsoleHistory : Int) - 1 then 0
      else (ringPlace oldest (place + 1) : Int) + 1) = ringPlace oldest place := by
  unfold ringPlace qconsoleHistory at *
  split
  · omega
  · omega

end RingPlace

/-- The ring has the last 32 of these lines, the most recent one before the
oldest place. -/
structure Win32Console.Holds (s : Win32Console) (lines : List CString) (oldest : Nat) : Prop where
  size : s.history.length = qconsoleHistory
  cells : s.line.length = maxEditLine
  count : s.historyLines = (min lines.length qconsoleHistory : Nat)
  isOldest : s.historyOldest = oldest
  inside : oldest < qconsoleHistory
  unwrapped : lines.length < qconsoleHistory → oldest = lines.length
  entries : ∀ i < min lines.length qconsoleHistory, s.history[ringPlace oldest (i + 1)]? = lines[i]?
  submitted : ∀ text ∈ lines, text.length < maxEditLine ∧ '\x00' ∉ text

/-- The console is at this place of its history, which the oldest place of the
ring marks for the line edited. At the start it is before the first place. -/
structure Win32Console.AtPlace (s : Win32Console) (lines : List CString) (place : Nat) : Prop where
  holds : ∃ oldest, s.Holds lines oldest ∧
    (s.historyPos = ringPlace oldest place ∨ s.historyPos = -1 ∧ lines = [])
  within : place ≤ min lines.length (qconsoleHistory - 1)
  line : s.shown = lineAt lines place

namespace Win32Console.Holds

variable {s : Win32Console} {lines : List CString} {oldest place : Nat}

/-- What the fields of the edit line have to do with the ring is the size of the
line only. -/
theorem congr {t : Win32Console} (holds : s.Holds lines oldest) (history : t.history = s.history)
    (cells : t.line.length = maxEditLine) (count : t.historyLines = s.historyLines)
    (isOldest : t.historyOldest = s.historyOldest) : t.Holds lines oldest where
  size := history ▸ holds.size
  cells := cells
  count := count.trans holds.count
  isOldest := isOldest.trans holds.isOldest
  inside := holds.inside
  unwrapped := holds.unwrapped
  entries := history ▸ holds.entries
  submitted := holds.submitted

theorem store_oldest (holds : s.Holds lines oldest) (text : CString) :
    store s.history s.historyOldest text = some (s.history.set oldest text) := by
  have inside : 0 ≤ s.historyOldest ∧ s.historyOldest.toNat < s.history.length := by
    rw [holds.isOldest, holds.size, Int.toNat_natCast]
    exact ⟨Int.natCast_nonneg oldest, holds.inside⟩
  rw [store, if_pos inside, holds.isOldest, Int.toNat_natCast]

/-- The new line takes the oldest place. -/
theorem histAdd {line : SubmittedLine} (holds : s.Holds lines oldest) (text : cStr s.line = line.text) :
    ∃ t, s.histAdd = some t ∧ t.Holds (line.text :: lines) ((oldest + 1) % qconsoleHistory) ∧
      t.historyPos = ((oldest + 1) % qconsoleHistory : Nat) ∧ t.linelen = s.linelen := by
  have whole : (cStr s.line).take (maxEditLine - 1) = line.text := by
    rw [text]
    exact List.take_of_length_le (Nat.le_sub_one_of_lt line.fits)
  have inside := holds.inside
  have next : (if s.historyOldest ≥ qconsoleHistory - 1 then 0 else s.historyOldest + 1) =
      (((oldest + 1) % qconsoleHistory : Nat) : Int) := by
    rw [holds.isOldest]
    unfold qconsoleHistory at inside ⊢
    split
    · omega
    · omega
  refine ⟨_, Option.bind_eq_some_iff.mpr ⟨_, holds.store_oldest _, rfl⟩, ?_, next, rfl⟩
  rw [whole]
  constructor
  · exact (List.length_set ..).trans holds.size
  · exact holds.cells
  · show (if s.historyLines < qconsoleHistory then s.historyLines + 1 else s.historyLines) = _
    rw [holds.count, List.length_cons]
    unfold qconsoleHistory
    split
    · omega
    · omega
  · exact next
  · exact Nat.mod_lt _ (by decide)
  · intro few
    rw [List.length_cons] at few ⊢
    have unwrapped := holds.unwrapped (Nat.lt_of_succ_lt few)
    rw [unwrapped, Nat.mod_eq_of_lt few]
  · intro i among
    show (s.history.set oldest line.text)[_]? = _
    rw [List.length_cons] at among
    rw [ringPlace_next inside (by omega)]
    cases i with
    | zero =>
        rw [ringPlace_zero inside, List.getElem?_set_self (by rw [holds.size]; exact inside)]
        rfl
    | succ i =>
        have apart : oldest ≠ ringPlace oldest (i + 1) := Ne.symm (ringPlace_ne inside (by omega))
        rw [List.getElem?_set_ne apart, holds.entries i (by omega)]
        rfl
  · intro other added
    rcases List.mem_cons.mp added with rfl | before
    · exact ⟨line.fits, line.terminated⟩
    · exact holds.submitted other before

/-- A place among the lines is recalled. -/
theorem recallAt (holds : s.Holds lines oldest) (among : place < min lines.length qconsoleHistory) :
    ∃ t, s.recallAt (ringPlace oldest (place + 1)) = some t ∧ t.Holds lines oldest ∧
      t.historyPos = ringPlace oldest (place + 1) ∧ t.shown = lineAt lines (place + 1) := by
  have isLine : place < lines.length := by omega
  have entry : lines[place]? = some lines[place] := List.getElem?_eq_getElem isLine
  obtain ⟨fits, terminated⟩ := holds.submitted lines[place] (List.getElem_mem isLine)
  have found : fetch s.history (ringPlace oldest (place + 1)) = some lines[place] := by
    rw [fetch, if_pos (Int.natCast_nonneg _), Int.toNat_natCast, holds.entries place among, entry]
  refine ⟨_, Option.bind_eq_some_iff.mpr ⟨_, found, rfl⟩, ?_, rfl, ?_⟩
  · exact holds.congr rfl (length_copyToLine fits) rfl rfl
  · rw [lineAt_of_getElem? entry, Win32Console.shown]
    dsimp only
    rw [cStr_copyToLine fits terminated, Int.toNat_natCast, take_copyToLine fits]

end Win32Console.Holds

namespace Win32Console.AtPlace

variable {s : Win32Console} {lines : List CString} {place : Nat}

/-- Up goes to the next older line, except to the one at the oldest place of a
full ring. -/
theorem histPrev_older (here : s.AtPlace lines place)
    (older : place < min lines.length (qconsoleHistory - 1)) :
    ∃ t, s.histPrev = some t ∧ t.AtPlace lines (place + 1) := by
  obtain ⟨oldest, holds, at_⟩ := here.holds
  have among : place < min lines.length qconsoleHistory := by omega
  have pos : s.prevPos = some (ringPlace oldest (place + 1) : Int) := by
    have current : s.historyPos = ringPlace oldest place := by
      rcases at_ with ring | ⟨-, noLines⟩
      · exact ring
      · rw [noLines] at older
        exact absurd older (Nat.not_lt_zero place)
    have other := ringPlace_ne holds.inside (show place < qconsoleHistory - 1 by omega)
    have filled : ringPlace oldest (place + 1) < min lines.length qconsoleHistory := by
      by_cases full : qconsoleHistory ≤ lines.length
      · rw [Nat.min_eq_right full]
        exact ringPlace_lt
      · have unwrapped := holds.unwrapped (Nat.lt_of_not_le full)
        rw [Nat.min_eq_left (Nat.le_of_not_le full), ← unwrapped]
        exact (ringPlace_unwrapped holds.inside (by omega)).mpr (by omega)
    rw [Win32Console.prevPos, current, ringPlace_back holds.inside (by omega), holds.isOldest, holds.count,
      if_neg]
    omega
  obtain ⟨t, recalled, holds', at_', line⟩ := holds.recallAt among
  refine ⟨t, ?_, ⟨oldest, holds', .inl at_'⟩, older, line⟩
  rw [Win32Console.histPrev, pos]
  exact recalled

/-- At the oldest line, or where the next place is the one that marks the line
edited, Up does nothing. -/
theorem histPrev_oldest (here : s.AtPlace lines place)
    (oldest : ¬ place < min lines.length (qconsoleHistory - 1)) : s.histPrev = some s := by
  obtain ⟨end_, holds, at_⟩ := here.holds
  have within := here.within
  have pos : s.prevPos = none := by
    rcases at_ with ring | ⟨start, noLines⟩
    · rw [Win32Console.prevPos, ring, ringPlace_back holds.inside (by unfold qconsoleHistory at *; omega),
        holds.isOldest, holds.count, if_pos]
      by_cases full : qconsoleHistory ≤ lines.length
      · have last : place + 1 = qconsoleHistory := by
          unfold qconsoleHistory at *
          omega
        rw [last, ringPlace_all holds.inside]
        exact .inl rfl
      · have unwrapped := holds.unwrapped (Nat.lt_of_not_le full)
        have all : place = end_ := by
          unfold qconsoleHistory at *
          omega
        have behind := ringPlace_unwrapped holds.inside (show place < qconsoleHistory by omega)
        right
        rw [Nat.min_eq_left (Nat.le_of_not_le full), ← unwrapped]
        omega
    · rw [Win32Console.prevPos, holds.count, start, noLines]
      exact if_pos (.inr (by decide))
  rw [Win32Console.histPrev, pos]

/-- Down from an older line goes to the next newer one. -/
theorem histNext_newer (here : s.AtPlace lines (place + 2)) :
    ∃ t, s.histNext = some t ∧ t.AtPlace lines (place + 1) := by
  obtain ⟨oldest, holds, at_⟩ := here.holds
  have within := here.within
  have current : s.historyPos = ringPlace oldest (place + 2) := by
    rcases at_ with ring | ⟨-, noLines⟩
    · exact ring
    · rw [noLines, List.length_nil] at within
      omega
  have notEdited : (ringPlace oldest (place + 2) : Int) ≠ oldest := by
    intro same
    exact ringPlace_ne holds.inside (show place + 1 < qconsoleHistory - 1 by omega) (Int.ofNat.inj same)
  have pos : s.nextPos = some (ringPlace oldest (place + 1) : Int) := by
    rw [Win32Console.nextPos, current, holds.isOldest, if_neg notEdited,
      ringPlace_forth holds.inside (by omega)]
  have notNewest : (ringPlace oldest (place + 1) : Int) ≠ s.historyOldest := by
    have other := ringPlace_ne holds.inside (show place < qconsoleHistory - 1 by omega)
    rw [holds.isOldest]
    omega
  obtain ⟨t, recalled, holds', at_', line⟩ := holds.recallAt (show place < _ by omega)
  refine ⟨t, ?_, ⟨oldest, holds', .inl at_'⟩, by omega, line⟩
  rw [Win32Console.histNext, pos]
  exact (if_neg notNewest).trans recalled

/-- Down from the most recent line, or from the line edited, ends at an empty
line. -/
theorem histNext_newest (here : s.AtPlace lines place) (newest : place ≤ 1) :
    ∃ t, s.histNext = some t ∧ t.AtPlace lines 0 := by
  obtain ⟨oldest, holds, at_⟩ := here.holds
  have zero := ringPlace_zero holds.inside
  by_cases edited : s.historyPos = s.historyOldest
  · -- Down leaves the line as it is here; it is empty
    have isZero : place = 0 := by
      rw [holds.isOldest] at edited
      rcases at_ with ring | ⟨start, -⟩
      · by_contra other
        obtain rfl : place = 0 + 1 := by omega
        exact ringPlace_ne holds.inside (by decide) (Int.ofNat.inj (ring.symm.trans edited))
      · omega
    refine ⟨s, ?_, isZero ▸ here⟩
    rw [Win32Console.histNext, Win32Console.nextPos, if_pos edited]
  · have pos : s.nextPos = some s.historyOldest := by
      rw [Win32Console.nextPos, if_neg edited, holds.isOldest]
      rw [holds.isOldest] at edited
      rcases at_ with ring | ⟨start, noLines⟩
      · obtain rfl : place = 0 + 1 := by
          by_contra other
          obtain rfl : place = 0 := by omega
          exact edited (ring.trans (congrArg Int.ofNat zero))
        rw [ring, ringPlace_forth holds.inside (by decide), zero]
      · rw [start, holds.unwrapped (by rw [noLines]; decide), noLines]
        rfl
    have cleared : ∃ line, store s.line 0 '\x00' = some line ∧ line.length = maxEditLine := by
      have first : (0 : Int) ≤ 0 ∧ (0 : Int).toNat < s.line.length := by
        rw [holds.cells]
        decide
      exact ⟨_, if_pos first, (List.length_set ..).trans holds.cells⟩
    obtain ⟨line, stored, cells⟩ := cleared
    refine ⟨{ s with historyPos := s.historyOldest, line := line, linelen := 0 }, ?_, ?_⟩
    · rw [Win32Console.histNext, pos]
      exact (if_pos rfl).trans (Option.bind_eq_some_iff.mpr ⟨line, stored, rfl⟩)
    · refine ⟨⟨oldest, holds.congr rfl cells rfl rfl, .inl ?_⟩, Nat.zero_le _, rfl⟩
      exact holds.isOldest.trans (congrArg Int.ofNat zero.symm)

end Win32Console.AtPlace

/-- A batch of one key that moves through the history. -/
theorem Win32Console.act_up {s t : Win32Console} (moved : s.histPrev = some t) :
    s.act (.press .up) = some t := by
  have handled : s.inputRecords [keyRecord .up] = some (t, false) := by
    rw [Win32Console.inputRecords, Win32Console.inputRecord]
    simp [keyRecord, moved]
  rw [Win32Console.act, Win32Console.input, handled]
  rfl

theorem Win32Console.act_down {s t : Win32Console} (moved : s.histNext = some t) :
    s.act (.press .down) = some t := by
  have handled : s.inputRecords [keyRecord .down] = some (t, false) := by
    rw [Win32Console.inputRecords, Win32Console.inputRecord]
    simp [keyRecord, moved]
  rw [Win32Console.act, Win32Console.input, handled]
  rfl

/-- Return on a line that is not blank. -/
theorem Win32Console.act_submit {s t : Win32Console} {line : SubmittedLine}
    (added : Win32Console.histAdd
      { s with line := copyToLine line.text, linelen := 0, cursorPosOffset := 0 } = some t) :
    s.act (.submit line) = some t := by
  rw [Win32Console.act, Win32Console.input]
  simp [keyRecord, maxEditLine, Win32Console.inputRecords, Win32Console.inputRecord,
    Win32Console.finishInput, added, line.nonblank]

/-- The Windows console follows every session with one line less. -/
theorem win32Console_follows :
    Follows Win32Console.act Win32Console.shown Win32Console.AtPlace (qconsoleHistory - 1) where
  shows := fun here => here.line
  submit := by
    intro s lines place line here
    obtain ⟨oldest, holds, -⟩ := here.holds
    let edited : Win32Console :=
      { s with line := copyToLine line.text, linelen := 0, cursorPosOffset := 0 }
    have holdsEdited : edited.Holds lines oldest := holds.congr rfl (length_copyToLine line.fits) rfl rfl
    obtain ⟨t, added, holds', at_, empty⟩ :=
      holdsEdited.histAdd (cStr_copyToLine line.fits line.terminated)
    refine ⟨t, Win32Console.act_submit added, ⟨_, holds', .inl ?_⟩, Nat.zero_le _, ?_⟩
    · rw [at_, ringPlace_zero (Nat.mod_lt _ (by decide))]
    · rw [Win32Console.shown, empty]
      rfl
  press := by
    intro s lines place key here
    cases key with
    | up =>
        by_cases older : place < min lines.length (qconsoleHistory - 1)
        · obtain ⟨t, moved, there⟩ := here.histPrev_older older
          refine ⟨t, Win32Console.act_up moved, ?_⟩
          rw [HistoryKey.move, Nat.min_eq_left older]
          exact there
        · have stays : HistoryKey.up.move (min lines.length (qconsoleHistory - 1)) place = place := by
            have within := here.within
            rw [HistoryKey.move]
            omega
          refine ⟨s, Win32Console.act_up (here.histPrev_oldest older), ?_⟩
          rw [stays]
          exact here
    | down =>
        by_cases newest : place ≤ 1
        · obtain ⟨t, moved, there⟩ := here.histNext_newest newest
          have edited : HistoryKey.down.move (min lines.length (qconsoleHistory - 1)) place = 0 := by
            rw [HistoryKey.move]
            omega
          refine ⟨t, Win32Console.act_down moved, ?_⟩
          rw [edited]
          exact there
        · obtain ⟨newer, rfl⟩ : ∃ newer, place = newer + 2 := ⟨place - 2, by omega⟩
          obtain ⟨t, moved, there⟩ := here.histNext_newer
          exact ⟨t, Win32Console.act_down moved, there⟩

/-!
### Up to 31 lines, and not one more

The two consoles agree as long as nobody goes back further than 31 lines.
-/

/-- Each press of the key up goes back one line, to the oldest at most. -/
theorem placeAfter_ups (oldest count : Nat) :
    placeAfter oldest (List.replicate count .up) = min count oldest := by
  induction count with
  | zero => exact (Nat.zero_min oldest).symm
  | succ count inductionHypothesis =>
      rw [List.replicate_succ', placeAfter, List.foldl_append]
      show min (placeAfter oldest (List.replicate count .up) + 1) oldest = _
      rw [inductionHypothesis]
      omega

/-- Each press of the key down comes forth one line, to the line being edited at
most. -/
theorem placeAfter_downs (oldest count : Nat) (presses : List HistoryKey) :
    placeAfter oldest (presses ++ List.replicate count .down) = placeAfter oldest presses - count := by
  induction count with
  | zero => rw [List.replicate_zero, List.append_nil, Nat.sub_zero]
  | succ count inductionHypothesis =>
      rw [List.replicate_succ', ← List.append_assoc, placeAfter, List.foldl_append]
      show placeAfter oldest (presses ++ List.replicate count .down) - 1 = _
      rw [inductionHypothesis]
      omega

/-- The most recent line of a session is not blank. -/
theorem lineAt_one_submittedLines (session : List HistoryAction) (last : SubmittedLine) :
    lineAt (submittedLines [] (session ++ [.submit last])) 1 = last.text := by
  rw [submittedLines_append]
  rfl

/-- The Windows console recalls the lines exactly until there are 32 of them.
Then 32 times Up and 31 times Down lead past the most recent line. -/
theorem win32Recalls_iff (memory : Vector Char maxEditLine) (session : List HistoryAction)
    (last : SubmittedLine) : Win32Recalls memory session last ↔
      (submittedLines [] (session ++ [.submit last])).length < qconsoleHistory := by
  have constructed : (Win32Console.new memory).AtPlace [] 0 := by
    refine ⟨⟨0, ?_, .inr ⟨rfl, rfl⟩⟩, Nat.le_refl 0, rfl⟩
    constructor
    · exact List.length_replicate
    · exact memory.size_toArray
    · rfl
    · rfl
    · decide
    · intro few
      rfl
    · intro i impossible
      exact absurd impossible (Nat.not_lt_zero i)
    · intro text impossible
      exact absurd impossible List.not_mem_nil
  obtain ⟨s, ran, goes⟩ := win32Console_follows.after_submission session last constructed
  have recent := lineAt_one_submittedLines session last
  unfold Win32Recalls
  generalize submittedLines [] (session ++ [.submit last]) = lines at goes recent ⊢
  constructor
  · rintro ⟨s', ran', recalls⟩
    cases ran.symm.trans ran'
    by_contra full
    have limit : min lines.length (qconsoleHistory - 1) = qconsoleHistory - 1 := by omega
    have oldest : min lines.length qconsoleHistory = qconsoleHistory := by omega
    let presses := List.replicate qconsoleHistory HistoryKey.up ++ List.replicate (qconsoleHistory - 1) .down
    obtain ⟨t, pressed, shown⟩ := goes presses
    obtain ⟨u, pressed', expected⟩ := recalls presses
    cases pressed.symm.trans pressed'
    have same := shown.symm.trans expected
    rw [placeAfter_downs, placeAfter_ups, placeAfter_downs, placeAfter_ups, limit, oldest] at same
    have blank : [] = last.text := Eq.trans (b := lineAt lines 1) same recent
    exact last.nonblank blank.symm
  · intro few
    refine ⟨s, ran, ?_⟩
    intro presses
    obtain ⟨t, pressed, shown⟩ := goes presses
    have limit : min lines.length (qconsoleHistory - 1) = min lines.length qconsoleHistory := by omega
    rw [limit] at shown
    exact ⟨t, pressed, shown⟩

/-- A line with one letter. -/
def letterA : SubmittedLine := ⟨['a'], by decide, by decide, by decide⟩

/-- Another one. -/
def letterB : SubmittedLine := ⟨['b'], by decide, by decide, by decide⟩

/-- The line `a`, and 30 times the line `b`; one more makes 32. -/
def thirtyOneLines : List HistoryAction := .submit letterA :: List.replicate 30 (.submit letterB)

end Q3df.Server
