/-
Module: Q3df.Server.LineEditor
Layer: Server
Purpose: The edit line of the Windows console as a line editor. The line is the text before the
  cursor and the text after it, and every key has its effect on the two. The console keeps the
  length of the line and the distance of the cursor from its end; it has the effect of the keys as
  long as no Backspace meets a full line, no recalled line is shorter than the text after the
  cursor, and no key follows one that ends the batch it arrives in.
Imports: Q3df.Library.Transition, Q3df.Server.ConsoleHistory
Trusted boundary: a key that types nothing has no character in its record
Main exports: KeyEvent, EditLine, EditStep, EditRun, Win32Console.Edits, KeyOk, press_edits_iff,
  line_editor_edits
Open obligations: none
-/
import Q3df.Library.Transition
import Q3df.Server.ConsoleHistory

namespace Q3df.Server

open Q3df.Buffer Q3df.Transition

/-- A character that a key can type. -/
abbrev TypedChar := { c : Char // c ≠ '\x00' }

/-- What arrives at the console: a key that is pressed, or anything else (a key
that is released, the mouse, a change of focus). -/
inductive KeyEvent where
  | typed (c : TypedChar)
  | back
  | left
  | right
  | home
  | end_
  | up
  | down
  | tab
  | return_
  | other
deriving DecidableEq

/-- The record of an event. -/
def KeyEvent.record : KeyEvent → InputRecord
  | .typed c => { keyRecord .other with asciiChar := c.val }
  | .back => { keyRecord .back with asciiChar := '\x08' }
  | .left => keyRecord .left
  | .right => keyRecord .right
  | .home => keyRecord .home
  | .end_ => keyRecord .end_
  | .up => keyRecord .up
  | .down => keyRecord .down
  | .tab => { keyRecord .tab with asciiChar := '\t' }
  | .return_ => { keyRecord .return_ with asciiChar := '\r' }
  | .other => { keyRecord .other with isKeyEvent := false }

/-!
### What a line editor does

A line with a cursor in it, as the characters before and behind. Each key has
its usual meaning.
-/

/-- A line with a cursor. -/
structure EditLine where
  before : CString
  after : CString
deriving Repr, DecidableEq

namespace EditLine

def text (line : EditLine) : CString := line.before ++ line.after

def empty : EditLine := { before := [], after := [] }

end EditLine

/-- The effect of an event, with these lines in the history. A line has up to
255 characters. Up and Down replace it as a whole, by a line of the history or
by none, or leave it. -/
inductive EditStep (history : List CString) : EditLine → KeyEvent → EditLine → Prop where
  | inserted {before after c} (room : before.length + after.length < maxEditLine - 1) :
      EditStep history ⟨before, after⟩ (.typed c) ⟨before ++ [c.val], after⟩
  | noRoom {line c} (full : maxEditLine - 1 ≤ line.text.length) :
      EditStep history line (.typed c) line
  | deleted {before c after} : EditStep history ⟨before ++ [c], after⟩ .back ⟨before, after⟩
  | nothingBefore {after} : EditStep history ⟨[], after⟩ .back ⟨[], after⟩
  | left {before c after} : EditStep history ⟨before ++ [c], after⟩ .left ⟨before, c :: after⟩
  | leftmost {after} : EditStep history ⟨[], after⟩ .left ⟨[], after⟩
  | right {before c after} : EditStep history ⟨before, c :: after⟩ .right ⟨before ++ [c], after⟩
  | rightmost {before} : EditStep history ⟨before, []⟩ .right ⟨before, []⟩
  | home {line} : EditStep history line .home ⟨[], line.text⟩
  | end_ {line} : EditStep history line .end_ ⟨line.text, []⟩
  | recalled {line event recalled} (moves : event = .up ∨ event = .down)
      (found : recalled.text ∈ history ∨ recalled.text = []) : EditStep history line event recalled
  | stays {line event} (moves : event = .up ∨ event = .down) : EditStep history line event line
  | tab {line} : EditStep history line .tab line
  | submitted {line} : EditStep history line .return_ .empty
  | other {line} : EditStep history line .other line

/-- The effect of several events. -/
inductive EditRun (history : List CString) : EditLine → List KeyEvent → EditLine → Prop where
  | nil {line} : EditRun history line [] line
  | cons {line line' line'' event events} (first : EditStep history line event line')
      (rest : EditRun history line' events line'') : EditRun history line (event :: events) line''

/-!
### The console

The fields of the console that hold the line, and the functions that the keys call.
-/

namespace Win32Console

/-- The console has this line and cursor. -/
structure Edits (s : Win32Console) (line : EditLine) : Prop where
  cells : s.line.length = maxEditLine
  shown : s.shown = line.text
  linelen : s.linelen = line.text.length
  cursor : s.cursorPosOffset = line.after.length
  fits : line.text.length ≤ maxEditLine - 1

/-- One call of `Input`, with these events in the input buffer. -/
def inputEvents (s : Win32Console) (events : List KeyEvent) : Option Win32Console :=
  (s.input (events.map KeyEvent.record)).map Prod.fst

/-- A call with a single event. -/
def press (s : Win32Console) (event : KeyEvent) : Option Win32Console := s.inputEvents [event]

/-- The line that Up would bring. -/
def prevLine (s : Win32Console) : Option CString := s.prevPos.bind (fetch s.history)

/-- The line that Down would bring. -/
def nextLine (s : Win32Console) : Option CString :=
  s.nextPos.bind fun pos => if pos = s.historyOldest then some [] else fetch s.history pos

end Win32Console

/-- The condition on an event: Backspace finds room in the line or nothing
before the cursor, and a line from the history has at least the characters that
are after the cursor. -/
def KeyOk (s : Win32Console) : KeyEvent → Prop
  | .back => s.linelen < maxEditLine - 1 ∨ s.cursorPosOffset = s.linelen
  | .up => ∀ text ∈ s.prevLine, s.cursorPosOffset ≤ text.length
  | .down => ∀ text ∈ s.nextLine, s.cursorPosOffset ≤ text.length
  | _ => True

/-- After these events the loop over the records ends. -/
def KeyEvent.ends : KeyEvent → Bool
  | .left | .right | .up | .down | .tab | .return_ => true
  | .typed _ | .back | .home | .end_ | .other => false

/-- No key follows an event that ends the loop. -/
def HandledWhole : List KeyEvent → Prop
  | [] => True
  | event :: events =>
      if event.ends then ∀ later ∈ events, later = .other else HandledWhole events

/-- The condition on a call: its events are few enough to be read, none is
passed over, and each meets its own condition. -/
def CallOk (s : Win32Console) (events : List KeyEvent) : Prop :=
  events.length < maxEditLine ∧ HandledWhole events ∧ StepsMeet Win32Console.press KeyOk s events

instance decidableKeyOk (s : Win32Console) : ∀ event, Decidable (KeyOk s event)
  | .back => inferInstanceAs (Decidable (s.linelen < maxEditLine - 1 ∨ s.cursorPosOffset = s.linelen))
  | .up => inferInstanceAs (Decidable (∀ text ∈ s.prevLine, s.cursorPosOffset ≤ text.length))
  | .down => inferInstanceAs (Decidable (∀ text ∈ s.nextLine, s.cursorPosOffset ≤ text.length))
  | .typed _ | .left | .right | .home | .end_ | .tab | .return_ | .other => isTrue trivial

instance decidableHandledWhole : ∀ events, Decidable (HandledWhole events)
  | [] => isTrue trivial
  | event :: events =>
      have : Decidable (HandledWhole events) := decidableHandledWhole events
      inferInstanceAs (Decidable
        (if event.ends then ∀ later ∈ events, later = .other else HandledWhole events))

instance decidableCallOk (s : Win32Console) (events : List KeyEvent) : Decidable (CallOk s events) :=
  inferInstanceAs (Decidable (_ ∧ _))

/-- `0 <= qconsole_cursor_pos_offset_ <= qconsole_linelen_ <= 255`. -/
def Win32Console.InRange (s : Win32Console) : Prop :=
  0 ≤ s.cursorPosOffset ∧ s.cursorPosOffset ≤ s.linelen ∧ s.linelen ≤ 255

/-- The call starts with a cursor in a line, does what a line editor does, and
leaves a cursor in a line. -/
def EditsSoundly (s : Win32Console) (events : List KeyEvent) : Prop :=
  s.InRange ∧ ∃ line, s.Edits line ∧ ∃ t line', s.inputEvents events = some t ∧
    EditRun s.history line events line' ∧ t.Edits line' ∧ t.InRange

/-!
### One event at a time

The cells of the array against the line with its cursor. Insertion and Backspace
shift what is behind the cursor.
-/

namespace Win32Console

/-- The places of the history are inside it, and its lines are C strings of the
size of the edit line. -/
structure HistoryInside (s : Win32Console) : Prop where
  size : s.history.length = qconsoleHistory
  pos : -1 ≤ s.historyPos ∧ s.historyPos < qconsoleHistory
  oldest : 0 ≤ s.historyOldest ∧ s.historyOldest < qconsoleHistory
  entries : ∀ text ∈ s.history, text.length < maxEditLine ∧ '\x00' ∉ text

section Events

variable {s t : Win32Console} {line : EditLine} {before after : CString} {c : Char}

/-- The cursor is in the line, and the line in its buffer. -/
theorem Edits.inRange (edits : s.Edits line) : s.InRange := by
  have cursor := edits.cursor
  have linelen := edits.linelen
  have fits : line.text.length ≤ 255 := edits.fits
  rw [EditLine.text, List.length_append] at linelen fits
  unfold InRange
  omega

/-- The buffer has the line at its beginning. -/
theorem Edits.split (edits : s.Edits line) :
    ∃ rest, s.line = line.before ++ (line.after ++ rest) ∧
      line.before.length + line.after.length + rest.length = maxEditLine := by
  have shown := edits.shown
  rw [Win32Console.shown, edits.linelen, Int.toNat_natCast] at shown
  refine ⟨s.line.drop line.text.length, ?_, ?_⟩
  · rw [← List.append_assoc, ← EditLine.text]
    conv => lhs; rw [← List.take_append_drop line.text.length s.line, shown]
  · have fits := edits.fits
    rw [List.length_drop, edits.cells, ← List.length_append, ← EditLine.text]
    omega

/-- The array edits a line if its cells are those of the line and the counters
say where the cursor is. -/
theorem edits_of_split {rest : List Char} (cells : s.line = before ++ (after ++ rest))
    (size : s.line.length = maxEditLine) (linelen : s.linelen = before.length + after.length)
    (cursor : s.cursorPosOffset = after.length) (room : before.length + after.length ≤ maxEditLine - 1) :
    s.Edits ⟨before, after⟩ := by
  have length : s.linelen = ((before ++ after).length : Nat) := by
    rw [linelen, List.length_append]
    rfl
  refine ⟨size, ?_, length, cursor, ?_⟩
  · rw [Win32Console.shown, length, Int.toNat_natCast, cells, ← List.append_assoc, List.take_left]
    rfl
  · rw [EditLine.text, List.length_append]
    exact room

/-- A line moves to another cursor. -/
theorem Edits.moveTo (edits : s.Edits line) (same : before ++ after = line.text) :
    { s with cursorPosOffset := (after.length : Int) }.Edits ⟨before, after⟩ where
  cells := edits.cells
  shown := edits.shown.trans same.symm
  linelen := edits.linelen.trans (congrArg (fun text : CString => (text.length : Int)) same.symm)
  cursor := rfl
  fits := Nat.le_trans (Nat.le_of_eq (congrArg List.length same)) edits.fits

theorem Edits.linelen_eq (edits : s.Edits line) : s.linelen = line.before.length + line.after.length := by
  rw [edits.linelen, EditLine.text, List.length_append]
  rfl

/-- The terminator is written at the start of the line. -/
theorem Edits.store_start (edits : s.Edits line) : store s.line 0 '\x00' = some (s.line.set 0 '\x00') := by
  have first : 0 ≤ (0 : Int) ∧ (0 : Int).toNat < s.line.length := by
    rw [edits.cells]
    decide
  exact if_pos first

/-- A character is inserted at the cursor. -/
theorem insertChar_edits (edits : s.Edits ⟨before, after⟩)
    (room : before.length + after.length < maxEditLine - 1) :
    ∃ cells, s.insertChar c = some { s with line := cells, linelen := s.linelen + 1 } ∧
      { s with line := cells, linelen := s.linelen + 1 }.Edits ⟨before ++ [c], after⟩ := by
  obtain ⟨rest, split, size⟩ := edits.split
  dsimp only at split size
  have cursor : s.cursorPosOffset = after.length := edits.cursor
  have linelen : s.linelen = before.length + after.length := edits.linelen_eq
  -- two cells at least are behind the line: one for the new last character, one for the terminator
  obtain ⟨x, y, behind, rfl⟩ : ∃ x y behind, rest = x :: y :: behind := by
    unfold maxEditLine at size room
    rcases rest with _ | ⟨x, _ | ⟨y, behind⟩⟩
    · rw [List.length_nil] at size
      omega
    · rw [List.length_singleton] at size
      omega
    · exact ⟨x, y, behind, rfl⟩
  refine ⟨before ++ c :: (after ++ '\x00' :: behind), ?_, ?_⟩
  · have terminatedAt : s.linelen + 1 = (before ++ c :: after).length := by
      rw [linelen, List.length_append, List.length_cons]
      omega
    have terminated (last : Char) : store (before ++ c :: (after ++ last :: behind)) (s.linelen + 1) '\x00' =
        some (before ++ c :: (after ++ '\x00' :: behind)) := by
      have stored : store (before ++ c :: after ++ last :: behind) (s.linelen + 1) '\x00' =
          some (before ++ c :: after ++ '\x00' :: behind) := store_middle terminatedAt
      simpa only [List.append_assoc, List.cons_append] using stored
    rw [insertChar]
    by_cases atEnd : after = []
    · subst atEnd
      have written : store s.line s.linelen c = some (before ++ c :: y :: behind) := by
        rw [split]
        exact store_middle (by rw [linelen, List.length_nil, Int.natCast_zero, Int.add_zero])
      rw [if_neg (by rw [cursor]; decide)]
      exact Option.bind_eq_some_iff.mpr ⟨_, written,
        Option.bind_eq_some_iff.mpr ⟨_, terminated y, rfl⟩⟩
    · have afterLength := List.length_pos_of_ne_nil atEnd
      have pos : (if s.linelen > 0 then s.linelen else 0) = s.linelen := if_pos (by omega)
      have first : s.linelen - s.cursorPosOffset = before.length := by omega
      have rounds : (s.linelen - before.length + 1).toNat = (after ++ [x]).length := by
        rw [List.length_append, List.length_singleton]
        omega
      have atLast : s.linelen + 1 = (before ++ (after ++ [x])).length := by
        simp only [List.length_append, List.length_singleton]
        omega
      obtain ⟨left, moved⟩ := @shiftUp_middle _ before (after ++ [x]) behind s.linelen y atLast
      rw [List.append_assoc after, List.singleton_append, ← split] at moved
      have written : store (before ++ left :: (after ++ [x] ++ behind)) before.length c =
          some (before ++ c :: (after ++ x :: behind)) := by
        rw [List.append_assoc after, List.singleton_append]
        exact store_middle rfl
      rw [if_pos (by omega), pos]
      dsimp only
      rw [first, if_pos (Int.natCast_nonneg _), rounds]
      exact Option.bind_eq_some_iff.mpr ⟨_, moved, Option.bind_eq_some_iff.mpr
        ⟨_, written, Option.bind_eq_some_iff.mpr ⟨_, terminated x, rfl⟩⟩⟩
  · have cells : before ++ c :: (after ++ '\x00' :: behind) =
        before ++ [c] ++ (after ++ '\x00' :: behind) := by
      rw [List.append_assoc, List.singleton_append]
    have grown : (before ++ [c]).length = before.length + 1 := List.length_append
    apply edits_of_split cells
    · show (before ++ c :: (after ++ '\x00' :: behind)).length = _
      simp only [List.length_append, List.length_cons] at size ⊢
      omega
    · show s.linelen + 1 = _
      rw [linelen, grown]
      omega
    · exact cursor
    · rw [grown]
      omega

/-- The character before the cursor is deleted. -/
theorem backspace_edits (edits : s.Edits ⟨before ++ [c], after⟩) :
    ∃ cells, s.backspace = some { s with line := cells, linelen := s.linelen - 1 } ∧
      { s with line := cells, linelen := s.linelen - 1 }.Edits ⟨before, after⟩ := by
  obtain ⟨rest, split, size⟩ := edits.split
  dsimp only at split size
  have cursor : s.cursorPosOffset = after.length := edits.cursor
  have linelen : s.linelen = before.length + 1 + after.length := by
    rw [edits.linelen, EditLine.text, List.length_append, List.length_append]
    rfl
  have fits : before.length + 1 + after.length ≤ maxEditLine - 1 := by
    have fits := edits.fits
    rwa [EditLine.text, List.length_append, List.length_append] at fits
  rw [List.length_append, List.length_singleton] at size
  obtain ⟨x, behind, rfl⟩ : ∃ x behind, rest = x :: behind := by
    apply List.exists_cons_of_length_pos
    unfold maxEditLine at size fits
    omega
  rw [List.append_assoc, List.singleton_append] at split
  have pos : (if s.linelen > 0 then s.linelen - 1 else 0) = s.linelen - 1 := if_pos (by omega)
  -- the character that is left behind the line is of no interest
  have deleted : ∃ left, s.backspace = some
      { s with line := before ++ (after ++ '\x00' :: left :: behind), linelen := s.linelen - 1 } := by
    rw [backspace, pos]
    by_cases atEnd : after = []
    · subst atEnd
      have written : store s.line (s.linelen - 1) '\x00' = some (before ++ '\x00' :: x :: behind) := by
        rw [split]
        apply store_middle
        rw [linelen, List.length_nil]
        omega
      refine ⟨x, ?_⟩
      rw [if_neg (by rw [cursor]; decide)]
      exact Option.bind_eq_some_iff.mpr ⟨_, written, rfl⟩
    · have afterLength := List.length_pos_of_ne_nil atEnd
      have first : s.linelen - 1 - s.cursorPosOffset = before.length := by omega
      have rounds : (s.linelen - before.length).toNat = (after ++ [x]).length := by
        rw [List.length_append, List.length_singleton]
        omega
      obtain ⟨left, moved⟩ := @shiftDown_middle _ before (after ++ [x]) behind before.length c rfl
      rw [List.append_assoc after, List.append_assoc after, List.singleton_append, List.singleton_append,
        ← split] at moved
      have written : store (before ++ (after ++ x :: left :: behind)) (s.linelen - 1) '\x00' =
          some (before ++ (after ++ '\x00' :: left :: behind)) := by
        rw [← List.append_assoc, ← List.append_assoc]
        apply store_middle
        rw [linelen, List.length_append]
        omega
      refine ⟨left, ?_⟩
      rw [if_pos (by omega), if_pos (by omega)]
      dsimp only
      rw [first, rounds]
      exact Option.bind_eq_some_iff.mpr ⟨_, moved, Option.bind_eq_some_iff.mpr ⟨_, written, rfl⟩⟩
  obtain ⟨left, deleted⟩ := deleted
  refine ⟨_, deleted, edits_of_split rfl ?_ ?_ cursor (by omega)⟩
  · show (before ++ (after ++ '\x00' :: left :: behind)).length = _
    simp only [List.length_append, List.length_cons] at size ⊢
    omega
  · show s.linelen - 1 = _
    omega

/-- With the cursor at the start of the line there is nothing to delete. -/
theorem backspace_start (edits : s.Edits ⟨[], after⟩) :
    ∃ cells, s.backspace = some { s with line := cells } ∧
      { s with line := cells }.Edits ⟨[], after⟩ := by
  have cursor : s.cursorPosOffset = after.length := edits.cursor
  have linelen : s.linelen = after.length := edits.linelen
  by_cases atEnd : after = []
  · subst atEnd
    refine ⟨s.line.set 0 '\x00', ?_, ?_⟩
    · rw [backspace, if_neg (by rw [cursor]; decide), if_neg (by rw [linelen]; decide)]
      refine Option.bind_eq_some_iff.mpr ⟨_, edits.store_start, ?_⟩
      rw [linelen]
      rfl
    · refine ⟨(List.length_set ..).trans edits.cells, ?_, linelen, cursor, edits.fits⟩
      show (s.line.set 0 '\x00').take s.linelen.toNat = []
      rw [linelen]
      rfl
  · have afterLength := List.length_pos_of_ne_nil atEnd
    refine ⟨s.line, ?_, edits⟩
    rw [backspace, if_pos (by omega), if_neg (by omega)]

/-!
### A line from the history

A recalled line replaces the one being edited, and the cursor stays as far from
its end. In a line shorter than that there is no such place.
-/

/-- The recalled line with the cursor as far from its end as before. -/
def recalledLine (text after : CString) : EditLine :=
  { before := text.take (text.length - after.length), after := text.drop (text.length - after.length) }

theorem text_recalledLine (text after : CString) : (recalledLine text after).text = text :=
  List.take_append_drop _ _

/-- A recalled line has a cursor in it if it has the characters that were after
the cursor. -/
theorem recalled_edits {text : CString} (pos : Int) (edits : s.Edits line)
    (isLine : text.length < maxEditLine ∧ '\x00' ∉ text) (long : s.cursorPosOffset ≤ text.length) :
    { s with historyPos := pos, line := copyToLine text, linelen := text.length }.Edits
      (recalledLine text line.after) where
  cells := length_copyToLine isLine.1
  shown := by
    rw [text_recalledLine, shown, Int.toNat_natCast, take_copyToLine isLine.1]
  linelen := by rw [text_recalledLine]
  cursor := by
    rw [edits.cursor] at long
    show s.cursorPosOffset = ((text.drop (text.length - line.after.length)).length : Nat)
    rw [edits.cursor, List.length_drop]
    omega
  fits := by
    rw [text_recalledLine]
    exact Nat.le_sub_one_of_lt isLine.1

/-- A place inside the ring has an entry. -/
theorem HistoryInside.fetch (inside : s.HistoryInside) {pos : Int}
    (inRange : 0 ≤ pos ∧ pos < qconsoleHistory) :
    ∃ text ∈ s.history, Buffer.fetch s.history pos = some text := by
  have among : pos.toNat < s.history.length := by
    rw [inside.size]
    omega
  refine ⟨s.history[pos.toNat], List.getElem_mem among, ?_⟩
  rw [Buffer.fetch, if_pos inRange.1, List.getElem?_eq_getElem among]

/-- Recalling an entry copies it to the line. -/
theorem HistoryInside.recallAt (inside : s.HistoryInside) {pos : Int} {text : CString}
    (found : Buffer.fetch s.history pos = some text) (entry : text ∈ s.history) :
    s.recallAt pos = some
      { s with historyPos := pos, line := copyToLine text, linelen := (text.length : Int) } := by
  obtain ⟨fits, terminated⟩ := inside.entries text entry
  refine Option.bind_eq_some_iff.mpr ⟨text, found, ?_⟩
  dsimp only
  rw [cStr_copyToLine fits terminated]

theorem HistoryInside.prevPos_inRange (inside : s.HistoryInside) {pos : Int} (goes : s.prevPos = some pos) :
    0 ≤ pos ∧ pos < qconsoleHistory := by
  have current := inside.pos
  rw [prevPos, Option.ite_none_left_eq_some, Option.some.injEq] at goes
  obtain ⟨-, rfl⟩ := goes
  unfold qconsoleHistory at current ⊢
  split
  · omega
  · omega

theorem HistoryInside.nextPos_inRange (inside : s.HistoryInside) {pos : Int} (goes : s.nextPos = some pos) :
    0 ≤ pos ∧ pos < qconsoleHistory := by
  have current := inside.pos
  rw [nextPos, Option.ite_none_left_eq_some, Option.some.injEq] at goes
  obtain ⟨-, rfl⟩ := goes
  unfold qconsoleHistory at current ⊢
  split
  · omega
  · omega

/-!
### One event

Each key is handled as the line editor says, unless it is one of the two
excluded cases.
-/

/-- The event has its effect on the line, and keeps to the history. -/
structure Handled (s : Win32Console) (line : EditLine) (event : KeyEvent) (t : Win32Console)
    (line' : EditLine) : Prop where
  pressed : s.press event = some t
  step : EditStep s.history line event line'
  edits : t.Edits line'
  inside : t.HistoryInside
  history : event ≠ .return_ → t.history = s.history

/-- A call with a single event is what the event does, and the end of `Input`. -/
theorem press_eq {event : KeyEvent} {newline : Bool}
    (handled : s.inputRecords [event.record] = some (t, newline)) :
    s.press event = (t.finishInput newline).map Prod.fst := by
  have few : ¬ (List.map KeyEvent.record [event]).length ≥ maxEditLine := by
    rw [List.length_map, List.length_singleton]
    decide
  rw [press, inputEvents, input, if_neg few, List.map_cons, List.map_nil, handled]

theorem press_of_next {event : KeyEvent} (handled : s.inputRecord event.record = some (t, .next)) :
    s.press event = some t := by
  have looped : s.inputRecords [event.record] = some (t, false) := by
    rw [inputRecords, handled]
    rfl
  rw [press_eq looped]
  rfl

theorem press_of_break {event : KeyEvent} (handled : s.inputRecord event.record = some (t, .break_ false)) :
    s.press event = some t := by
  have looped : s.inputRecords [event.record] = some (t, false) := by
    rw [inputRecords, handled]
  rw [press_eq looped]
  rfl

/-- Editing the line leaves the history alone. -/
theorem HistoryInside.edited {cells : List Char} {linelen cursorPosOffset : Int} (inside : s.HistoryInside) :
    HistoryInside { s with line := cells, linelen := linelen, cursorPosOffset := cursorPosOffset } :=
  ⟨inside.size, inside.pos, inside.oldest, inside.entries⟩

/-- A typed character is handled as the line editor says. -/
theorem handled_typed {c : TypedChar} (edits : s.Edits line) (inside : s.HistoryInside) :
    ∃ t line', Handled s line (.typed c) t line' := by
  by_cases room : line.text.length < maxEditLine - 1
  · have among : 0 ≤ s.linelen ∧ s.linelen < maxEditLine - 1 := by
      rw [edits.linelen]
      unfold maxEditLine at room ⊢
      omega
    have shorter : line.before.length + line.after.length < maxEditLine - 1 := by
      rwa [EditLine.text, List.length_append] at room
    obtain ⟨cells, inserted, edited⟩ := insertChar_edits (c := c.val) edits shorter
    refine ⟨_, _, ⟨press_of_next ?_, .inserted shorter, edited, inside.edited, fun _ => rfl⟩⟩
    show (s.edit .other c.val).map (·, LoopControl.next) = _
    rw [edit, if_pos among, if_neg (by decide), if_pos c.property, inserted]
    rfl
  · have full : maxEditLine - 1 ≤ line.text.length := Nat.le_of_not_lt room
    have notAmong : ¬ (0 ≤ s.linelen ∧ s.linelen < maxEditLine - 1) := by
      rw [edits.linelen]
      unfold maxEditLine at full ⊢
      omega
    refine ⟨s, line, ⟨press_of_next ?_, .noRoom full, edits, inside, fun _ => rfl⟩⟩
    show (s.edit .other c.val).map (·, LoopControl.next) = _
    rw [edit, if_neg notAmong]
    rfl

/-- Backspace is handled as the line editor says, under its condition. -/
theorem handled_back (edits : s.Edits line) (inside : s.HistoryInside) (ok : KeyOk s .back) :
    ∃ t line', Handled s line .back t line' := by
  have handled : s.inputRecord KeyEvent.back.record = (s.edit .back '\x08').map (·, .next) := rfl
  have linelen := edits.linelen_eq
  have cursor := edits.cursor
  by_cases room : s.linelen < maxEditLine - 1
  · have among : 0 ≤ s.linelen ∧ s.linelen < maxEditLine - 1 := by omega
    rw [edit, if_pos among, if_pos rfl] at handled
    obtain ⟨before, after⟩ := line
    rcases List.eq_nil_or_concat before with rfl | ⟨before, c, rfl⟩
    · obtain ⟨cells, deleted, edited⟩ := backspace_start edits
      rw [deleted] at handled
      exact ⟨_, _, ⟨press_of_next handled, .nothingBefore, edited, inside.edited, fun _ => rfl⟩⟩
    · rw [List.concat_eq_append] at edits
      obtain ⟨cells, deleted, edited⟩ := backspace_edits edits
      rw [deleted] at handled
      refine ⟨_, _, ⟨press_of_next handled, ?_, edited, inside.edited, fun _ => rfl⟩⟩
      rw [List.concat_eq_append]
      exact .deleted
  · -- nothing is deleted from a full line, and nothing is before the cursor
    have atStart : line.before = [] := by
      apply List.eq_nil_of_length_eq_zero
      have start := ok.resolve_left room
      omega
    have notAmong : ¬ (0 ≤ s.linelen ∧ s.linelen < maxEditLine - 1) := fun among => room among.2
    rw [edit, if_neg notAmong] at handled
    refine ⟨s, line, ⟨press_of_next handled, ?_, edits, inside, fun _ => rfl⟩⟩
    obtain ⟨before, after⟩ := line
    cases atStart
    exact .nothingBefore

/-- The cursor goes to the left. -/
theorem handled_left (edits : s.Edits line) (inside : s.HistoryInside) :
    ∃ t line', Handled s line .left t line' := by
  have handled : s.inputRecord KeyEvent.left.record =
      if s.linelen - s.cursorPosOffset > 0 then
        some ({ s with cursorPosOffset := s.cursorPosOffset + 1 }, .break_ false)
      else some (s, .break_ false) := rfl
  have linelen := edits.linelen_eq
  have cursor := edits.cursor
  obtain ⟨before, after⟩ := line
  dsimp only at linelen cursor
  rcases List.eq_nil_or_concat before with rfl | ⟨before, c, rfl⟩
  · rw [List.length_nil] at linelen
    rw [if_neg (by omega)] at handled
    exact ⟨s, _, ⟨press_of_break handled, .leftmost, edits, inside, fun _ => rfl⟩⟩
  · rw [List.concat_eq_append] at edits linelen ⊢
    rw [List.length_append, List.length_singleton] at linelen
    have further : s.cursorPosOffset + 1 = ((c :: after).length : Int) := by
      rw [cursor, List.length_cons]
      rfl
    have moved : { s with cursorPosOffset := ((c :: after).length : Int) }.Edits
        ⟨before, c :: after⟩ := by
      apply edits.moveTo
      rw [EditLine.text, List.append_assoc, List.singleton_append]
    rw [if_pos (by omega), further] at handled
    exact ⟨_, _, ⟨press_of_break handled, .left, moved, inside.edited, fun _ => rfl⟩⟩

/-- The cursor goes to the right. -/
theorem handled_right (edits : s.Edits line) (inside : s.HistoryInside) :
    ∃ t line', Handled s line .right t line' := by
  have handled : s.inputRecord KeyEvent.right.record =
      if s.cursorPosOffset > 0 then
        some ({ s with cursorPosOffset := s.cursorPosOffset - 1 }, .break_ false)
      else some (s, .break_ false) := rfl
  have cursor := edits.cursor
  obtain ⟨before, after⟩ := line
  dsimp only at cursor
  cases after with
  | nil =>
      rw [cursor, if_neg (by decide)] at handled
      exact ⟨s, _, ⟨press_of_break handled, .rightmost, edits, inside, fun _ => rfl⟩⟩
  | cons c after =>
      rw [List.length_cons] at cursor
      have nearer : s.cursorPosOffset - 1 = (after.length : Int) := by omega
      have moved : { s with cursorPosOffset := (after.length : Int) }.Edits ⟨before ++ [c], after⟩ := by
        apply edits.moveTo
        rw [EditLine.text, List.append_assoc, List.singleton_append]
      rw [if_pos (by omega), nearer] at handled
      exact ⟨_, _, ⟨press_of_break handled, .right, moved, inside.edited, fun _ => rfl⟩⟩

/-- A key that is not Backspace and has no character edits nothing. -/
theorem edit_nothing {key : VirtualKey} (notBack : key ≠ .back) : s.edit key '\x00' = some s := by
  unfold edit
  split
  · exact if_neg (not_not.mpr rfl)
  · rfl

/-- The cursor goes to the start. -/
theorem handled_home (edits : s.Edits line) (inside : s.HistoryInside) :
    ∃ t line', Handled s line .home t line' := by
  have handled : s.inputRecord KeyEvent.home.record =
      ({ s with cursorPosOffset := s.linelen }.edit .home '\x00').map (·, .next) := rfl
  rw [edit_nothing (by decide), edits.linelen] at handled
  have moved : { s with cursorPosOffset := (line.text.length : Int) }.Edits ⟨[], line.text⟩ :=
      edits.moveTo rfl
  refine ⟨_, _, ⟨press_of_next handled, .home, ?_, inside.edited, fun _ => rfl⟩⟩
  rw [edits.linelen] at moved
  exact moved

/-- The cursor goes to the end. -/
theorem handled_end (edits : s.Edits line) (inside : s.HistoryInside) :
    ∃ t line', Handled s line .end_ t line' := by
  have handled : s.inputRecord KeyEvent.end_.record =
      ({ s with cursorPosOffset := 0 }.edit .end_ '\x00').map (·, .next) := rfl
  rw [edit_nothing (by decide)] at handled
  have moved : { s with cursorPosOffset := (([] : CString).length : Int) }.Edits ⟨line.text, []⟩ :=
    edits.moveTo (List.append_nil line.text)
  exact ⟨_, _, ⟨press_of_next handled, .end_, moved, inside.edited, fun _ => rfl⟩⟩

/-- Up or Down has brought this line, from the history or the empty one, and
left the cursor alone. -/
structure Recalls (s t : Win32Console) (text : CString) : Prop where
  recalled : ∃ pos cells,
    t = { s with historyPos := pos, line := cells, linelen := (text.length : Int) } ∧
    (0 ≤ pos ∧ pos < qconsoleHistory) ∧
    ((text ∈ s.history ∧ cells = copyToLine text) ∨ (text = [] ∧ cells = s.line.set 0 '\x00'))

theorem press_up_recalled {text : CString} (inside : s.HistoryInside) (recalled : s.prevLine = some text) :
    ∃ t, s.press .up = some t ∧ Recalls s t text := by
  have handled : s.inputRecord KeyEvent.up.record = s.histPrev.map (·, .break_ false) := rfl
  obtain ⟨pos, goes, found⟩ := Option.bind_eq_some_iff.mp recalled
  have inRange := inside.prevPos_inRange goes
  obtain ⟨text', entry, found'⟩ := inside.fetch inRange
  cases found'.symm.trans found
  rw [histPrev] at handled
  simp only [goes, inside.recallAt found entry] at handled
  exact ⟨_, press_of_break handled, ⟨pos, _, rfl, inRange, .inl ⟨entry, rfl⟩⟩⟩

theorem press_down_recalled {text : CString} (edits : s.Edits line) (inside : s.HistoryInside)
    (recalled : s.nextLine = some text) : ∃ t, s.press .down = some t ∧ Recalls s t text := by
  have handled : s.inputRecord KeyEvent.down.record = s.histNext.map (·, .break_ false) := rfl
  obtain ⟨pos, goes, found⟩ := Option.bind_eq_some_iff.mp recalled
  have inRange := inside.nextPos_inRange goes
  rw [histNext] at handled
  by_cases future : pos = s.historyOldest
  · rw [if_pos future, Option.some.injEq] at found
    subst found
    simp only [goes, if_pos future, edits.store_start] at handled
    exact ⟨_, press_of_break handled, ⟨pos, _, rfl, inRange, .inr ⟨rfl, rfl⟩⟩⟩
  · rw [if_neg future] at found
    obtain ⟨text', entry, found'⟩ := inside.fetch inRange
    cases found'.symm.trans found
    simp only [goes, if_neg future, inside.recallAt found entry] at handled
    exact ⟨_, press_of_break handled, ⟨pos, _, rfl, inRange, .inl ⟨entry, rfl⟩⟩⟩

/-- A recalled line with enough characters is the line of an editor. -/
theorem handled_recalled {event : KeyEvent} {text : CString} (upDown : event = .up ∨ event = .down)
    (pressed : s.press event = some t) (recalls : Recalls s t text) (edits : s.Edits line)
    (inside : s.HistoryInside) (long : s.cursorPosOffset ≤ text.length) :
    ∃ t line', Handled s line event t line' := by
  obtain ⟨pos, cells, rfl, inRange, source⟩ := recalls.recalled
  have inside' : HistoryInside { s with historyPos := pos, line := cells, linelen := (text.length : Int) } :=
    ⟨inside.size, ⟨show -1 ≤ pos by omega, inRange.2⟩, inside.oldest, inside.entries⟩
  rcases source with ⟨entry, rfl⟩ | ⟨rfl, rfl⟩
  · have edited := recalled_edits pos edits (inside.entries text entry) long
    refine ⟨_, _, ⟨pressed, .recalled upDown (.inl ?_), edited, inside', fun _ => rfl⟩⟩
    rw [text_recalledLine]
    exact entry
  · have noneAfter : s.cursorPosOffset = ([] : CString).length := by
      have cursor := edits.cursor
      rw [List.length_nil] at long ⊢
      omega
    refine ⟨_, .empty, ⟨pressed, .recalled upDown (.inr rfl), ?_, inside', fun _ => rfl⟩⟩
    exact ⟨(List.length_set ..).trans edits.cells, rfl, rfl, noneAfter, Nat.zero_le _⟩

/-- The key up is handled as the line editor says, under its condition. -/
theorem handled_up (edits : s.Edits line) (inside : s.HistoryInside) (ok : KeyOk s .up) :
    ∃ t line', Handled s line .up t line' := by
  cases goes : s.prevPos with
  | none =>
      have handled : s.inputRecord KeyEvent.up.record = s.histPrev.map (·, .break_ false) := rfl
      rw [histPrev, goes] at handled
      exact ⟨s, line, ⟨press_of_break handled, .stays (.inl rfl), edits, inside, fun _ => rfl⟩⟩
  | some pos =>
      obtain ⟨text, -, found⟩ := inside.fetch (inside.prevPos_inRange goes)
      have recalled : s.prevLine = some text := Option.bind_eq_some_iff.mpr ⟨pos, goes, found⟩
      obtain ⟨t, pressed, recalls⟩ := press_up_recalled inside recalled
      exact handled_recalled (.inl rfl) pressed recalls edits inside (ok text recalled)

/-- The key down is handled as the line editor says, under its condition. -/
theorem handled_down (edits : s.Edits line) (inside : s.HistoryInside) (ok : KeyOk s .down) :
    ∃ t line', Handled s line .down t line' := by
  cases goes : s.nextPos with
  | none =>
      have handled : s.inputRecord KeyEvent.down.record = s.histNext.map (·, .break_ false) := rfl
      rw [histNext, goes] at handled
      exact ⟨s, line, ⟨press_of_break handled, .stays (.inr rfl), edits, inside, fun _ => rfl⟩⟩
  | some pos =>
      obtain ⟨text, recalled⟩ : ∃ text, s.nextLine = some text := by
        by_cases future : pos = s.historyOldest
        · exact ⟨[], Option.bind_eq_some_iff.mpr ⟨pos, goes, if_pos future⟩⟩
        · obtain ⟨text, -, found⟩ := inside.fetch (inside.nextPos_inRange goes)
          exact ⟨text, Option.bind_eq_some_iff.mpr ⟨pos, goes, (if_neg future).trans found⟩⟩
      obtain ⟨t, pressed, recalls⟩ := press_down_recalled edits inside recalled
      exact handled_recalled (.inr rfl) pressed recalls edits inside (ok text recalled)

theorem handled_tab (edits : s.Edits line) (inside : s.HistoryInside) :
    ∃ t line', Handled s line .tab t line' :=
  ⟨s, line, ⟨press_of_break rfl, .tab, edits, inside, fun _ => rfl⟩⟩

theorem handled_other (edits : s.Edits line) (inside : s.HistoryInside) :
    ∃ t line', Handled s line .other t line' :=
  ⟨s, line, ⟨press_of_next rfl, .other, edits, inside, fun _ => rfl⟩⟩

/-- A submitted line takes the oldest place. -/
theorem HistoryInside.histAdd (inside : s.HistoryInside) :
    ∃ t, s.histAdd = some t ∧ t.HistoryInside ∧ t.line = s.line ∧ t.linelen = s.linelen ∧
      t.cursorPosOffset = s.cursorPosOffset := by
  obtain ⟨low, high⟩ := inside.oldest
  have among : 0 ≤ s.historyOldest ∧ s.historyOldest.toNat < s.history.length := by
    rw [inside.size]
    omega
  have next : 0 ≤ (if s.historyOldest ≥ qconsoleHistory - 1 then 0 else s.historyOldest + 1) ∧
      (if s.historyOldest ≥ qconsoleHistory - 1 then 0 else s.historyOldest + 1) <
        (qconsoleHistory : Int) := by
    unfold qconsoleHistory at high ⊢
    split
    · omega
    · omega
  refine ⟨_, Option.bind_eq_some_iff.mpr ⟨_, if_pos among, rfl⟩, ?_, rfl, rfl, rfl⟩
  constructor
  · exact (List.length_set ..).trans inside.size
  · exact ⟨Int.le_trans (by decide) next.1, next.2⟩
  · exact next
  · intro text entry
    rcases List.mem_or_eq_of_mem_set entry with before | rfl
    · exact inside.entries text before
    · constructor
      · rw [List.length_take]
        unfold maxEditLine
        omega
      · intro inText
        exact terminator_notMem_cStr s.line (List.mem_of_mem_take inText)

/-- Return submits the line and clears it. -/
theorem handled_return (edits : s.Edits line) (inside : s.HistoryInside) :
    ∃ t line', Handled s line .return_ t line' := by
  have pressed : s.press .return_ = (s.finishInput true).map Prod.fst := press_eq rfl
  by_cases blank : s.linelen = 0
  · have isEmpty : line = .empty := by
      obtain ⟨before, after⟩ := line
      have length := edits.linelen.symm.trans blank
      rw [EditLine.text, List.length_append] at length
      dsimp only at length
      have beforeNil : before = [] := List.eq_nil_of_length_eq_zero (by omega)
      have afterNil : after = [] := List.eq_nil_of_length_eq_zero (by omega)
      rw [beforeNil, afterNil]
      rfl
    refine ⟨s, line, ⟨?_, ?_, edits, inside, fun other => absurd rfl other⟩⟩
    · rw [pressed, finishInput]
      simp only [blank]
      rfl
    · rw [isEmpty]
      exact .submitted
  · have fresh : HistoryInside { s with linelen := 0, cursorPosOffset := 0 } := inside.edited
    obtain ⟨t, added, inside', cells, linelen, cursor⟩ := fresh.histAdd
    refine ⟨t, .empty, ⟨?_, .submitted, ?_, inside', fun other => absurd rfl other⟩⟩
    · have finished : s.finishInput true = some (t, some (cStr t.line)) := by
        rw [finishInput, if_neg (by decide), if_neg blank]
        exact Option.bind_eq_some_iff.mpr ⟨t, added, rfl⟩
      rw [pressed, finished]
      rfl
    · refine ⟨?_, ?_, linelen, cursor, Nat.zero_le _⟩
      · rw [cells]
        exact edits.cells
      · rw [shown, linelen]
        rfl

/-- Every event that meets the condition has its effect. -/
theorem handled_of_keyOk {event : KeyEvent} (edits : s.Edits line) (inside : s.HistoryInside)
    (ok : KeyOk s event) : ∃ t line', Handled s line event t line' := by
  cases event with
  | typed c => exact handled_typed edits inside
  | back => exact handled_back edits inside ok
  | left => exact handled_left edits inside
  | right => exact handled_right edits inside
  | home => exact handled_home edits inside
  | end_ => exact handled_end edits inside
  | up => exact handled_up edits inside ok
  | down => exact handled_down edits inside ok
  | tab => exact handled_tab edits inside
  | return_ => exact handled_return edits inside
  | other => exact handled_other edits inside

/-- A Backspace on a full line does nothing. -/
theorem press_back_full (full : ¬ s.linelen < maxEditLine - 1) : s.press .back = some s := by
  have handled : s.inputRecord KeyEvent.back.record = (s.edit .back '\x08').map (·, .next) := rfl
  have notAmong : ¬ (0 ≤ s.linelen ∧ s.linelen < maxEditLine - 1) := fun among => full among.2
  rw [edit, if_neg notAmong] at handled
  exact press_of_next handled

/-- And no other event has: a Backspace does nothing, or the cursor is before
the start of the line. -/
theorem press_edits_iff {event : KeyEvent} (edits : s.Edits line) (inside : s.HistoryInside) :
    (∃ t line', s.press event = some t ∧ EditStep s.history line event line' ∧ t.Edits line') ↔
      KeyOk s event := by
  constructor
  · rintro ⟨t, line', pressed, step, edited⟩
    obtain ⟨-, cursor, -⟩ := edited.inRange
    cases event with
    | back =>
        by_contra bad
        obtain ⟨full, notStart⟩ := not_or.mp bad
        cases pressed.symm.trans (press_back_full full)
        have length := edits.linelen.symm.trans edited.linelen
        cases step with
        | deleted =>
            simp only [EditLine.text, List.length_append, List.length_singleton] at length
            omega
        | nothingBefore => exact notStart (edits.cursor.trans edits.linelen.symm)
        | recalled moves found => rcases moves with impossible | impossible <;> cases impossible
        | stays moves => rcases moves with impossible | impossible <;> cases impossible
    | up =>
        intro text recalled
        obtain ⟨u, pressed', recalls⟩ := press_up_recalled inside recalled
        cases pressed.symm.trans pressed'
        obtain ⟨pos, cells, rfl, -⟩ := recalls.recalled
        exact cursor
    | down =>
        intro text recalled
        obtain ⟨u, pressed', recalls⟩ := press_down_recalled edits inside recalled
        cases pressed.symm.trans pressed'
        obtain ⟨pos, cells, rfl, -⟩ := recalls.recalled
        exact cursor
    | _ => trivial
  · intro ok
    obtain ⟨t, line', handled⟩ := handled_of_keyOk edits inside ok
    exact ⟨t, line', handled.pressed, handled.step, handled.edits⟩

/-!
### A call with several events

After Return, an arrow key or Tab the loop over the records ends. A call does
what it should if no key comes behind one of these.
-/

/-- How the loop goes on after an event. -/
theorem control_of_event {event : KeyEvent} {control : LoopControl}
    (handled : s.inputRecord event.record = some (t, control)) : control = .next ↔ event.ends = false := by
  have mapped {o : Option Win32Console} {other : LoopControl}
      (found : o.map (·, other) = some (t, control)) :
      control = other := by
    obtain ⟨u, -, same⟩ := Option.map_eq_some_iff.mp found
    exact (congrArg Prod.snd same).symm
  cases event with
  | typed c => exact iff_of_true (mapped handled) rfl
  | back => exact iff_of_true (mapped handled) rfl
  | home => exact iff_of_true (mapped handled) rfl
  | end_ => exact iff_of_true (mapped handled) rfl
  | up =>
      cases mapped handled
      decide
  | down =>
      cases mapped handled
      decide
  | left =>
      change (if s.linelen - s.cursorPosOffset > 0 then _ else _) = _ at handled
      split at handled
      · cases handled
        decide
      · cases handled
        decide
  | right =>
      change (if s.cursorPosOffset > 0 then _ else _) = _ at handled
      split at handled
      · cases handled
        decide
      · cases handled
        decide
  | tab =>
      cases handled
      decide
  | return_ =>
      cases handled
      decide
  | other =>
      cases handled
      decide

/-- What a call with a single event says about the body of the loop. -/
theorem inputRecord_of_press {event : KeyEvent} (pressed : s.press event = some t) :
    (event.ends = false ∧ s.inputRecord event.record = some (t, .next)) ∨
      (event.ends = true ∧ ∃ u newline, s.inputRecord event.record = some (u, .break_ newline) ∧
        (u.finishInput newline).map Prod.fst = some t) := by
  cases handled : s.inputRecord event.record with
  | none =>
      have looped : s.inputRecords [event.record] = none := by rw [inputRecords, handled]
      have few : ¬ (List.map KeyEvent.record [event]).length ≥ maxEditLine := by
        rw [List.length_map, List.length_singleton]
        decide
      rw [press, inputEvents, input, if_neg few, List.map_cons, List.map_nil, looped] at pressed
      cases pressed
  | some result =>
      obtain ⟨u, control⟩ := result
      have same := control_of_event handled
      cases control with
      | next =>
          cases (press_of_next handled).symm.trans pressed
          exact .inl ⟨same.mp rfl, rfl⟩
      | break_ newline =>
          have looped : s.inputRecords [event.record] = some (u, newline) := by rw [inputRecords, handled]
          refine .inr ⟨?_, u, newline, rfl, (press_eq looped).symm.trans pressed⟩
          rw [← Bool.not_eq_false]
          intro goesOn
          cases same.mpr goesOn

/-- Events that are no keys do nothing to the line. -/
theorem editRun_others {history : List CString} {events : List KeyEvent}
    (others : ∀ event ∈ events, event = .other) : EditRun history line events line := by
  induction events with
  | nil => exact .nil
  | cons event events inductionHypothesis =>
      rw [others event List.mem_cons_self]
      refine .cons .other (inductionHypothesis ?_)
      intro later inRest
      exact others later (List.mem_cons_of_mem _ inRest)

/-- The loop over the records, and what follows it. -/
theorem inputRecords_edits {events : List KeyEvent} (edits : s.Edits line) (inside : s.HistoryInside)
    (whole : HandledWhole events) (ok : StepsMeet press KeyOk s events) :
    ∃ u newline t line', s.inputRecords (events.map KeyEvent.record) = some (u, newline) ∧
      (u.finishInput newline).map Prod.fst = some t ∧ EditRun s.history line events line' ∧
      t.Edits line' ∧ t.HistoryInside := by
  induction events generalizing s line with
  | nil => exact ⟨s, false, s, line, rfl, rfl, .nil, edits, inside⟩
  | cons event events inductionHypothesis =>
      obtain ⟨t, line', handled⟩ := handled_of_keyOk edits inside ok.1
      rw [HandledWhole] at whole
      rcases inputRecord_of_press handled.pressed with
        ⟨goesOn, next⟩ | ⟨ends, u, newline, left, finished⟩
      · rw [if_neg (by rw [goesOn]; decide)] at whole
        obtain ⟨u, newline, t', line'', looped, finished, ran, edits', inside'⟩ :=
          inductionHypothesis handled.edits handled.inside whole (ok.2 t handled.pressed)
        have keeps : t.history = s.history := by
          apply handled.history
          rintro rfl
          cases goesOn
        rw [keeps] at ran
        refine ⟨u, newline, t', line'', ?_, finished, .cons handled.step ran, edits', inside'⟩
        rw [List.map_cons, inputRecords, next]
        exact looped
      · rw [if_pos ends] at whole
        refine ⟨u, newline, t, line', ?_, finished, .cons handled.step (editRun_others whole),
          handled.edits, handled.inside⟩
        rw [List.map_cons, inputRecords, left]

/-- A call that meets the condition does what a line editor does. -/
theorem call_edits {events : List KeyEvent} (edits : s.Edits line) (inside : s.HistoryInside)
    (ok : CallOk s events) : ∃ t line', s.inputEvents events = some t ∧
      EditRun s.history line events line' ∧ t.Edits line' ∧ t.HistoryInside := by
  obtain ⟨few, whole, meets⟩ := ok
  obtain ⟨u, newline, t, line', looped, finished, ran, edits', inside'⟩ :=
    inputRecords_edits edits inside whole meets
  refine ⟨t, line', ?_, ran, edits', inside'⟩
  have read : ¬ (events.map KeyEvent.record).length ≥ maxEditLine := by
    rw [List.length_map]
    exact Nat.not_le_of_lt few
  rw [inputEvents, input, if_neg read, looped]
  exact finished

end Events

end Win32Console

/-- Between two calls there is a line with a cursor, and a history. -/
def Win32Console.Edited (s : Win32Console) : Prop := (∃ line, s.Edits line) ∧ s.HistoryInside

/-- A new console edits the empty line. -/
theorem edited_new (memory : Vector Char maxEditLine) : (Win32Console.new memory).Edited := by
  refine ⟨⟨.empty, ⟨memory.size_toArray, rfl, rfl, rfl, Nat.zero_le _⟩⟩, ?_⟩
  have pos : -1 ≤ (-1 : Int) ∧ (-1 : Int) < qconsoleHistory := by decide
  have oldest : 0 ≤ (0 : Int) ∧ (0 : Int) < qconsoleHistory := by decide
  refine ⟨List.length_replicate, pos, oldest, ?_⟩
  intro text entry
  rw [List.eq_of_mem_replicate entry]
  exact ⟨by decide, List.not_mem_nil⟩

/-- In a run whose calls all meet the condition the Windows console is a line
editor: before each call there is a line with a cursor in it, and the call gives
every event its effect on them. -/
theorem line_editor_edits (memory : Vector Char maxEditLine) (calls : List (List KeyEvent))
    (meets : StepsMeet Win32Console.inputEvents CallOk (.new memory) calls) :
    StepsMeet Win32Console.inputEvents EditsSoundly (.new memory) calls := by
  apply stepsMeet_of_invariant _ _ (edited_new memory) meets
  · rintro s events ⟨⟨line, edits⟩, inside⟩ ok
    obtain ⟨t, line', called, ran, edits', -⟩ := Win32Console.call_edits edits inside ok
    exact ⟨edits.inRange, line, edits, t, line', called, ran, edits', edits'.inRange⟩
  · rintro s events u ⟨⟨line, edits⟩, inside⟩ ok called
    obtain ⟨t, line', called', -, edits', inside'⟩ := Win32Console.call_edits edits inside ok
    cases called.symm.trans called'
    exact ⟨⟨line', edits'⟩, inside'⟩

/-!
### Two sessions

One that meets the condition, and one in which a shorter line is recalled.
-/

def letter (c : Char) (typed : c ≠ '\x00') : KeyEvent := .typed ⟨c, typed⟩

/-- A line is typed, changed and submitted, recalled, and changed again. -/
def soundSession : List (List KeyEvent) :=
  [[letter 'a' (by decide), letter 'c' (by decide), .left, .other], [letter 'b' (by decide), .home, .return_],
    [letter 'd' (by decide), .up], [.back, .home, .back, letter 'e' (by decide), .end_, .down]]

/-- One letter is submitted. With the cursor before two other letters, Up brings
that one letter back. -/
def shortRecall : List (List KeyEvent) :=
  [[letter 'a' (by decide), .return_], [letter 'b' (by decide), letter 'c' (by decide), .home, .up]]

theorem soundSession_edits :
    StepsMeet Win32Console.inputEvents CallOk (.new (Vector.replicate 256 '\x00')) soundSession ∧
      StepsMeet Win32Console.inputEvents EditsSoundly (.new (Vector.replicate 256 '\x00')) soundSession := by
  have meets : StepsMeet Win32Console.inputEvents CallOk (.new (Vector.replicate 256 '\x00'))
      soundSession := by decide +kernel
  exact ⟨meets, line_editor_edits _ _ meets⟩

/-- The cursor is then before the start of the line. -/
theorem shortRecall_leaves_line :
    (run Win32Console.inputEvents (.new (Vector.replicate 256 '\x00')) shortRecall).map
        (fun s => (s.shown, s.linelen, s.cursorPosOffset)) = some (['a'], 1, 2) ∧
      ¬ StepsMeet Win32Console.inputEvents EditsSoundly
        (.new (Vector.replicate 256 '\x00')) shortRecall := by
  have shorter : (run Win32Console.inputEvents (.new (Vector.replicate 256 '\x00')) shortRecall).map
      (fun s => (s.shown, s.linelen, s.cursorPosOffset)) = some (['a'], 1, 2) := by decide +kernel
  refine ⟨shorter, ?_⟩
  rintro ⟨-, rest⟩
  obtain ⟨u, ran, recalled⟩ := Option.map_eq_some_iff.mp shorter
  obtain ⟨s, first, ran⟩ := run_cons_eq_some.mp ran
  obtain ⟨t, second, last⟩ := run_cons_eq_some.mp ran
  cases last
  obtain ⟨⟨-, line, -, t', line', called, -, -, -, cursor, -⟩, -⟩ := rest s first
  cases called.symm.trans second
  rw [Prod.mk.injEq, Prod.mk.injEq] at recalled
  omega

end Q3df.Server
