/-
Module: Q3df.Library.Screen
Layer: Library
Purpose: What a terminal makes of the characters sent to it, as far as the row with the cursor goes.
  A visible character takes the cell under the cursor, a backspace moves the cursor only and not to
  the row above, a newline starts a blank row, and an escape sequence is swallowed. A row has a
  number of columns, and what becomes of it when its last cell is written is left open, as terminals
  differ there. A row shows a text if the text stands before the cursor and blanks behind it;
  typing, erasing by backspace, blank and backspace, and starting a row are described by what is
  shown, for texts that leave the last cell of their row free.
Imports: Mathlib.Data.Char, Mathlib.Data.List.Induction
Trusted boundary: the control characters other than newline, backspace, carriage return and escape
  leave the row; a newline comes to a row that is blank
Main exports: Row, Display, Terminal, Visible, Terminal.receive, Terminal.receiveAll, Shows,
  shows_append, shows_erases, shows_newline, receiving_text
Open obligations: none
-/
import Mathlib.Data.Char
import Mathlib.Data.List.Induction

namespace Q3df.Screen

/-- The row with the cursor, and the cursor's column. -/
structure Row where
  cells : List Char
  column : Nat
deriving Repr, DecidableEq

/-- A kind of terminal: the columns of a row, and what becomes of a row when a
character is written to its last cell. Some terminals start the next row at
once, others in front of the next character. -/
structure Display where
  columns : Nat
  wrap : Row → Char → Row

/-- Whether characters are text, or what part of an escape sequence. -/
inductive Mode where
  | text
  | escape
  | control
deriving Repr, DecidableEq

structure Terminal where
  row : Row
  mode : Mode
deriving Repr, DecidableEq

/-- A character with a picture, or a blank. -/
def Visible (c : Char) : Prop := ' ' ≤ c ∧ c ≤ '~'

instance (c : Char) : Decidable (Visible c) := inferInstanceAs (Decidable (_ ∧ _))

def Row.blank : Row := { cells := [], column := 0 }

/-- A terminal that starts the next row at once. -/
def Display.eager (columns : Nat) : Display := { columns := columns, wrap := fun _ _ => .blank }

/-- Write the cell under the cursor, and move on. -/
def Row.put (d : Display) (row : Row) (c : Char) : Row :=
  if row.column + 1 < d.columns then
    { cells :=
        if row.column < row.cells.length then row.cells.set row.column c
        else row.cells ++ List.replicate (row.column - row.cells.length) ' ' ++ [c]
      column := row.column + 1 }
  else d.wrap row c

namespace Terminal

/-- A terminal at the start of a row. -/
def fresh : Terminal := { row := .blank, mode := .text }

/-- One character of text. -/
def receiveText (d : Display) (t : Terminal) (c : Char) : Terminal :=
  if c = '\n' then { t with row := .blank }
  else if c = '\x08' then { t with row := { t.row with column := t.row.column - 1 } }
  else if c = '\r' then { t with row := { t.row with column := 0 } }
  else if c = '\x1b' then { t with mode := .escape }
  else if Visible c then { t with row := t.row.put d c }
  else t

/-- One character. A sequence behind escape and bracket ends with its first
letter. -/
def receive (d : Display) (t : Terminal) (c : Char) : Terminal :=
  match t.mode with
  | .escape => { t with mode := if c = '[' then .control else .text }
  | .control => { t with mode := if '@' ≤ c ∧ c ≤ '~' then .text else .control }
  | .text => t.receiveText d c

/-- Characters in their order. -/
def receiveAll (d : Display) (t : Terminal) (text : List Char) : Terminal := text.foldl (receive d) t

end Terminal

/-- The text stands before the cursor, and blanks behind it. -/
structure Shows (t : Terminal) (text : List Char) : Prop where
  mode : t.mode = .text
  column : t.row.column = text.length
  cells : ∃ blanks, t.row.cells = text ++ List.replicate blanks ' '

variable {d : Display} {t : Terminal} {text more rest : List Char} {c : Char}

/-- A text can be received in two parts. -/
@[simp] theorem receiveAll_append : t.receiveAll d (text ++ more) = (t.receiveAll d text).receiveAll d more :=
  List.foldl_append ..

theorem receiveAll_cons : t.receiveAll d (c :: text) = (t.receive d c).receiveAll d text := rfl

theorem shows_fresh : Shows .fresh [] := ⟨rfl, rfl, 0, rfl⟩

theorem receive_of_text (textMode : t.mode = .text) : t.receive d c = t.receiveText d c := by
  rw [Terminal.receive, textMode]

/-- No visible character is one of those that are treated in another way. -/
theorem receive_visible (textMode : t.mode = .text) (visible : Visible c) :
    t.receive d c = { t with row := t.row.put d c } := by
  have apart (e : Char) (hidden : ¬ Visible e) : c ≠ e := by
    rintro rfl
    exact hidden visible
  rw [receive_of_text textMode, Terminal.receiveText, if_neg (apart '\n' (by decide)),
    if_neg (apart '\x08' (by decide)), if_neg (apart '\r' (by decide)),
      if_neg (apart '\x1b' (by decide)), if_pos visible]

/-- A backspace moves the cursor one column to the left and erases nothing. -/
theorem receive_backspace (textMode : t.mode = .text) :
    t.receive d '\x08' = { t with row := { t.row with column := t.row.column - 1 } } :=
  receive_of_text textMode

/-- Behind a text the cursor is on a blank or at the end of what was written. -/
theorem Shows.put (shows_ : Shows t text) (fits : (text ++ [c]).length < d.columns) :
    Shows { t with row := t.row.put d c } (text ++ [c]) := by
  obtain ⟨blanks, cells⟩ := shows_.cells
  rw [List.length_append, List.length_singleton, ← shows_.column] at fits
  rw [Row.put, if_pos fits]
  refine ⟨shows_.mode, ?_, ?_⟩
  · rw [List.length_append, List.length_singleton, ← shows_.column]
  · cases blanks with
    | zero =>
        rw [List.replicate_zero, List.append_nil] at cells
        have atEnd : ¬ t.row.column < t.row.cells.length := by
          rw [shows_.column, cells]
          exact Nat.lt_irrefl _
        refine ⟨0, ?_⟩
        dsimp only
        rw [if_neg atEnd, shows_.column, cells, Nat.sub_self, List.replicate_zero,
          List.append_nil, List.append_nil]
    | succ blanks =>
        have onBlank : t.row.column < t.row.cells.length := by
          rw [shows_.column, cells, List.length_append, List.length_replicate]
          omega
        refine ⟨blanks, ?_⟩
        dsimp only
        rw [if_pos onBlank, shows_.column, cells, List.replicate_succ,
          List.set_append_right _ _ (Nat.le_refl _),
          Nat.sub_self, List.set_cons_zero, List.append_assoc, List.singleton_append]

/-- A visible character goes behind the text of the row, as long as the cursor
stays on it. -/
theorem shows_receive (shows_ : Shows t text) (visible : Visible c)
    (fits : (text ++ [c]).length < d.columns) :
    Shows (t.receive d c) (text ++ [c]) := by
  rw [receive_visible shows_.mode visible]
  exact shows_.put fits

/-- Text that leaves the last cell free is written behind what is shown. -/
theorem shows_append (shows_ : Shows t text) (visible : ∀ c ∈ more, Visible c)
    (fits : (text ++ more).length < d.columns) : Shows (t.receiveAll d more) (text ++ more) := by
  induction more generalizing t text with
  | nil =>
      rw [List.append_nil]
      exact shows_
  | cons c more inductionHypothesis =>
      have split : text ++ c :: more = text ++ [c] ++ more := by
        rw [List.append_assoc, List.singleton_append]
      rw [split] at fits ⊢
      have room : (text ++ [c]).length < d.columns := by
        rw [List.length_append] at fits
        omega
      have first := shows_receive shows_ (visible c List.mem_cons_self) room
      exact inductionHypothesis first (fun e among => visible e (List.mem_cons_of_mem c among)) fits

/-- Backspace, blank and backspace take the last character away. -/
theorem shows_erase (shows_ : Shows t (text ++ [c])) (fits : (text ++ [c]).length < d.columns) :
    Shows (t.receiveAll d "\x08 \x08".toList) text := by
  obtain ⟨blanks, cells⟩ := shows_.cells
  rw [List.length_append, List.length_singleton] at fits
  have column : t.row.column - 1 = text.length := by
    rw [shows_.column, List.length_append, List.length_singleton, Nat.add_sub_cancel]
  have onLast : text.length < t.row.cells.length := by
    rw [cells, List.length_append, List.length_append, List.length_singleton]
    omega
  let back : Terminal := { t with row := { t.row with column := text.length } }
  have first : t.receive d '\x08' = back := by
    rw [receive_backspace shows_.mode, column]
  have second : back.receive d ' ' =
      { back with row := { cells := t.row.cells.set text.length ' ', column := text.length + 1 } } := by
    rw [receive_visible (by exact shows_.mode) (by decide), Row.put, if_pos (by exact fits),
      if_pos (by exact onLast)]
  have written : t.receiveAll d "\x08 \x08".toList =
      ((t.receive d '\x08').receive d ' ').receive d '\x08' := rfl
  rw [written, first, second, receive_backspace (by exact shows_.mode)]
  refine ⟨shows_.mode, rfl, blanks + 1, ?_⟩
  dsimp only
  rw [cells, List.append_assoc, List.set_append_right _ _ (Nat.le_refl _), Nat.sub_self, List.replicate_succ]
  rfl

/-- Several of them take several characters away. -/
theorem shows_erases (shows_ : Shows t (text ++ more)) (fits : (text ++ more).length < d.columns) :
    Shows (t.receiveAll d (List.replicate more.length "\x08 \x08".toList).flatten) text := by
  induction more using List.reverseRecOn generalizing t with
  | nil =>
      rw [List.append_nil] at shows_
      exact shows_
  | append_singleton more c inductionHypothesis =>
      rw [← List.append_assoc] at shows_ fits
      have room : (text ++ more).length < d.columns := by
        rw [@List.length_append _ (text ++ more) [c]] at fits
        omega
      have first := inductionHypothesis (shows_erase shows_ fits) room
      rw [List.length_append, List.length_singleton, List.replicate_succ,
        List.flatten_cons, receiveAll_append]
      exact first

/-- A newline starts a row. -/
theorem shows_newline (textMode : t.mode = .text) : Shows (t.receive d '\n') [] := by
  rw [receive_of_text textMode]
  exact ⟨textMode, rfl, 0, rfl⟩

/-- Without an escape character text stays text. -/
theorem receiving_text (textMode : t.mode = .text) (clean : '\x1b' ∉ text) :
    (t.receiveAll d text).mode = .text := by
  induction text generalizing t with
  | nil => exact textMode
  | cons c text inductionHypothesis =>
      rw [List.mem_cons, not_or] at clean
      apply inductionHypothesis _ clean.2
      rw [receive_of_text textMode, Terminal.receiveText, if_neg (Ne.symm clean.1)]
      split_ifs <;> exact textMode

/-- A colour sequence leaves the row. -/
theorem receive_colour (textMode : t.mode = .text) {digits : List Char} (number : ∀ e ∈ digits, e < '@') :
    t.receiveAll d ("\x1b[".toList ++ digits ++ ['m']) = t := by
  have start : t.receiveAll d "\x1b[".toList = { t with mode := .control } := by
    have escaped : t.receive d '\x1b' = { t with mode := .escape } := receive_of_text textMode
    show (t.receive d '\x1b').receive d '[' = _
    rw [escaped]
    rfl
  have inside (t : Terminal) (controlMode : t.mode = .control) : t.receiveAll d digits = t := by
    induction digits with
    | nil => rfl
    | cons e digits inductionHypothesis =>
        have below : ¬ ('@' ≤ e ∧ e ≤ '~') := by
          rintro ⟨above, -⟩
          exact absurd (number e List.mem_cons_self) (not_lt.mpr above)
        have stays : t.receive d e = t := by
          rw [Terminal.receive, controlMode]
          dsimp only
          rw [if_neg below, ← controlMode]
        rw [receiveAll_cons, stays]
        exact inductionHypothesis fun f among => number f (List.mem_cons_of_mem e among)
  rw [receiveAll_append, receiveAll_append, start, inside _ rfl]
  show ({ t with mode := .control } : Terminal).receive d 'm' = t
  rw [Terminal.receive]
  show { t with mode := Mode.text } = t
  rw [← textMode]

end Q3df.Screen
