/-
Module: Q3df.Server.TtyInput
Layer: Server
Purpose: `Input` of the terminal console, read byte by byte. The edit line is an array with a
  cursor, the history 32 such arrays, and a call reads one byte, or up to three of an escape
  sequence, of which any may not have arrived yet. Whatever the calls read and whenever it arrives,
  no access is outside an array, and the console does what a line editor does: it types, erases,
  submits and recalls lines. The operations on the history are those modelled on the contents of the
  lines.
Imports: Q3df.Client.StringTokenizer, Q3df.Server.PromptVisibility
Trusted boundary: human-reviewed transcription of server/ConsoleTty.cc (Input, FieldClear, Back,
  Show, Hide, HistAdd, HistPrev, HistNext and Init), where `char` is signed; the terminal is not
  hung up, so that a read gives a byte or fails; the terminal mode is on, without which the second
  print of the program never returns; prints and the signal of a continued process fall between two
  calls of Input, which takes no lock; fewer than 2^31 prints are outstanding; what `FlushIn` reads
  is lost; `scroll` and `widthInChars` of a field, which nothing reads, are left out
Main exports: Field, TtyConsole, Reads, TtyConsole.input, ConsoleKey, keyOf, CommandLine,
  input_eq_pressed, Edits, input_edits, tty_console_edits
Open obligations: none
-/
import Q3df.Client.StringTokenizer
import Q3df.Server.PromptVisibility

namespace Q3df.Server

open Q3df.Buffer Q3df.Transition
open Client (nul signedChar strncpy)

/-!
### The console

The fields of the console, and the functions of the source in its order. What
the terminal sends is a list of reads, and what is written to it is collected.
-/

/-- `field_t`: the cells of a line, and where the next character goes. -/
structure Field where
  cursor : Int
  buffer : List Char
deriving Repr, DecidableEq

/-- The fields of the console in terminal mode, and the static `text` of
`Input`. Beside what was written to either stream, `terminal` has all of it in
order. -/
structure TtyConsole where
  ttyErase : Int
  ttyCon : Field
  ttyEditLines : List Field
  histCurrent : Int
  histCount : Int
  text : List Char
  ttyconHide : Int
  ttyconShowOverdue : Int
  locked : Bool
  stdout : CString
  stderr : CString
  terminal : CString
deriving DecidableEq

/-- What the reads of one call give, in their order: a key, or nothing, as none
has arrived yet. Behind the end of the list nothing has. -/
abbrev Reads := List (Option Char)

/-- `read` of one byte from stdin. -/
def readKey : Reads → Option Char × Reads
  | [] => (none, [])
  | key :: reads => (key, reads)

namespace Field

/-- `FieldClear`. -/
def clear : Field := { cursor := 0, buffer := List.replicate maxEditLine nul }

/-- What `Show` writes: the cells before the cursor. -/
def typed (field : Field) : CString := field.buffer.take field.cursor.toNat

end Field

namespace TtyConsole

/-- `write` to stdout. -/
def write (s : TtyConsole) (text : CString) : TtyConsole :=
  { s with stdout := s.stdout ++ text, terminal := s.terminal ++ text }

/-- `fputs` to stderr, which is not buffered. -/
def fputs (s : TtyConsole) (text : CString) : TtyConsole :=
  { s with stderr := s.stderr ++ text, terminal := s.terminal ++ text }

/-- `Back`. -/
def back (s : TtyConsole) : TtyConsole := s.write "\x08 \x08".toList

/-- `Show`. -/
def show_ (s : TtyConsole) : TtyConsole :=
  let s := { s with ttyconHide := s.ttyconHide - 1 }
  if s.ttyconHide = 0 then (s.write ttyConsolePrompt).write s.ttyCon.typed else s

/-- `Hide`. -/
def hide (s : TtyConsole) : TtyConsole :=
  if s.ttyconHide ≠ 0 then { s with ttyconHide := s.ttyconHide + 1 }
  else
    let s := Nat.repeat back (s.ttyCon.cursor.toNat + ttyConsolePrompt.length) s
    { s with ttyconHide := s.ttyconHide + 1 }

/-- `Init`, which `SigCont` calls as well. -/
def init (s : TtyConsole) : TtyConsole := show_ { s with ttyCon := .clear, ttyconHide := 1 }

/-- The constructor up to its own print; the lines of the history are whatever
was there before. -/
def new (ttyErase : Fin 256) (memory : Vector Field qconsoleHistory) : TtyConsole :=
  init
    { ttyErase := ttyErase.val, ttyCon := .clear, ttyEditLines := memory.toList,
      histCurrent := -1, histCount := 0
      text := List.replicate maxEditLine nul, ttyconHide := 0, ttyconShowOverdue := 0, locked := false
      stdout := [], stderr := [], terminal := [] }

/-- `HistAdd`. -/
def histAdd (s : TtyConsole) (field : Field) : Option TtyConsole :=
  if field.cursor = 0 then some s
  else do
    let ttyEditLines ← shiftUp (qconsoleHistory - 1) (qconsoleHistory - 2) s.ttyEditLines
    let ttyEditLines ← store ttyEditLines 0 field
    some
      { s with
        ttyEditLines := ttyEditLines
        histCurrent := -1
        histCount := if s.histCount < qconsoleHistory then s.histCount + 1 else s.histCount }

/-- `HistPrev`. -/
def histPrev (s : TtyConsole) : Option (Option Field × TtyConsole) :=
  if s.histCurrent + 1 ≥ s.histCount then some (none, s)
  else do
    let s := { s with histCurrent := s.histCurrent + 1 }
    let line ← fetch s.ttyEditLines s.histCurrent
    some (some line, s)

/-- `HistNext`. -/
def histNext (s : TtyConsole) : Option (Option Field × TtyConsole) :=
  let s := if s.histCurrent ≥ 0 then { s with histCurrent := s.histCurrent - 1 } else s
  if s.histCurrent = -1 then some (none, s)
  else do
    let line ← fetch s.ttyEditLines s.histCurrent
    some (some line, s)

/-- Backspace, in any of its spellings. -/
def eraseKey (s : TtyConsole) : Option TtyConsole :=
  if s.ttyCon.cursor > 0 then do
    let cursor := s.ttyCon.cursor - 1
    let buffer ← store s.ttyCon.buffer cursor nul
    some { s with ttyCon := { cursor := cursor, buffer := buffer } }.back
  else some s

/-- Return. `strncpy` leaves the last cell of `text`; the one that is cleared is
in the edit line. -/
def returnKey (s : TtyConsole) : Option (CString × TtyConsole) := do
  let s ← s.histAdd s.ttyCon
  let text := strncpy (cStr s.ttyCon.buffer) (maxEditLine - 1) ++ s.text.drop (maxEditLine - 1)
  let _ ← store s.ttyCon.buffer (maxEditLine - 1) nul
  let s := { s with ttyCon := .clear, text := text }
  some (cStr text, (s.write ['\n']).write ttyConsolePrompt)

/-- Up. Without an older line nothing is drawn. -/
def upKey (s : TtyConsole) : Option TtyConsole :=
  s.histPrev.map fun (history, s) =>
    history.elim s fun field => show_ { s.hide with ttyCon := field }

/-- Down. Without a newer line the edit line is cleared. -/
def downKey (s : TtyConsole) : Option TtyConsole :=
  s.histNext.map fun (history, s) => show_ { s.hide with ttyCon := history.getD .clear }

/-- A regular character. -/
def pushKey (s : TtyConsole) (key : Char) : Option TtyConsole :=
  if s.ttyCon.cursor ≥ (maxEditLine : Int) - 1 then some s
  else do
    let buffer ← store s.ttyCon.buffer s.ttyCon.cursor key
    some ({ s with ttyCon := { cursor := s.ttyCon.cursor + 1, buffer := buffer } }.write [key])

/-- The rest of an escape sequence. -/
def escapeKey (s : TtyConsole) (reads : Reads) : Option TtyConsole :=
  let (key, reads) := readKey reads
  if key = some '[' ∨ key = some 'O' then
    let (key, _) := readKey reads
    if key = some 'A' then s.upKey
    else if key = some 'B' then s.downKey
    else some s
  else some s

/-- `ConsoleTty::Input` in terminal mode: the line, if one was submitted. -/
def input (s : TtyConsole) (reads : Reads) : Option (Option CString × TtyConsole) :=
  match readKey reads with
  | (none, _) => some (none, s)
  | (some key, reads) =>
      if signedChar key = s.ttyErase ∨ key = '\x7f' ∨ key = '\x08' then
        s.eraseKey.map fun s => (none, s)
      else if key ≠ nul ∧ signedChar key < 32 then
        if key = '\n' then s.returnKey.map fun (text, s) => (some text, s)
        else if key = '\t' then some (none, s.hide.show_)
        else (s.escapeKey reads).map fun s => (none, s)
      else (s.pushKey key).map fun s => (none, s)

/-- The loop that makes up for the deferred calls of `Show`. -/
def showOverdue : Nat → TtyConsole → TtyConsole
  | 0, s => s
  | rounds + 1, s =>
      let s := s.show_
      showOverdue rounds { s with ttyconShowOverdue := s.ttyconShowOverdue - 1 }

/-- `Lock`. -/
def lock (s : TtyConsole) : Option TtyConsole := if s.locked then none else some { s with locked := true }

/-- The print functions behind `Lock`, where `text` is what they hand to
`AnsiColorPrint`. -/
def printLocked (msg text : CString) (s : TtyConsole) : TtyConsole :=
  let s := s.hide.fputs (ansiColorText [] text)
  let s :=
    if msg.getLast? = some '\n' then
      let s := s.show_
      showOverdue s.ttyconShowOverdue.toNat s
    else { s with ttyconShowOverdue := s.ttyconShowOverdue + 1 }
  { s with locked := false }

/-- The print functions. -/
def printWith (label msg string : CString) (s : TtyConsole) : Option TtyConsole :=
  if msg = [] then some s else s.lock.map (printLocked msg (label ++ string))

/-- `Print`, `PrintInfo` and `PrintError`. -/
def print (s : TtyConsole) : PrintCall → Option TtyConsole
  | .print msg string _ => s.printWith [] msg string
  | .printInfo msg string _ => s.printWith "^7[^3Info ^7]: ".toList msg string
  | .printError msg string _ => s.printWith "^7[^1Error^7]: ".toList msg string

end TtyConsole

/-!
### What a line editor does

The keys as a user means them, and a line that grows at its end.
-/

/-- What a call of `Input` reads. -/
inductive ConsoleKey where
  | nothing
  | erase
  | return_
  | tab
  | up
  | down
  | other
  | typed (c : Char)
deriving Repr, DecidableEq

/-- The key of an escape sequence, behind the escape. -/
def escapeOf (reads : Reads) : ConsoleKey :=
  if reads.head?.join = some '[' ∨ reads.head?.join = some 'O' then
    match reads.tail.head?.join with
    | some 'A' => .up
    | some 'B' => .down
    | _ => .other
  else .other

/-- The key that is read. Any control character but Tab and Return starts an
escape sequence, and any byte from 128 on is one: `char` is signed. -/
def keyOf (ttyErase : Int) (reads : Reads) : ConsoleKey :=
  match reads.head?.join with
  | none => .nothing
  | some key =>
      if signedChar key = ttyErase ∨ key = '\x7f' ∨ key = '\x08' then .erase
      else if key = nul ∨ 32 ≤ signedChar key then .typed key
      else if key = '\n' then .return_
      else if key = '\t' then .tab
      else escapeOf reads.tail

/-- The line that is edited, the lines submitted so far, the most recent one
first, and the place that Up and Down have gone to among them. -/
structure CommandLine where
  line : CString
  recent : List CString
  place : Nat
deriving Repr, DecidableEq

/-- Nothing has been typed. -/
def CommandLine.start : CommandLine := { line := [], recent := [], place := 0 }

/-- The effect of a key, and the line it submits. A line has up to 255
characters, Up reaches back 32 lines, and an empty line is submitted but not
remembered. -/
def CommandLine.press (l : CommandLine) : ConsoleKey → Option CString × CommandLine
  | .nothing | .tab | .other => (none, l)
  | .erase => (none, { l with line := l.line.dropLast })
  | .typed c => (none, if l.line.length < maxEditLine - 1 then { l with line := l.line ++ [c] } else l)
  | .return_ =>
      (some (cStr l.line), if l.line =
        [] then l else { line := [], recent := l.line :: l.recent, place := 0 })
  | .up =>
      (none,
        if l.place < min l.recent.length qconsoleHistory then
          { l with line := lineAt l.recent (l.place + 1), place := l.place + 1 }
        else l)
  | .down => (none, { l with line := lineAt l.recent (l.place - 1), place := l.place - 1 })

/-!
### The key that a call reads

A call reads one key, or an escape sequence of three bytes. Which function it
runs is said once for all keys.
-/

/-- What a key does to the console, and the line it submits. -/
def TtyConsole.pressed (s : TtyConsole) : ConsoleKey → Option (Option CString × TtyConsole)
  | .nothing | .other => some (none, s)
  | .erase => s.eraseKey.map fun s => (none, s)
  | .return_ => s.returnKey.map fun (text, s) => (some text, s)
  | .tab => some (none, s.hide.show_)
  | .up => s.upKey.map fun s => (none, s)
  | .down => s.downKey.map fun s => (none, s)
  | .typed c => (s.pushKey c).map fun s => (none, s)

/-- A call takes the first byte that is there. -/
theorem readKey_fst (reads : Reads) : (readKey reads).1 = reads.head?.join := by
  cases reads <;> rfl

theorem readKey_snd (reads : Reads) : (readKey reads).2 = reads.tail := by
  cases reads <;> rfl

/-- The rest of an escape sequence does what its key does. -/
theorem escapeKey_eq_pressed (s : TtyConsole) (reads : Reads) :
    ((s.escapeKey reads).map fun s => (none, s)) = s.pressed (escapeOf reads) := by
  rw [TtyConsole.escapeKey, escapeOf]
  dsimp only
  rw [readKey_fst, readKey_snd, readKey_fst]
  by_cases sequence : reads.head?.join = some '[' ∨ reads.head?.join = some 'O'
  · rw [if_pos sequence, if_pos sequence]
    by_cases up : reads.tail.head?.join = some 'A'
    · rw [up, if_pos rfl]
      rfl
    · by_cases down : reads.tail.head?.join = some 'B'
      · rw [down, if_neg (by decide), if_pos rfl]
        rfl
      · rw [if_neg up, if_neg down]
        split
        · exact absurd ‹_› up
        · exact absurd ‹_› down
        · rfl
  · rw [if_neg sequence, if_neg sequence]
    rfl

/-- A call of `Input` reads a key and does what that key does. The console tells
control characters from regular ones first, and Return and Tab from escape
sequences afterwards. -/
theorem input_eq_pressed (s : TtyConsole) (reads : Reads) :
    s.input reads = s.pressed (keyOf s.ttyErase reads) := by
  rw [TtyConsole.input, keyOf]
  rcases reads with _ | ⟨_ | key, reads⟩
  · rfl
  · rfl
  · show (if signedChar key = s.ttyErase ∨ key = '\x7f' ∨ key = '\x08' then _ else _) =
      s.pressed (if signedChar key = s.ttyErase ∨ key = '\x7f' ∨ key = '\x08' then _ else _)
    by_cases erases : signedChar key = s.ttyErase ∨ key = '\x7f' ∨ key = '\x08'
    · rw [if_pos erases, if_pos erases]
      rfl
    · rw [if_neg erases, if_neg erases]
      by_cases types : key = nul ∨ 32 ≤ signedChar key
      · have regular : ¬ (key ≠ nul ∧ signedChar key < 32) := by
          rintro ⟨notNul, small⟩
          rcases types with isNul | large
          · exact notNul isNul
          · omega
        rw [if_pos types, if_neg regular]
        rfl
      · have control : key ≠ nul ∧ signedChar key < 32 := by
          rw [not_or] at types
          exact ⟨types.1, by omega⟩
        rw [if_neg types, if_pos control]
        by_cases submits : key = '\n'
        · rw [if_pos submits, if_pos submits]
          rfl
        · rw [if_neg submits, if_neg submits]
          by_cases tab : key = '\t'
          · rw [if_pos tab, if_pos tab]
            rfl
          · rw [if_neg tab, if_neg tab]
            exact escapeKey_eq_pressed s reads

/-!
### Runs

Calls of `Input`, prints and continuations of the process, in any order.
-/

/-- What happens to the console: a call of `Input`, a print, or the process is
continued. -/
inductive TtyAction where
  | input (reads : Reads)
  | print (call : PrintCall)
  | sigCont

/-- The console, and the lines it has given to its caller. -/
structure TtySession where
  console : TtyConsole
  given : List CString
deriving DecidableEq

def TtySession.step (s : TtySession) : TtyAction → Option TtySession
  | .input reads => (s.console.input reads).map fun (line, console) =>
      { console := console, given := s.given ++ line.toList }
  | .print call => (s.console.print call).map fun console => { s with console := console }
  | .sigCont => some { s with console := s.console.init }

/-- The same for the line editor, which prints nothing; continuing the process
clears its line. -/
def CommandLine.act (ttyErase : Int) (l : CommandLine × List CString) : TtyAction →
    CommandLine × List CString
  | .input reads =>
      let (line, next) := l.1.press (keyOf ttyErase reads)
      (next, l.2 ++ line.toList)
  | .print _ => l
  | .sigCont => ({ l.1 with line := [] }, l.2)

/-!
### The contents of a field

A field with the given characters typed. Bytes behind the terminator are those
of earlier lines.
-/

/-- The field that has this line, with blanks behind it. -/
def Field.of (line : CString) : Field :=
  { cursor := line.length, buffer := line ++ List.replicate (maxEditLine - line.length) nul }

section Fields

variable {line : CString} {c : Char}

theorem Field.of_nil : Field.of [] = .clear := rfl

/-- The characters of a field are those it was made of. -/
theorem typed_of (line : CString) : (Field.of line).typed = line := by
  rw [Field.typed, Field.of, Int.toNat_natCast, List.take_left]

/-- A character goes into the first blank. -/
theorem store_typed (room : line.length < maxEditLine) :
    (store (Field.of line).buffer (Field.of line).cursor c).map
      (fun buffer => ({ cursor := (Field.of line).cursor + 1, buffer := buffer } : Field)) =
        some (Field.of (line ++ [c])) := by
  obtain ⟨behind, blanks⟩ := Nat.exists_eq_add_of_lt room
  have split : maxEditLine - line.length = behind + 1 := by omega
  have rest : maxEditLine - (line ++ [c]).length = behind := by
    rw [List.length_append, List.length_singleton]
    omega
  rw [Field.of, split, List.replicate_succ, store_middle rfl, Option.map_some, Field.of, rest,
    List.length_append,
    List.length_singleton, List.append_assoc, List.singleton_append]
  rfl

/-- Erasing makes the last character a blank again. -/
theorem store_erased (fits : line.length < maxEditLine) :
    (store (Field.of (line ++ [c])).buffer ((Field.of (line ++ [c])).cursor - 1) nul).map
      (fun buffer => ({ cursor := (Field.of (line ++ [c])).cursor - 1, buffer := buffer } : Field)) =
        some (Field.of line) := by
  have length : (line ++ [c]).length = line.length + 1 := by
    rw [List.length_append, List.length_singleton]
  have cursor : (Field.of (line ++ [c])).cursor - 1 = line.length := by
    show ((line ++ [c]).length : Int) - 1 = _
    rw [length]
    omega
  have blanks : maxEditLine - line.length = maxEditLine - (line ++ [c]).length + 1 := by
    rw [length]
    omega
  rw [cursor, Field.of, List.append_assoc, List.singleton_append, store_middle rfl,
    Option.map_some, Field.of, blanks,
    List.replicate_succ]

theorem cStr_nul (rest : List Char) : cStr (nul :: rest) = [] := by
  rw [cStr, List.takeWhile_cons_of_neg]
  decide

/-- A field that is not full is read back as a C string. -/
theorem cStr_buffer (fits : line.length < maxEditLine) : cStr (Field.of line).buffer = cStr line := by
  obtain ⟨behind, blanks⟩ := Nat.exists_eq_add_of_lt fits
  have split : maxEditLine - line.length = behind + 1 := by omega
  rw [Field.of, split, List.replicate_succ]
  rw [cStr, cStr, List.takeWhile_append]
  split
  case isTrue whole => rw [List.takeWhile_cons_of_neg (by decide), List.append_nil,
    (List.takeWhile_prefix _).eq_of_length whole]
  case isFalse => rfl

/-- `strncpy` leaves a text that fits into the cells in front of the last one,
which is never written. -/
theorem cStr_strncpy {text : CString} {cells : List Char} (fits : text.length ≤ cells.length)
    (clean : nul ∉ text) : cStr (strncpy text cells.length ++ [nul]) = text := by
  obtain ⟨behind, size⟩ := Nat.exists_eq_add_of_le fits
  have copied : strncpy text cells.length = text ++ List.replicate behind nul := by
    rw [strncpy, List.take_append, List.take_of_length_le fits, List.take_replicate,
      Nat.min_eq_left (by omega)]
    congr 2
    omega
  rw [copied, List.append_assoc, cStr_append clean]
  cases behind with
  | zero => rw [List.replicate_zero, List.nil_append, cStr_nul, List.append_nil]
  | succ behind => rw [List.replicate_succ, List.cons_append, cStr_nul, List.append_nil]

end Fields

/-!
### What drawing changes

Writing to the terminal and counting how often the prompt is hidden, and nothing
else.
-/

/-- The two differ in what is drawn only. -/
def Redrawn (s t : TtyConsole) : Prop :=
  ∃ hide overdue stdout stderr terminal,
    t = { s with
      ttyconHide := hide, ttyconShowOverdue := overdue, stdout := stdout, stderr := stderr,
        terminal := terminal }

section Drawing

variable {s t u : TtyConsole} {msg text : CString}

theorem Redrawn.refl (s : TtyConsole) : Redrawn s s := ⟨_, _, _, _, _, rfl⟩

/-- Drawing twice is drawing. -/
theorem Redrawn.trans (first : Redrawn s t) (second : Redrawn t u) : Redrawn s u := by
  obtain ⟨_, _, _, _, _, rfl⟩ := first
  obtain ⟨hide, overdue, stdout, stderr, terminal, rfl⟩ := second
  exact ⟨hide, overdue, stdout, stderr, terminal, rfl⟩

theorem redrawn_show (s : TtyConsole) : Redrawn s s.show_ := by
  unfold TtyConsole.show_
  dsimp only
  split
  · exact ⟨_, _, _, _, _, rfl⟩
  · exact ⟨_, _, _, _, _, rfl⟩

theorem redrawn_backs (rounds : Nat) (s : TtyConsole) : Redrawn s (Nat.repeat TtyConsole.back rounds s) := by
  induction rounds with
  | zero => exact .refl s
  | succ rounds inductionHypothesis => exact inductionHypothesis.trans ⟨_, _, _, _, _, rfl⟩

/-- Hiding the prompt is drawing. -/
theorem redrawn_hide (s : TtyConsole) : Redrawn s s.hide := by
  unfold TtyConsole.hide
  split
  · exact ⟨_, _, _, _, _, rfl⟩
  · exact (redrawn_backs _ s).trans ⟨_, _, _, _, _, rfl⟩

/-- Showing the prompt as often as it is overdue is drawing. -/
theorem redrawn_showOverdue (rounds : Nat) (s : TtyConsole) : Redrawn s (s.showOverdue rounds) := by
  induction rounds generalizing s with
  | zero => exact .refl s
  | succ rounds inductionHypothesis =>
      apply (redrawn_show s).trans
      exact Redrawn.trans ⟨_, _, _, _, _, rfl⟩ (inductionHypothesis _)

/-- The part of a print behind `Lock` redraws, and gives the mutex back. -/
theorem redrawn_printLocked (free : s.locked = false) :
    Redrawn s (TtyConsole.printLocked msg text { s with locked := true }) := by
  have hidden := (redrawn_hide { s with locked := true }).trans
    (⟨_, _, _, _, _, rfl⟩ : Redrawn _ (TtyConsole.fputs _ (ansiColorText [] text)))
  have back (t : TtyConsole) (redrawn : Redrawn { s with locked := true } t) :
      Redrawn s { t with locked := false } := by
    obtain ⟨hide, overdue, stdout, stderr, terminal, rfl⟩ := redrawn
    refine ⟨hide, overdue, stdout, stderr, terminal, ?_⟩
    rw [← free]
  unfold TtyConsole.printLocked
  dsimp only
  split
  · exact back _ ((hidden.trans (redrawn_show _)).trans (redrawn_showOverdue _ _))
  · exact back _ (hidden.trans ⟨_, _, _, _, _, rfl⟩)

/-- A print with the mutex free returns and leaves the edit line, the history
and the mutex. -/
theorem print_redraws (free : s.locked = false) (call : PrintCall) : ∃ t,
    s.print call = some t ∧ Redrawn s t := by
  have with_ (label msg string : CString) : ∃ t, s.printWith label msg string = some t ∧ Redrawn s t := by
    rw [TtyConsole.printWith, TtyConsole.lock, free]
    split
    · exact ⟨s, rfl, .refl s⟩
    · exact ⟨_, rfl, redrawn_printLocked free⟩
  cases call with
  | print msg string fits => exact with_ _ _ _
  | printInfo msg string fits => exact with_ _ _ _
  | printError msg string fits => exact with_ _ _ _

end Drawing

/-!
### The console edits the line

One lemma for each key, and from these by induction the whole session.
-/

/-- The console has this line, these lines in its history, and this place among
them. -/
structure Edits (ttyErase : Int) (s : TtyConsole) (l : CommandLine) : Prop where
  erase : s.ttyErase = ttyErase
  free : s.locked = false
  ttyCon : s.ttyCon = .of l.line
  fits : l.line.length ≤ maxEditLine - 1
  size : s.ttyEditLines.length = qconsoleHistory
  entries : ∀ i < min l.recent.length qconsoleHistory, s.ttyEditLines[i]? = l.recent[i]?.map Field.of
  recentFit : ∀ line ∈ l.recent, line.length ≤ maxEditLine - 1
  count : s.histCount = (min l.recent.length qconsoleHistory : Nat)
  current : s.histCurrent = l.place - 1
  within : l.place ≤ min l.recent.length qconsoleHistory
  text : s.text.length = maxEditLine ∧ s.text.drop (maxEditLine - 1) = [nul]

section Editing

variable {ttyErase : Int} {s t : TtyConsole} {l : CommandLine} {line : CString} {place : Nat}

/-- Drawing does not touch the line. -/
theorem Edits.redrawn (edits : Edits ttyErase s l) (redrawn : Redrawn s t) : Edits ttyErase t l := by
  obtain ⟨_, _, _, _, _, rfl⟩ := redrawn
  exact ⟨edits.erase, edits.free, edits.ttyCon, edits.fits, edits.size, edits.entries, edits.recentFit,
    edits.count, edits.current, edits.within, edits.text⟩

/-- Another line is edited. -/
theorem Edits.lined (edits : Edits ttyErase s l) (fits : line.length ≤ maxEditLine - 1) :
    Edits ttyErase { s with ttyCon := .of line } { l with line := line } :=
  ⟨edits.erase, edits.free, rfl, fits, edits.size, edits.entries, edits.recentFit,
    edits.count, edits.current,
    edits.within, edits.text⟩

/-- Another place is gone to. -/
theorem Edits.placed (edits : Edits ttyErase s l) (within : place ≤ min l.recent.length qconsoleHistory) :
    Edits ttyErase { s with histCurrent := (place : Int) - 1 } { l with place := place } :=
  ⟨edits.erase, edits.free, edits.ttyCon, edits.fits, edits.size, edits.entries,
    edits.recentFit, edits.count,
    rfl, within, edits.text⟩

/-- The prompt and the line are written anew. -/
theorem Edits.redraw (edits : Edits ttyErase s l) (fits : line.length ≤ maxEditLine - 1) :
    Edits ttyErase (TtyConsole.show_ { s.hide with ttyCon := .of line }) { l with line := line } := by
  have hidden : Redrawn { s with ttyCon := .of line } { s.hide with ttyCon := .of line } := by
    obtain ⟨hide, overdue, stdout, stderr, terminal, same⟩ := redrawn_hide s
    exact ⟨hide, overdue, stdout, stderr, terminal, by rw [same]⟩
  exact (edits.lined fits).redrawn (hidden.trans (redrawn_show _))

/-- Backspace takes the last character of the line. -/
theorem Edits.eraseKey (edits : Edits ttyErase s l) :
    ∃ t, s.eraseKey = some t ∧ Edits ttyErase t { l with line := l.line.dropLast } := by
  rcases List.eq_nil_or_concat l.line with empty | ⟨line, c, concat⟩
  · refine ⟨s, ?_, ?_⟩
    · rw [TtyConsole.eraseKey, edits.ttyCon, empty, if_neg (by decide)]
    · have same : { l with line := l.line.dropLast } = l := by rw [empty, List.dropLast_nil, ← empty]
      rw [same]
      exact edits
  · rw [List.concat_eq_append] at concat
    have fits := edits.fits
    rw [concat, List.length_append, List.length_singleton] at fits
    have length : line.length < maxEditLine := by omega
    obtain ⟨buffer, stored, erased⟩ := Option.map_eq_some_iff.mp (@store_erased line c length)
    have positive : s.ttyCon.cursor > 0 := by
      rw [edits.ttyCon, concat]
      show ((line ++ [c]).length : Int) > 0
      rw [List.length_append, List.length_singleton]
      omega
    refine ⟨({ s with ttyCon := .of line } : TtyConsole).back, ?_, ?_⟩
    · rw [TtyConsole.eraseKey, if_pos positive, edits.ttyCon, concat]
      dsimp only
      rw [stored, Option.bind_eq_bind, Option.bind_some, erased]
    · rw [concat, List.dropLast_concat]
      exact (edits.lined (by omega)).redrawn ⟨_, _, _, _, _, rfl⟩

/-- A typed character goes to the end of the line, if there is room. -/
theorem Edits.pushKey (edits : Edits ttyErase s l) (key : Char) :
    ∃ t, s.pushKey key = some t ∧
      Edits ttyErase t (if l.line.length <
        maxEditLine - 1 then { l with line := l.line ++ [key] } else l) := by
  have cursor : s.ttyCon.cursor = l.line.length := by
    rw [edits.ttyCon]
    rfl
  by_cases room : l.line.length < maxEditLine - 1
  · have length : l.line.length < maxEditLine := by omega
    have notFull : ¬ s.ttyCon.cursor ≥ (maxEditLine : Int) - 1 := by omega
    obtain ⟨buffer, stored, typed⟩ := Option.map_eq_some_iff.mp (@store_typed l.line key length)
    refine ⟨({ s with ttyCon := .of (l.line ++ [key]) } : TtyConsole).write [key], ?_, ?_⟩
    · rw [TtyConsole.pushKey, if_neg notFull, edits.ttyCon, stored, Option.bind_eq_bind,
        Option.bind_some, typed]
    · rw [if_pos room]
      apply Edits.redrawn (edits.lined _) ⟨_, _, _, _, _, rfl⟩
      rw [List.length_append, List.length_singleton]
      omega
  · have full : s.ttyCon.cursor ≥ (maxEditLine : Int) - 1 := by
      rw [cursor]
      omega
    refine ⟨s, ?_, ?_⟩
    · rw [TtyConsole.pushKey, if_pos full]
    · rw [if_neg room]
      exact edits

/-- A place among the lines has the field of its line. -/
theorem Edits.fetch_line (edits : Edits ttyErase s l) (among : place < min l.recent.length qconsoleHistory) :
    fetch s.ttyEditLines place = some (.of (lineAt l.recent (place + 1))) ∧
      (lineAt l.recent (place + 1)).length ≤ maxEditLine - 1 := by
  have inside : place < l.recent.length := by omega
  have found : l.recent[place]? = some l.recent[place] := List.getElem?_eq_getElem inside
  constructor
  · rw [fetch, if_pos (Int.natCast_nonneg place), Int.toNat_natCast, edits.entries place among, found,
      Option.map_some, lineAt_of_getElem? found]
  · rw [lineAt_of_getElem? found]
    exact edits.recentFit _ (List.getElem_mem inside)

/-- The key up shows the next older line. -/
theorem Edits.upKey (edits : Edits ttyErase s l) : ∃ t, s.upKey = some t ∧
    Edits ttyErase t (l.press .up).2 := by
  have next : s.histCurrent + 1 = l.place := by
    rw [edits.current]
    omega
  by_cases older : l.place < min l.recent.length qconsoleHistory
  · obtain ⟨found, fits⟩ := edits.fetch_line older
    have among : ¬ s.histCurrent + 1 ≥ s.histCount := by
      rw [next, edits.count]
      omega
    have moved := edits.placed (Nat.succ_le_of_lt older)
    have same : ((l.place + 1 : Nat) : Int) - 1 = l.place := by omega
    rw [same] at moved
    rw [CommandLine.press, if_pos older]
    refine ⟨_, ?_, moved.redraw fits⟩
    rw [TtyConsole.upKey, TtyConsole.histPrev, if_neg among, next]
    dsimp only
    rw [found]
    rfl
  · have last : s.histCurrent + 1 ≥ s.histCount := by
      rw [next, edits.count]
      omega
    refine ⟨s, ?_, ?_⟩
    · rw [TtyConsole.upKey, TtyConsole.histPrev, if_pos last]
      rfl
    · rw [CommandLine.press, if_neg older]
      exact edits

/-- The key down shows the next newer line. -/
theorem Edits.downKey (edits : Edits ttyErase s l) : ∃ t, s.downKey = some t ∧
    Edits ttyErase t (l.press .down).2 := by
  have within := edits.within
  have current := edits.current
  by_cases newest : l.place ≤ 1
  · -- at the newest line, or at the one edited, the edit line is cleared
    have edited : l.place - 1 = 0 := by omega
    have moved := @Edits.redraw _ _ _ [] (edits.placed (Nat.zero_le _)) (Nat.zero_le _)
    rw [CommandLine.press, edited]
    refine ⟨_, ?_, moved⟩
    rw [TtyConsole.downKey, TtyConsole.histNext]
    rcases Nat.le_one_iff_eq_zero_or_eq_one.mp newest with atLine | atNewest
    · have minusOne : s.histCurrent = -1 := by omega
      have same : s = { s with histCurrent := ((0 : Nat) : Int) - 1 } := by
        show s = { s with histCurrent := -1 }
        rw [← minusOne]
      dsimp only
      rw [if_neg (show ¬ s.histCurrent ≥ 0 by omega), if_pos minusOne, Option.map_some, ← same]
      rfl
    · have zero : s.histCurrent = 0 := by omega
      dsimp only
      rw [if_pos (show s.histCurrent ≥ 0 by omega), zero]
      rfl
  · obtain ⟨newer, place⟩ : ∃ newer, l.place = newer + 2 := ⟨l.place - 2, by omega⟩
    have back : l.place - 1 = newer + 1 := by omega
    have at_ : s.histCurrent - 1 = newer := by omega
    obtain ⟨found, fits⟩ := edits.fetch_line (show newer < min l.recent.length qconsoleHistory by omega)
    have moved := edits.placed (show newer + 1 ≤ min l.recent.length qconsoleHistory by omega)
    have same : ((newer + 1 : Nat) : Int) - 1 = newer := by omega
    rw [same] at moved
    rw [CommandLine.press, back]
    refine ⟨_, ?_, moved.redraw fits⟩
    rw [TtyConsole.downKey, TtyConsole.histNext]
    dsimp only
    rw [if_pos (show s.histCurrent ≥ 0 by omega), at_, if_neg (show (newer : Int) ≠ -1 by omega), found]
    rfl

/-- A line that is not empty becomes the newest of the history. -/
theorem Edits.histAdd (edits : Edits ttyErase s l) (typed : l.line ≠ []) :
    ∃ t, s.histAdd s.ttyCon = some t ∧
      Edits ttyErase t { line := l.line, recent := l.line :: l.recent, place := 0 } := by
  have cursor : s.ttyCon.cursor ≠ 0 := by
    rw [edits.ttyCon]
    exact Int.natCast_ne_zero.mpr fun empty => typed (List.eq_nil_of_length_eq_zero empty)
  obtain ⟨older, oldest, split⟩ : ∃ older oldest, s.ttyEditLines = older ++ [oldest] := by
    rcases List.eq_nil_or_concat s.ttyEditLines with empty | ⟨older, oldest, split⟩
    · have size := edits.size
      rw [empty] at size
      cases size
    · exact ⟨older, oldest, split.trans List.concat_eq_append⟩
  have length : older.length = qconsoleHistory - 1 := by
    have size := edits.size
    rw [split, List.length_append, List.length_singleton] at size
    omega
  have pushed := @shiftUp_push _ older oldest s.ttyCon
  rw [length, ← split] at pushed
  obtain ⟨moved, shifted, stored⟩ := Option.bind_eq_some_iff.mp pushed
  refine ⟨{ s with
    ttyEditLines := s.ttyCon :: older
    histCurrent := -1
    histCount := if s.histCount < qconsoleHistory then s.histCount + 1 else s.histCount }, ?_, ?_⟩
  · rw [TtyConsole.histAdd, if_neg cursor]
    exact Option.bind_eq_some_iff.mpr ⟨moved, shifted, Option.bind_eq_some_iff.mpr ⟨_, stored, rfl⟩⟩
  · refine ⟨edits.erase, edits.free, edits.ttyCon, edits.fits, ?_, ?_, ?_, ?_, rfl,
      Nat.zero_le _, edits.text⟩
    · show (s.ttyCon :: older).length = qconsoleHistory
      rw [List.length_cons, length]
      rfl
    · intro i inside
      cases i with
      | zero => exact congrArg some edits.ttyCon
      | succ i =>
          rw [List.length_cons] at inside
          have kept := edits.entries i (by omega)
          rw [split, List.getElem?_append_left (by omega)] at kept
          exact kept
    · intro line among
      rcases List.mem_cons.mp among with rfl | before
      · exact edits.fits
      · exact edits.recentFit line before
    · show (if s.histCount < qconsoleHistory then s.histCount + 1 else s.histCount) = _
      rw [edits.count, List.length_cons]
      split
      · omega
      · omega

/-- Return hands out the line and starts an empty one. -/
theorem Edits.returnKey (edits : Edits ttyErase s l) : ∃ t, s.returnKey = some (cStr l.line, t) ∧
    Edits ttyErase t (l.press .return_).2 := by
  -- an empty line is not remembered, and leaves the place where it is
  obtain ⟨u, added, kept⟩ : ∃ u, s.histAdd s.ttyCon = some u ∧ Edits ttyErase u
      (if l.line = [] then l else { line := l.line, recent := l.line :: l.recent, place := 0 }) := by
    by_cases empty : l.line = []
    · rw [if_pos empty]
      refine ⟨s, ?_, edits⟩
      rw [TtyConsole.histAdd, edits.ttyCon, empty]
      rfl
    · rw [if_neg empty]
      exact edits.histAdd empty
  have ttyCon : u.ttyCon = .of l.line := by
    rw [kept.ttyCon]
    split <;> rfl
  have length : l.line.length < maxEditLine := Nat.lt_of_le_of_lt edits.fits (by decide)
  have copied : (strncpy (cStr l.line) (maxEditLine - 1)).length = maxEditLine - 1 := by
    rw [strncpy, List.length_take, List.length_append, List.length_replicate]
    omega
  obtain ⟨cells, last⟩ := kept.text
  have text : cStr (strncpy (cStr l.line) (maxEditLine - 1) ++ [nul]) = cStr l.line := by
    have fits : (cStr l.line).length ≤ (strncpy (cStr l.line) (maxEditLine - 1)).length := by
      rw [copied]
      exact length_cStr_le.trans edits.fits
    have read := cStr_strncpy fits (terminator_notMem_cStr l.line)
    rwa [copied] at read
  obtain ⟨buffer, stored⟩ : ∃ buffer, store u.ttyCon.buffer (maxEditLine - 1) nul = some buffer := by
    refine ⟨_, if_pos ⟨by decide, ?_⟩⟩
    rw [ttyCon, Field.of, List.length_append, List.length_replicate]
    show maxEditLine - 1 < _
    omega
  refine ⟨(({ u with
    ttyCon := .clear
    text := strncpy (cStr l.line) (maxEditLine - 1) ++ [nul] } : TtyConsole).write ['\n']).write
      ttyConsolePrompt, ?_, ?_⟩
  · rw [TtyConsole.returnKey, added, Option.bind_eq_bind, Option.bind_some, stored, Option.bind_eq_bind,
      Option.bind_some, last, ttyCon, cStr_buffer length, text]
  · have cleared := @Edits.lined _ _ _ [] kept (Nat.zero_le _)
    have result : (l.press .return_).2 =
        { (if l.line = [] then l else { line := l.line, recent := l.line :: l.recent, place := 0 }) with
          line := [] } := by
      rw [CommandLine.press]
      by_cases empty : l.line = []
      · rw [if_pos empty, if_pos empty, ← empty]
      · rw [if_neg empty, if_neg empty]
    rw [result]
    apply Edits.redrawn _ ⟨_, _, _, _, _, rfl⟩
    refine ⟨cleared.erase, cleared.free, cleared.ttyCon, cleared.fits, cleared.size, cleared.entries,
      cleared.recentFit, cleared.count, cleared.current, cleared.within, ?_, ?_⟩
    · show (strncpy (cStr l.line) (maxEditLine - 1) ++ [nul]).length = maxEditLine
      rw [List.length_append, copied]
      rfl
    · exact List.drop_left' copied

/-- Each key has its effect on the line. -/
theorem Edits.pressed (edits : Edits ttyErase s l) (key : ConsoleKey) :
    ∃ t, s.pressed key = some ((l.press key).1, t) ∧ Edits ttyErase t (l.press key).2 := by
  cases key with
  | nothing => exact ⟨s, rfl, edits⟩
  | other => exact ⟨s, rfl, edits⟩
  | tab => exact ⟨_, rfl, edits.redrawn ((redrawn_hide s).trans (redrawn_show _))⟩
  | erase =>
      obtain ⟨t, erased, edited⟩ := edits.eraseKey
      exact ⟨t, congrArg (Option.map _) erased, edited⟩
  | typed c =>
      obtain ⟨t, pushed, edited⟩ := edits.pushKey c
      exact ⟨t, congrArg (Option.map _) pushed, edited⟩
  | return_ =>
      obtain ⟨t, returned, edited⟩ := edits.returnKey
      exact ⟨t, congrArg (Option.map _) returned, edited⟩
  | up =>
      obtain ⟨t, moved, edited⟩ := edits.upKey
      exact ⟨t, congrArg (Option.map _) moved, edited⟩
  | down =>
      obtain ⟨t, moved, edited⟩ := edits.downKey
      exact ⟨t, congrArg (Option.map _) moved, edited⟩

/-- One call: no access is outside an array, and the key that is read has its
effect. -/
theorem input_edits (edits : Edits ttyErase s l) (reads : Reads) :
    ∃ t, s.input reads = some ((l.press (keyOf ttyErase reads)).1, t) ∧
      Edits ttyErase t (l.press (keyOf ttyErase reads)).2 := by
  rw [input_eq_pressed, edits.erase]
  exact edits.pressed _

/-- The process is continued with an empty line. -/
theorem Edits.init (edits : Edits ttyErase s l) : Edits ttyErase s.init { l with line := [] } :=
  (@Edits.lined _ _ _ [] edits (Nat.zero_le _)).redrawn
    (Redrawn.trans ⟨_, _, _, _, _, rfl⟩ (redrawn_show _))

/-- A new console edits the empty line, with an empty history. -/
theorem edits_new (ttyErase : Fin 256) (memory : Vector Field qconsoleHistory) :
    Edits ttyErase.val (.new ttyErase memory) .start := by
  refine @Edits.init _ _ .start ⟨rfl, rfl, Field.of_nil.symm, Nat.zero_le _,
    memory.size_toArray, ?_, ?_, rfl, rfl,
    Nat.le_refl 0, List.length_replicate, List.drop_replicate⟩
  · intro i impossible
    exact absurd impossible (Nat.not_lt_zero i)
  · intro line among
    exact absurd among List.not_mem_nil

/-- One step of the session. -/
theorem session_step {s : TtySession} {given : List CString} (edits : Edits ttyErase s.console l)
    (same : s.given = given) (action : TtyAction) : ∃ t, s.step action = some t ∧
      Edits ttyErase t.console (CommandLine.act ttyErase (l, given) action).1 ∧
      t.given = (CommandLine.act ttyErase (l, given) action).2 := by
  cases action with
  | input reads =>
      obtain ⟨console, called, edited⟩ := input_edits edits reads
      refine ⟨_, by rw [TtySession.step, called]; rfl, edited, ?_⟩
      rw [← same]
      rfl
  | print call =>
      obtain ⟨console, printed, redrawn⟩ := print_redraws edits.free call
      exact ⟨{ s with console := console
        }, by rw [TtySession.step, printed]; rfl, edits.redrawn redrawn, same⟩
  | sigCont => exact ⟨_, rfl, edits.init, same⟩

/-- A whole session edits as its keys say, and hands out the lines in their
order. -/
theorem session_run {s : TtySession} {given : List CString} (edits : Edits ttyErase s.console l)
    (same : s.given = given) (actions : List TtyAction) : ∃ t, run TtySession.step s actions = some t ∧
      Edits ttyErase t.console (actions.foldl (CommandLine.act ttyErase) (l, given)).1 ∧
      t.given = (actions.foldl (CommandLine.act ttyErase) (l, given)).2 := by
  induction actions generalizing s l given with
  | nil => exact ⟨s, rfl, edits, same⟩
  | cons action actions inductionHypothesis =>
      obtain ⟨u, stepped, edited, given'⟩ := session_step edits same action
      obtain ⟨t, ran, atEnd⟩ := inductionHypothesis edited given'
      exact ⟨t, run_cons_eq_some.mpr ⟨u, stepped, ran⟩, atEnd⟩

end Editing

namespace TtyConsole

/-- The console without the cells of its lines. -/
def forget (s : TtyConsole) : ConsoleState :=
  { locked := s.locked, ttyconOn := true, ttyconHide := s.ttyconHide, ttyconShowOverdue := s.ttyconShowOverdue
    ttyCon := s.ttyCon.typed, stdout := s.stdout, stderr := s.stderr }

/-- The history with the contents of its lines. -/
def history (s : TtyConsole) : TtyHistory :=
  { editLines := s.ttyEditLines.map Field.typed, histCurrent := s.histCurrent, histCount := s.histCount }

variable {s : TtyConsole}

/-- Showing the prompt does the same in the model with the contents only. -/
theorem forget_show : s.show_.forget = s.forget.show_ := by
  unfold show_ ConsoleState.show_
  dsimp only
  rw [if_pos (show s.forget.ttyconOn = true from rfl)]
  by_cases last : s.ttyconHide - 1 = 0
  · rw [if_pos last, if_pos (show s.forget.ttyconHide - 1 = 0 from last)]
    rfl
  · rw [if_neg last, if_neg (show ¬ s.forget.ttyconHide - 1 = 0 from last)]
    rfl

theorem forget_backs (rounds : Nat) (s : TtyConsole) :
    (Nat.repeat back rounds s).forget = Nat.repeat ConsoleState.back rounds s.forget := by
  induction rounds with
  | zero => rfl
  | succ rounds inductionHypothesis =>
      show (Nat.repeat back rounds s).back.forget = (Nat.repeat ConsoleState.back rounds s.forget).back
      rw [← inductionHypothesis]
      rfl

/-- As many characters are taken back as the contents have. -/
theorem forget_hide (typed : s.ttyCon.cursor.toNat = s.ttyCon.typed.length) :
    s.hide.forget = s.forget.hide := by
  unfold hide ConsoleState.hide
  rw [if_pos (show s.forget.ttyconOn = true from rfl)]
  by_cases hidden : s.ttyconHide ≠ 0
  · rw [if_pos hidden, if_pos (show s.forget.ttyconHide ≠ 0 from hidden)]
    rfl
  · rw [if_neg hidden, if_neg (show ¬ s.forget.ttyconHide ≠ 0 from hidden), typed]
    dsimp only
    rw [show s.ttyCon.typed.length = s.forget.ttyCon.length from rfl, ← forget_backs]
    rfl

theorem forget_showOverdue (rounds : Nat) (s : TtyConsole) :
    (s.showOverdue rounds).forget = s.forget.showOverdue rounds := by
  induction rounds generalizing s with
  | zero => rfl
  | succ rounds inductionHypothesis =>
      rw [showOverdue, ConsoleState.showOverdue, inductionHypothesis, ← forget_show]
      rfl

/-- A print does the same in the model with the contents only. -/
theorem forget_printLocked {msg text : CString} (typed : s.ttyCon.cursor.toNat = s.ttyCon.typed.length) :
    (s.printLocked msg text).forget = s.forget.printLocked msg text := by
  have hidden : (s.hide.fputs (ansiColorText [] text)).forget = s.forget.hide.ansiColorPrint text := by
    rw [← forget_hide typed]
    rfl
  have mode : (s.forget.hide.ansiColorPrint text).ttyconOn = true := by
    rw [← hidden]
    rfl
  unfold printLocked ConsoleState.printLocked ConsoleState.restorePrompt
  dsimp only
  rw [mode, if_neg (show ¬ (!true) = true by decide), ← hidden]
  by_cases ends : msg.getLast? = some '\n'
  · rw [if_pos ends, if_pos ends, ← forget_show]
    exact congrArg ConsoleState.unlock (forget_showOverdue _ _)
  · rw [if_neg ends, if_neg ends]
    rfl

/-- A call of a printing function does the same in the model of the lock. -/
theorem forget_print (typed : s.ttyCon.cursor.toNat = s.ttyCon.typed.length) (call : PrintCall) :
    (s.print call).map forget = call.step s.forget := by
  have with_ (label msg string : CString) :
      (s.printWith label msg string).map forget = s.forget.printWith label msg string := by
    unfold printWith ConsoleState.printWith
    split
    · rfl
    · unfold lock ConsoleState.lock
      rw [show s.forget.locked = s.locked from rfl]
      split
      · rfl
      · exact congrArg some (@forget_printLocked { s with locked := true } _ _ typed)
  cases call with
  | print msg string fits => exact with_ _ _ _
  | printInfo msg string fits => exact with_ _ _ _
  | printError msg string fits => exact with_ _ _ _

theorem forget_histAdd {field : Field} (typed : field.cursor = 0 ↔ field.typed = []) :
    (s.histAdd field).map history = s.history.histAdd field.typed := by
  unfold histAdd TtyHistory.histAdd
  by_cases empty : field.cursor = 0
  · rw [if_pos empty, if_pos (typed.mp empty)]
    rfl
  · rw [if_neg empty, if_neg fun same => empty (typed.mpr same)]
    show _ = ((shiftUp _ _ (s.ttyEditLines.map Field.typed)).bind fun _ => _)
    rw [shiftUp_map]
    cases shiftUp (qconsoleHistory - 1) (qconsoleHistory - 2) s.ttyEditLines with
    | none => rfl
    | some moved =>
        show _ = ((store (moved.map Field.typed) 0 field.typed).bind fun _ => _)
        rw [store_map]
        cases stored : store moved 0 field with
        | none => simp only [Option.bind_eq_bind, Option.bind_some, stored]; rfl
        | some ttyEditLines => simp only [Option.bind_eq_bind, Option.bind_some, stored]; rfl

/-- One step back does the same in the model of the history. -/
theorem forget_histPrev : s.histPrev.map (fun found => (found.1.map Field.typed, found.2.history)) =
    s.history.histPrev := by
  unfold histPrev TtyHistory.histPrev
  by_cases last : s.histCurrent + 1 ≥ s.histCount
  · rw [if_pos last, if_pos (show s.history.histCurrent + 1 ≥ s.history.histCount from last)]
    rfl
  · rw [if_neg last, if_neg (show ¬ s.history.histCurrent + 1 ≥ s.history.histCount from last)]
    show _ = ((fetch (s.ttyEditLines.map Field.typed) (s.histCurrent + 1)).bind fun _ => _)
    rw [fetch_map]
    cases found : fetch s.ttyEditLines (s.histCurrent + 1) with
    | none => simp only [Option.bind_eq_bind, found]; rfl
    | some field => simp only [Option.bind_eq_bind, found]; rfl

/-- One step forth does the same in the model of the history. -/
theorem forget_histNext : s.histNext.map (fun found => (found.1.map Field.typed, found.2.history)) =
    s.history.histNext := by
  have at_ (s : TtyConsole) :
      (if s.histCurrent = -1 then some (none, s)
        else do
          let line ← fetch s.ttyEditLines s.histCurrent
          some (some line, s)).map (fun found => (found.1.map Field.typed, found.2.history)) =
      if s.history.histCurrent = -1 then some (none, s.history)
        else (fetch s.history.editLines s.history.histCurrent).bind fun line =>
          some (some line, s.history) := by
    by_cases newest : s.histCurrent = -1
    · rw [if_pos newest, if_pos (show s.history.histCurrent = -1 from newest)]
      rfl
    · rw [if_neg newest, if_neg (show ¬ s.history.histCurrent = -1 from newest)]
      show _ = ((fetch (s.ttyEditLines.map Field.typed) s.histCurrent).bind fun _ => _)
      rw [fetch_map]
      cases found : fetch s.ttyEditLines s.histCurrent with
      | none => rfl
      | some field => rfl
  unfold histNext TtyHistory.histNext
  dsimp only
  by_cases older : s.histCurrent ≥ 0
  · rw [if_pos older, if_pos (show s.history.histCurrent ≥ 0 from older)]
    exact at_ { s with histCurrent := s.histCurrent - 1 }
  · rw [if_neg older, if_neg (show ¬ s.history.histCurrent ≥ 0 from older)]
    exact at_ s

/-- The line is replaced behind a hidden prompt. -/
theorem forget_redraw {field : Field} (typed : s.ttyCon.cursor.toNat = s.ttyCon.typed.length) :
    (show_ { s.hide with ttyCon := field }).forget = s.forget.redraw field.typed := by
  rw [forget_show, ConsoleState.redraw, ← forget_hide typed]
  rfl

/-- What moves the prompt. -/
def move (s : TtyConsole) : PromptAction → Option TtyConsole
  | .print call => s.print call
  | .tab => some s.hide.show_
  | .up => s.upKey
  | .down => s.downKey
  | .sigCont => some s.init

/-- Drawing leaves the history. -/
theorem history_of_redrawn {t : TtyConsole} (redrawn : Redrawn s t) : t.history = s.history := by
  obtain ⟨_, _, _, _, _, rfl⟩ := redrawn
  rfl

theorem histPrev_moves {t : TtyConsole} {line : Option Field} (found : s.histPrev = some (line, t)) :
    ∃ current, t = { s with histCurrent := current } := by
  unfold histPrev at found
  split at found
  · cases found
    exact ⟨_, rfl⟩
  · obtain ⟨field, _, same⟩ := Option.bind_eq_some_iff.mp found
    cases same
    exact ⟨_, rfl⟩

theorem histNext_moves {t : TtyConsole} {line : Option Field} (found : s.histNext = some (line, t)) :
    ∃ current, t = { s with histCurrent := current } := by
  have at_ (u : TtyConsole) (found : (if u.histCurrent = -1 then some (none, u)
      else (fetch u.ttyEditLines u.histCurrent).bind fun line => some (some line, u)) = some (line, t)) :
        t = u := by
    split at found
    · cases found
      rfl
    · obtain ⟨field, _, same⟩ := Option.bind_eq_some_iff.mp found
      cases same
      rfl
  unfold histNext at found
  by_cases older : s.histCurrent ≥ 0
  · simp only [if_pos older] at found
    exact ⟨_, at_ _ found⟩
  · simp only [if_neg older] at found
    exact ⟨_, at_ _ found⟩

/-- Without the cells of its lines, the console moves its prompt as it was
modelled on their contents. -/
theorem forget_move (free : s.locked = false) (typed : s.ttyCon.cursor.toNat = s.ttyCon.typed.length)
    (outstanding : Nat) (action : PromptAction) : (s.move action).map (fun t => (t.forget, t.history)) =
      (PromptState.step { console := s.forget, history := s.history, outstanding := outstanding } action).map
        fun t => (t.console, t.history) := by
  have redraws (current : Int) (field : Field) :
      ((show_ { ({ s with histCurrent := current } : TtyConsole).hide with ttyCon := field }).forget,
        (show_ { ({ s with histCurrent := current } : TtyConsole).hide with ttyCon := field }).history) =
        (s.forget.redraw field.typed, ({ s with histCurrent := current } : TtyConsole).history) := by
    have kept := history_of_redrawn (redrawn_hide { s with histCurrent := current })
    rw [forget_redraw (by exact typed), history_of_redrawn (redrawn_show _)]
    exact congrArg (Prod.mk _) kept
  cases action with
  | print call =>
      obtain ⟨t, printed, redrawn⟩ := print_redraws free call
      rw [move, PromptState.step, ← forget_print typed, printed]
      exact congrArg (fun history => some (t.forget, history)) (history_of_redrawn redrawn)
  | tab =>
      rw [move, PromptState.step, ← forget_hide typed, ← forget_show]
      refine congrArg (fun history => some (s.hide.show_.forget, history)) ?_
      exact history_of_redrawn ((redrawn_hide s).trans (redrawn_show _))
  | up =>
      rw [move, PromptState.step, upKey, ← forget_histPrev]
      rcases found : s.histPrev with _ | ⟨line, t⟩
      · rfl
      · obtain ⟨current, rfl⟩ := histPrev_moves found
        cases line with
        | none => rfl
        | some field => exact congrArg some (redraws current field)
  | down =>
      rw [move, PromptState.step, downKey, ← forget_histNext]
      rcases found : s.histNext with _ | ⟨line, t⟩
      · rfl
      · obtain ⟨current, rfl⟩ := histNext_moves found
        cases line with
        | none => exact congrArg some (redraws current .clear)
        | some field => exact congrArg some (redraws current field)
  | sigCont =>
      let fresh : TtyConsole := { s with ttyCon := .clear, ttyconHide := 1 }
      have shown : fresh.show_.forget = s.forget.init s.forget.ttyconOn := by
        rw [forget_show]
        rfl
      have kept : fresh.show_.history = fresh.history := history_of_redrawn (redrawn_show fresh)
      exact congrArg some (Prod.ext shown kept)

end TtyConsole

end Q3df.Server
