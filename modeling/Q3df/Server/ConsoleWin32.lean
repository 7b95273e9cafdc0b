/-
Module: Q3df.Server.ConsoleWin32
Layer: Server
Purpose: The edit line of the daemon's console on Windows and its command history: what `Input` does
  with the records of the console input buffer, and the ring the submitted lines are kept in. An
  access outside an array gives nothing.
Imports: Q3df.Library.Buffer, Q3df.Server.ConsoleTty
Trusted boundary: human-reviewed transcription of server/ConsoleWin32.cc (the constructor, Input,
  HistAdd, HistPrev, HistNext); the calls of the console interface succeed; what is drawn is left
  out; a history entry is the text up to its terminator
Main exports: InputRecord, Win32Console, Win32Console.inputRecord, Win32Console.input
Open obligations: none
-/
import Q3df.Library.Buffer
import Q3df.Server.ConsoleTty

namespace Q3df.Server

open Q3df.Buffer

/-- `MAX_EDIT_LINE`. -/
def maxEditLine : Nat := 256

/-- `QCONSOLE_HISTORY`, and `CON_HISTORY` of the other console. -/
def qconsoleHistory : Nat := 32

/-- The virtual key codes `Input` tells apart. -/
inductive VirtualKey where
  | return_
  | up
  | down
  | tab
  | left
  | right
  | end_
  | home
  | back
  | other
deriving Repr, DecidableEq

/-- `INPUT_RECORD`. -/
structure InputRecord where
  isKeyEvent : Bool
  bKeyDown : Bool
  wVirtualKeyCode : VirtualKey
  asciiChar : Char
deriving Repr, DecidableEq

/-- The fields `Input` works on: `line` has the cells of `qconsole_line_`. -/
structure Win32Console where
  line : List Char
  linelen : Int
  cursorPosOffset : Int
  history : List CString
  historyPos : Int
  historyLines : Int
  historyOldest : Int
deriving DecidableEq

/-- How the body of the loop over the records ends: with the next record, or
with `break`, having seen a Return or not. -/
inductive LoopControl where
  | next
  | break_ (newline : Bool)
deriving DecidableEq

/-- `strncpy` of a text into `qconsole_line_`, with the last cell terminated. -/
def copyToLine (text : CString) : List Char :=
  let copied := text.take (maxEditLine - 1)
  copied ++ List.replicate (maxEditLine - copied.length) '\x00'

namespace Win32Console

/-- The constructor; the line buffer is whatever was there before. -/
def new (memory : Vector Char maxEditLine) : Win32Console where
  line := memory.toList
  linelen := 0
  cursorPosOffset := 0
  history := List.replicate qconsoleHistory []
  historyPos := -1
  historyLines := 0
  historyOldest := 0

/-- The edit line as it is drawn. -/
def shown (s : Win32Console) : CString := s.line.take s.linelen.toNat

/-- `HistAdd`. -/
def histAdd (s : Win32Console) : Option Win32Console := do
  let history ← store s.history s.historyOldest ((cStr s.line).take (maxEditLine - 1))
  let historyLines :=
    if s.historyLines < qconsoleHistory then s.historyLines + 1 else s.historyLines
  let historyOldest := if s.historyOldest ≥ qconsoleHistory - 1 then 0 else s.historyOldest + 1
  some { s with
    history := history, historyLines := historyLines, historyOldest := historyOldest
    historyPos := historyOldest }

/-- The line of the history at this place becomes the edit line. -/
def recallAt (s : Win32Console) (pos : Int) : Option Win32Console := do
  let text ← fetch s.history pos
  let line := copyToLine text
  some { s with historyPos := pos, line := line, linelen := (cStr line).length }

/-- The place `HistPrev` goes to, `none` where it stays. -/
def prevPos (s : Win32Console) : Option Int :=
  let pos : Int := if s.historyPos < 1 then qconsoleHistory - 1 else s.historyPos - 1
  if pos = s.historyOldest ∨ pos ≥ s.historyLines then none else some pos

/-- `HistPrev`. -/
def histPrev (s : Win32Console) : Option Win32Console :=
  match s.prevPos with
  | none => some s
  | some pos => s.recallAt pos

/-- The place `HistNext` goes to, `none` where it stays. -/
def nextPos (s : Win32Console) : Option Int :=
  if s.historyPos = s.historyOldest then none
  else some (if s.historyPos ≥ qconsoleHistory - 1 then 0 else s.historyPos + 1)

/-- `HistNext`. Past the last command the edit line is cleared. -/
def histNext (s : Win32Console) : Option Win32Console :=
  match s.nextPos with
  | none => some s
  | some pos =>
      if pos = s.historyOldest then do
        let line ← store s.line 0 '\x00'
        some { s with historyPos := pos, line := line, linelen := 0 }
      else s.recallAt pos

/-- The Backspace of `Input`. -/
def backspace (s : Win32Console) : Option Win32Console :=
  let pos := if s.linelen > 0 then s.linelen - 1 else 0
  if s.cursorPosOffset > 0 then
    if s.linelen - s.cursorPosOffset > 0 then do
      let first := pos - s.cursorPosOffset
      let line ← shiftDown (s.linelen - first).toNat first s.line
      let line ← store line pos '\x00'
      some { s with line := line, linelen := pos }
    else some s
  else do
    let line ← store s.line pos '\x00'
    some { s with line := line, linelen := pos }

/-- A character of `Input`. -/
def insertChar (s : Win32Console) (c : Char) : Option Win32Console :=
  if s.cursorPosOffset > 0 then
    let pos := if s.linelen > 0 then s.linelen else 0
    if s.linelen - s.cursorPosOffset ≥ 0 then do
      let first := pos - s.cursorPosOffset
      let line ← shiftUp (pos - first + 1).toNat pos s.line
      let line ← store line first c
      let line ← store line (s.linelen + 1) '\x00'
      some { s with line := line, linelen := s.linelen + 1 }
    else some s
  else do
    let line ← store s.line s.linelen c
    let line ← store line (s.linelen + 1) '\x00'
    some { s with line := line, linelen := s.linelen + 1 }

/-- The end of the loop body. The comparison with a `sizeof` is unsigned. -/
def edit (s : Win32Console) (key : VirtualKey) (c : Char) : Option Win32Console :=
  if 0 ≤ s.linelen ∧ s.linelen < maxEditLine - 1 then
    if key = .back then s.backspace
    else if c ≠ '\x00' then s.insertChar c
    else some s
  else some s

/-- The body of the loop over the records. -/
def inputRecord (s : Win32Console) (record : InputRecord) : Option (Win32Console × LoopControl) :=
  if !record.isKeyEvent || !record.bKeyDown then some (s, .next)
  else
    match record.wVirtualKeyCode with
    | .return_ => some (s, .break_ true)
    | .up => s.histPrev.map (·, .break_ false)
    | .down => s.histNext.map (·, .break_ false)
    | .tab => some (s, .break_ false)
    | .left =>
        if s.linelen - s.cursorPosOffset > 0 then
          some ({ s with cursorPosOffset := s.cursorPosOffset + 1 }, .break_ false)
        else some (s, .break_ false)
    | .right =>
        if s.cursorPosOffset > 0 then
          some ({ s with cursorPosOffset := s.cursorPosOffset - 1 }, .break_ false)
        else some (s, .break_ false)
    | .end_ => ({ s with cursorPosOffset := 0 }.edit .end_ record.asciiChar).map (·, .next)
    | .home => ({ s with cursorPosOffset := s.linelen }.edit .home record.asciiChar).map (·, .next)
    | .back => (s.edit .back record.asciiChar).map (·, .next)
    | .other => (s.edit .other record.asciiChar).map (·, .next)

/-- The loop over the records, and whether it ended at a Return. -/
def inputRecords (s : Win32Console) : List InputRecord → Option (Win32Console × Bool)
  | [] => some (s, false)
  | record :: records =>
      match s.inputRecord record with
      | none => none
      | some (s, .next) => s.inputRecords records
      | some (s, .break_ newline) => some (s, newline)

/-- What follows the loop: an empty line is not submitted. -/
def finishInput (s : Win32Console) (newline : Bool) : Option (Win32Console × Option CString) :=
  if !newline then some (s, none)
  else if s.linelen = 0 then some (s, none)
  else do
    let s ← { s with linelen := 0, cursorPosOffset := 0 }.histAdd
    some (s, some (cStr s.line))

/-- `Input` with these records in the input buffer. Of too many the oldest is
dropped, and nothing else happens. -/
def input (s : Win32Console) (records : List InputRecord) : Option (Win32Console × Option CString) :=
  if records.length ≥ maxEditLine then some (s, none)
  else
    match s.inputRecords records with
    | none => none
    | some (s, newline) => s.finishInput newline

end Win32Console

end Q3df.Server
