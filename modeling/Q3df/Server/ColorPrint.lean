/-
Module: Q3df.Server.ColorPrint
Layer: Server
Purpose: Coloured printing on both consoles. The text between two colour codes or newlines is
  collected in a buffer of 4096 cells, which is written out at each of them and at the end of the
  message. No access leaves the buffer. The loop ends where the buffer is full, and so a message is
  printed completely exactly when none of its runs of plain text is longer than 4095 characters.
Imports: Q3df.Library.Buffer, Q3df.Server.ConsoleLock
Trusted boundary: human-reviewed transcription of server/ConsoleTty.cc (AnsiColorPrint),
  server/ConsoleWin32.cc (WindowsColorPrint) and server/Console.h (Q_IsColorString); fputs writes
  all it is given; the attribute of a colour is named by its character
Main exports: ColorPrinter, colorLoop, ansiColorPrint, windowsColorPrint, pieces, Complete, RunsFit,
  colorLoop_emits, color_print_complete_iff, removeEscapes, ansiColorText_complete_iff
Open obligations: none
-/
import Q3df.Library.Buffer
import Q3df.Server.ConsoleLock

namespace Q3df.Server

open Q3df.Buffer

/-- What reaches the console: text, an escape sequence for the terminal, or a
call of `SetConsoleTextAttribute` with the colour of a character. -/
inductive Emission where
  | text (text : CString)
  | escape (sequence : CString)
  | attribute (color : Char)
deriving DecidableEq

/-- The text of an emission. -/
def Emission.shown : Emission → CString
  | .text shown => shown
  | .escape _ | .attribute _ => []

/-- The characters of an emission. -/
def Emission.written : Emission → CString
  | .text shown => shown
  | .escape sequence => sequence
  | .attribute _ => []

/-- The static buffer of the print function, `qconsole_drawinput_`, and what has
been emitted. -/
structure ColorPrinter where
  buffer : List Char
  drawInput : Bool
  out : List Emission
deriving DecidableEq

/-- `Q_IsColorString`. -/
def isColorString (p : CString) : Bool :=
  p.head? = some '^' && (p[1]?).any fun c => c ≠ '\x00' && isAlnum c

namespace ColorPrinter

/-- `fputs`. -/
def fputs (emission : Emission) (p : ColorPrinter) : ColorPrinter := { p with out := p.out ++ [emission] }

/-- Empty the buffer, if anything is in it. -/
def empty (length : Nat) (p : ColorPrinter) : Option ColorPrinter :=
  if length > 0 then do
    let buffer ← store p.buffer length '\x00'
    return fputs (.text (cStr buffer)) { p with buffer }
  else some p

end ColorPrinter

/-- What the two consoles do in their own way: before each character is looked
at, at a newline, and at the character of a colour code. -/
structure ColorCalls where
  look : Char → ColorPrinter → ColorPrinter
  newline : ColorPrinter → ColorPrinter
  color : Char → ColorPrinter → Option ColorPrinter

/-- The loop over the message, with the characters that are in the buffer
counted, and what is left to write behind it. `none` is an access outside the
buffer. -/
def colorLoop (calls : ColorCalls) (length : Nat) : CString → ColorPrinter → Option ColorPrinter
  | [], p => p.empty length
  | c :: msg, p =>
      if c = '\x00' then p.empty length
      else
        let p := calls.look c p
        if isColorString (c :: msg) || c = '\n' then do
          let p ← p.empty length
          if c = '\n' then colorLoop calls 0 msg (calls.newline p)
          else
            let p ← calls.color (msg.headD '\x00') p
            colorLoop calls 0 msg.tail p
        else if length ≥ maxPrintMsg - 1 then p.empty length
        else do
          let buffer ← store p.buffer length c
          colorLoop calls (length + 1) msg { p with buffer }
termination_by msg => msg.length
decreasing_by
  all_goals simp only [List.length_cons, List.length_tail]
  all_goals omega

/-- Write a text and its terminator. -/
def putString (i : Nat) : CString → List Char → Option (List Char)
  | [], cells => store cells i '\x00'
  | c :: text, cells => do
      let cells ← store cells i c
      putString (i + 1) text cells

/-- `snprintf` of a text into the buffer, cut to its size. -/
def snprintf (size : Nat) (text : CString) (cells : List Char) : Option (List Char) :=
  putString 0 (text.take (size - 1)) cells

/-- The escape sequences of the terminal, the colour codes written through the
same buffer. -/
def ansiCalls : ColorCalls where
  look _ p := p
  newline p := (p.fputs (.escape "\x1b[0m".toList)).fputs (.text "\n".toList)
  color c p := do
    let buffer ← snprintf maxPrintMsg (colorCode c) p.buffer
    return ColorPrinter.fputs (.escape (cStr buffer)) { p with buffer }

/-- The attributes of the console window. -/
def windowsCalls : ColorCalls where
  look c p := { p with drawInput := c = '\n' }
  newline p := (p.fputs (.attribute '7')).fputs (.text "\n".toList)
  color c p := some (p.fputs (.attribute c))

/-- `ConsoleTty::AnsiColorPrint`. -/
def ansiColorPrint (msg : CString) (p : ColorPrinter) : Option ColorPrinter := colorLoop ansiCalls 0 msg p

/-- `ConsoleWin32::WindowsColorPrint`. -/
def windowsColorPrint (msg : CString) (p : ColorPrinter) : Option ColorPrinter :=
  colorLoop windowsCalls 0 msg p

/-!
### What a message says

A message is read as pieces, independently of any buffer.
-/

/-- A plain character, a newline, or a colour code. -/
inductive Piece where
  | plain (c : Char)
  | newline
  | color (c : Char)
deriving DecidableEq

/-- The piece of a character that is in no colour code. -/
def Piece.ofChar (c : Char) : Piece := if c = '\n' then .newline else .plain c

/-- The pieces of a message: `^` in front of an alphanumeric character is a
colour code. -/
def pieces : CString → List Piece
  | [] => []
  | [c] => [.ofChar c]
  | c :: d :: msg =>
      if c = '^' ∧ isAlnum d then .color d :: pieces msg
      else .ofChar c :: pieces (d :: msg)

/-- The text of a piece. A colour code has none. -/
def Piece.text : Piece → CString
  | .plain c => [c]
  | .newline => ['\n']
  | .color _ => []

/-- The pieces at which the buffer is emptied. -/
def Piece.breaks : Piece → Bool
  | .plain _ => false
  | .newline | .color _ => true

/-- The message without its colour codes. -/
def withoutColors (msg : CString) : CString := (pieces msg).flatMap Piece.text

/-- The call ends without an access outside the buffer, and the text it has
emitted, escape sequences and attributes removed, is the message without its
colour codes. -/
def Complete (print : CString → ColorPrinter → Option ColorPrinter) (msg : CString) (p : ColorPrinter) :
    Prop :=
  ∃ q, print msg p = some q ∧
    q.out.flatMap Emission.shown = p.out.flatMap Emission.shown ++ withoutColors (cStr msg)

/-- No run of plain characters fills the buffer and goes on. -/
def RunsFit (msg : CString) : Prop :=
  ∀ run ∈ (pieces (cStr msg)).splitOnP Piece.breaks, run.length ≤ maxPrintMsg - 1

/-!
### One call, piece by piece

The loop collects characters in the buffer and hands them on at a colour code,
at a newline and at the end. Each round is one piece of the message.
-/

/-- The buffer as it is written out. -/
def held (run : CString) : List Emission := if run = [] then [] else [.text run]

/-- What is emitted for the rest of the pieces, with a run in the buffer. The
full buffer ends the call. -/
def emitted (newline : List Emission) (mark : Char → Emission) (run : CString) :
    List Piece → List Emission
  | [] => held run
  | .plain c :: rest =>
      if run.length ≥ maxPrintMsg - 1 then held run else emitted newline mark (run ++ [c]) rest
  | .newline :: rest => held run ++ newline ++ emitted newline mark [] rest
  | .color c :: rest => held run ++ [mark c] ++ emitted newline mark [] rest

/-- The console's own calls emit these, and stay in the buffer. -/
structure ColorCalls.Emits (calls : ColorCalls) (newline : List Emission) (mark : Char → Emission) :
    Prop where
  look : ∀ c p, (calls.look c p).buffer = p.buffer ∧ (calls.look c p).out = p.out
  newline : ∀ p, (calls.newline p).buffer = p.buffer ∧ (calls.newline p).out = p.out ++ newline
  color : ∀ c p, p.buffer.length = maxPrintMsg →
    ∃ q, calls.color c p = some q ∧ q.buffer.length = maxPrintMsg ∧ q.out = p.out ++ [mark c]

/-- The buffer begins with this run, and has room for a terminator behind it. -/
structure ColorPrinter.Collects (p : ColorPrinter) (run : CString) : Prop where
  size : p.buffer.length = maxPrintMsg
  begins : ∃ rest, p.buffer = run ++ rest
  room : run.length < maxPrintMsg
  terminated : '\x00' ∉ run

section Collects

variable {p : ColorPrinter} {run text : CString} {cells : List Char} {c : Char} {msg : CString}

/-- A buffer is read up to its first terminator. -/
theorem cStr_terminated (terminated : '\x00' ∉ text) (rest : List Char) :
    cStr (text ++ '\x00' :: rest) = text := by
  rw [cStr_append terminated]
  exact List.append_nil text

/-- The cell behind a run that leaves room. -/
theorem ColorPrinter.Collects.behind (collects : p.Collects run) :
    ∃ cell rest, p.buffer = run ++ cell :: rest := by
  obtain ⟨rest, begins⟩ := collects.begins
  cases rest with
  | nil =>
      have full : run.length = maxPrintMsg := by rw [← collects.size, begins, List.append_nil]
      exact absurd full (Nat.ne_of_lt collects.room)
  | cons cell rest => exact ⟨cell, rest, begins⟩

theorem ColorPrinter.collects_nil (size : p.buffer.length = maxPrintMsg) : p.Collects [] :=
  ⟨size, ⟨p.buffer, rfl⟩, by decide, List.not_mem_nil⟩

/-- What has been collected is in the buffer alone. -/
theorem ColorPrinter.Collects.of_buffer {q : ColorPrinter} (same : q.buffer = p.buffer)
    (collects : p.Collects run) : q.Collects run := by
  refine ⟨?_, ?_, collects.room, collects.terminated⟩
  · rw [same, collects.size]
  · rw [same]
    exact collects.begins

/-- The run is written out. -/
theorem ColorPrinter.Collects.empty (collects : p.Collects run) :
    ∃ q, p.empty run.length = some q ∧ q.buffer.length = maxPrintMsg ∧ q.out = p.out ++ held run := by
  by_cases none : run = []
  · subst none
    exact ⟨p, rfl, collects.size, (List.append_nil _).symm⟩
  · obtain ⟨cell, rest, begins⟩ := collects.behind
    have written : store p.buffer run.length '\x00' = some (run ++ '\x00' :: rest) := by
      rw [begins]
      apply store_middle
      rfl
    refine ⟨ColorPrinter.fputs (.text run) { p with buffer := run ++ '\x00' :: rest }, ?_, ?_, ?_⟩
    · rw [ColorPrinter.empty, if_pos (List.length_pos_iff.mpr none), written, Option.bind_eq_bind,
        Option.bind_some, cStr_terminated collects.terminated]
      rfl
    · have size := length_store written
      rwa [collects.size] at size
    · rw [held, if_neg none]
      rfl

/-- A plain character goes into the buffer. -/
theorem ColorPrinter.Collects.next (collects : p.Collects run) (room : run.length < maxPrintMsg - 1)
    (plain : c ≠ '\x00') : ∃ buffer, store p.buffer run.length c = some buffer ∧
      ColorPrinter.Collects { p with buffer } (run ++ [c]) := by
  obtain ⟨cell, rest, begins⟩ := collects.behind
  have written : store p.buffer run.length c = some (run ++ c :: rest) := by
    rw [begins]
    apply store_middle
    rfl
  refine ⟨run ++ c :: rest, written, ?_, ⟨rest, List.append_cons run c rest⟩, ?_, ?_⟩
  · have size := length_store written
    rwa [collects.size] at size
  · rw [List.length_append, List.length_singleton]
    omega
  · rw [List.mem_append, List.mem_singleton, not_or]
    exact ⟨collects.terminated, plain.symm⟩

/-- A text and its terminator take the cells from `i` on. -/
theorem putString_middle {front old rest : List Char} {i : Nat} (at_ : i = front.length)
    (long : old.length = text.length + 1) :
    putString i text (front ++ (old ++ rest)) = some (front ++ (text ++ '\x00' :: rest)) := by
  induction text generalizing front old i with
  | nil =>
      obtain ⟨cell, rfl⟩ := List.length_eq_one_iff.mp long
      apply store_middle
      rw [at_]
  | cons c text inductionHypothesis =>
      cases old with
      | nil => cases long
      | cons cell old =>
          have written : store (front ++ (cell :: old ++ rest)) i c =
              some (front ++ [c] ++ (old ++ rest)) := by
            rw [List.append_assoc, List.singleton_append]
            apply store_middle
            rw [at_]
          have atNext : i + 1 = (front ++ [c]).length := by
            rw [at_, List.length_append, List.length_singleton]
          rw [putString, written, Option.bind_eq_bind, Option.bind_some,
            inductionHypothesis atNext (Nat.succ.inj long)]
          simp only [List.append_assoc, List.cons_append, List.nil_append]

/-- A text that is shorter than the buffer is read back as it was printed. -/
theorem snprintf_short (size : cells.length = maxPrintMsg) (short : text.length < maxPrintMsg)
    (terminated : '\x00' ∉ text) : ∃ buffer, snprintf maxPrintMsg text cells = some buffer ∧
      buffer.length = maxPrintMsg ∧ cStr buffer = text := by
  have uncut : text.take (maxPrintMsg - 1) = text := List.take_of_length_le (Nat.le_sub_one_of_lt short)
  have long : (cells.take (text.length + 1)).length = text.length + 1 := by
    rw [List.length_take, size]
    omega
  have put := @putString_middle text [] (cells.take (text.length + 1)) (cells.drop (text.length + 1)) 0
    rfl long
  rw [List.nil_append, List.take_append_drop, List.nil_append] at put
  refine ⟨_, by rw [snprintf, uncut, put], ?_, cStr_terminated terminated _⟩
  rw [List.length_append, List.length_cons, List.length_drop, size]
  omega

end Collects

section Calls

variable {c : Char}

/-- The escape sequence of a colour is short. -/
theorem colorCode_short : (colorCode c).length < maxPrintMsg ∧ '\x00' ∉ colorCode c := by
  have each : ∀ index < 8,
      ("\x1b[".toList ++ (toString ([33, 31, 32, 33, 34, 36, 35, 0].getD index 0)).toList ++ ['m']).length <
        maxPrintMsg ∧
      '\x00' ∉ "\x1b[".toList ++ (toString ([33, 31, 32, 33, 34, 36, 35, 0].getD index 0)).toList ++
        ['m'] := by
    decide +kernel
  exact each _ (Nat.mod_lt _ (by decide))

/-- The calls of the terminal console emit what the pieces ask for. -/
theorem ansiCalls_emit :
    ansiCalls.Emits [.escape "\x1b[0m".toList, .text "\n".toList] (fun c => .escape (colorCode c)) where
  look _ _ := ⟨rfl, rfl⟩
  newline _ := ⟨rfl, List.append_assoc _ _ _⟩
  color c p size := by
    obtain ⟨short, terminated⟩ := @colorCode_short c
    obtain ⟨buffer, printed, kept, read⟩ := snprintf_short size short terminated
    refine ⟨ColorPrinter.fputs (.escape (colorCode c)) { p with buffer }, ?_, kept, rfl⟩
    apply Option.bind_eq_some_iff.mpr
    refine ⟨buffer, printed, ?_⟩
    rw [read]
    rfl

/-- The calls of the Windows console emit the same with attributes. -/
theorem windowsCalls_emit : windowsCalls.Emits [.attribute '7', .text "\n".toList] .attribute where
  look _ _ := ⟨rfl, rfl⟩
  newline _ := ⟨rfl, List.append_assoc _ _ _⟩
  color _ _ size := ⟨_, rfl, size, rfl⟩

end Calls

section Pieces

variable {c : Char} {msg : CString}

theorem cStr_cons (more : c ≠ '\x00') : cStr (c :: msg) = c :: cStr msg :=
  List.takeWhile_cons_of_pos (decide_eq_true more)

/-- What `Q_IsColorString` finds. -/
theorem exists_of_isColorString (code : isColorString (c :: msg) = true) :
    c = '^' ∧ ∃ d rest, msg = d :: rest ∧ d ≠ '\x00' ∧ isAlnum d = true := by
  rw [isColorString, Bool.and_eq_true, List.head?_cons, decide_eq_true_iff, Option.some_inj] at code
  obtain ⟨caret, letter⟩ := code
  cases msg with
  | nil => cases letter
  | cons d rest =>
      change (decide (d ≠ '\x00') && isAlnum d) = true at letter
      rw [Bool.and_eq_true, decide_eq_true_iff] at letter
      exact ⟨caret, d, rest, rfl, letter⟩

/-- At a colour code the loop takes two characters. -/
theorem pieces_of_code (more : c ≠ '\x00') (code : isColorString (c :: msg) = true) :
    pieces (cStr (c :: msg)) = .color (msg.headD '\x00') :: pieces (cStr msg.tail) := by
  obtain ⟨caret, d, rest, rfl, letter, alnum⟩ := exists_of_isColorString code
  rw [cStr_cons more, cStr_cons letter, pieces, if_pos ⟨caret, alnum⟩]
  rfl

/-- Elsewhere it takes one. -/
theorem pieces_of_other (more : c ≠ '\x00') (other : isColorString (c :: msg) = false) :
    pieces (cStr (c :: msg)) = .ofChar c :: pieces (cStr msg) := by
  rw [cStr_cons more]
  cases text : cStr msg with
  | nil => rfl
  | cons d rest =>
      have noCode : ¬(c = '^' ∧ isAlnum d = true) := by
        rintro ⟨caret, alnum⟩
        cases msg with
        | nil => cases text
        | cons e msg =>
            by_cases letter : e = '\x00'
            · rw [letter] at text
              cases text
            · rw [cStr_cons letter] at text
              obtain ⟨rfl, -⟩ := List.cons.inj text
              have code : isColorString (c :: e :: msg) = true := by
                rw [isColorString, caret]
                change (decide (e ≠ '\x00') && isAlnum e) = true
                rw [alnum, decide_eq_true letter]
                rfl
              rw [code] at other
              cases other
      rw [pieces, if_neg noCode]

theorem pieces_plain (noCode : '^' ∉ msg) (noNewline : '\n' ∉ msg) : pieces msg = msg.map .plain := by
  induction msg with
  | nil => rfl
  | cons c msg inductionHypothesis =>
      have plain : Piece.ofChar c = .plain c := if_neg (List.ne_of_not_mem_cons noNewline).symm
      have further := inductionHypothesis (List.not_mem_of_not_mem_cons noCode)
        (List.not_mem_of_not_mem_cons noNewline)
      cases msg with
      | nil => rw [pieces, plain, List.map_singleton]
      | cons d msg =>
          have noCaret : ¬(c = '^' ∧ isAlnum d = true) :=
            fun code => List.ne_of_not_mem_cons noCode code.1.symm
          rw [pieces, if_neg noCaret, plain, further]
          rfl

end Pieces

section Rounds

variable {calls : ColorCalls} {length : Nat} {c d : Char} {msg : CString} {p q r : ColorPrinter}

/-- A round at a colour code. -/
theorem colorLoop_code (code : isColorString (c :: d :: msg) = true)
    (emptied : (calls.look c p).empty length = some q) (colored : calls.color d q = some r) :
    colorLoop calls length (c :: d :: msg) p = colorLoop calls 0 msg r := by
  obtain ⟨rfl, -⟩ := exists_of_isColorString code
  rw [colorLoop, if_neg (by decide)]
  dsimp only
  rw [code, Bool.true_or, if_pos rfl, emptied, Option.bind_eq_bind, Option.bind_some, if_neg (by decide),
    List.headD_cons, colored, Option.bind_some, List.tail_cons]

/-- A round at a newline. -/
theorem colorLoop_newline (emptied : (calls.look '\n' p).empty length = some q) :
    colorLoop calls length ('\n' :: msg) p = colorLoop calls 0 msg (calls.newline q) := by
  have atNewline : (isColorString ('\n' :: msg) || decide ('\n' = '\n')) = true := Bool.or_true _
  rw [colorLoop, if_neg (by decide)]
  dsimp only
  rw [if_pos atNewline, emptied, Option.bind_eq_bind, Option.bind_some, if_pos rfl]

/-- A character that begins no code and is no newline goes into the buffer. If
there is no room the loop ends. -/
theorem colorLoop_other (more : c ≠ '\x00') (other : isColorString (c :: msg) = false)
    (noNewline : c ≠ '\n') :
    colorLoop calls length (c :: msg) p =
      if length ≥ maxPrintMsg - 1 then (calls.look c p).empty length
      else (store (calls.look c p).buffer length c).bind fun buffer =>
        colorLoop calls (length + 1) msg { calls.look c p with buffer } := by
  have plain : ¬(isColorString (c :: msg) || decide (c = '\n')) = true := by
    rw [other, Bool.false_or, decide_eq_true_iff]
    exact noNewline
  rw [colorLoop, if_neg more]
  dsimp only
  rw [if_neg plain]
  rfl

end Rounds

/-- The loop emits what the pieces say, and never leaves the buffer. The
induction is on the length of the message, since a colour code takes two
characters. -/
theorem colorLoop_emits {calls : ColorCalls} {newline : List Emission} {mark : Char → Emission}
    (emits : calls.Emits newline mark) {msg run : CString} {p : ColorPrinter} (collects : p.Collects run) :
    ∃ q, colorLoop calls run.length msg p = some q ∧
      q.out = p.out ++ emitted newline mark run (pieces (cStr msg)) := by
  induction size : msg.length using Nat.strong_induction_on generalizing msg run p with
  | _ bound inductionHypothesis =>
  cases msg with
  | nil =>
      obtain ⟨emptied, written, -, out⟩ := collects.empty
      rw [colorLoop]
      exact ⟨emptied, written, out⟩
  | cons c msg =>
      have shorter : msg.length < bound := by
        rw [← size, List.length_cons]
        exact Nat.lt_succ_self _
      by_cases more : c = '\x00'
      · obtain ⟨emptied, written, -, out⟩ := collects.empty
        rw [colorLoop, if_pos more, more]
        exact ⟨emptied, written, out⟩
      obtain ⟨sameBuffer, sameOut⟩ := emits.look c p
      have looked : (calls.look c p).Collects run := collects.of_buffer sameBuffer
      obtain ⟨emptied, written, kept, out⟩ := looked.empty
      rw [sameOut] at out
      cases code : isColorString (c :: msg) with
      | true =>
          obtain ⟨-, d, rest, rfl, -⟩ := exists_of_isColorString code
          obtain ⟨colored, marked, colorKept, colorOut⟩ := emits.color d emptied kept
          have shorterRest : rest.length < bound := Nat.lt_of_succ_lt shorter
          obtain ⟨q, looped, total⟩ :=
            inductionHypothesis _ shorterRest (ColorPrinter.collects_nil colorKept) rfl
          refine ⟨q, (colorLoop_code code written marked).trans looped, ?_⟩
          rw [total, colorOut, out, pieces_of_code more code, emitted]
          simp only [List.append_assoc, List.headD_cons, List.tail_cons]
      | false =>
          rw [pieces_of_other more code, Piece.ofChar]
          by_cases atNewline : c = '\n'
          · subst atNewline
            obtain ⟨newlineBuffer, newlineOut⟩ := emits.newline emptied
            have newlineKept : (calls.newline emptied).buffer.length = maxPrintMsg := by
              rw [newlineBuffer, kept]
            obtain ⟨q, looped, total⟩ :=
              inductionHypothesis _ shorter (ColorPrinter.collects_nil newlineKept) rfl
            refine ⟨q, (colorLoop_newline written).trans looped, ?_⟩
            rw [total, newlineOut, out, if_pos rfl, emitted]
            simp only [List.append_assoc]
          · rw [if_neg atNewline, emitted, colorLoop_other more code atNewline]
            by_cases full : run.length ≥ maxPrintMsg - 1
            · rw [if_pos full, if_pos full]
              exact ⟨emptied, written, out⟩
            · obtain ⟨buffer, stored, collected⟩ := looked.next (Nat.lt_of_not_le full) more
              obtain ⟨q, looped, total⟩ := inductionHypothesis _ shorter collected rfl
              rw [List.length_append, List.length_singleton] at looped
              refine ⟨q, ?_, ?_⟩
              · rw [if_neg full, stored]
                exact looped
              · rw [total, sameOut, if_neg full]

/-!
### What is lost

A run of characters that the buffer cannot hold ends the loop, and everything
behind it is lost with it. Nothing else is.
-/

section Complete

variable {newline : List Emission} {mark : Char → Emission} {run msg : CString} {rest : List Piece}
variable {p : ColorPrinter}

/-- What is held back shows the characters that were collected. -/
theorem shown_held : (held run).flatMap Emission.shown = run := by
  by_cases none : run = []
  · rw [held, if_pos none, none]
    rfl
  · rw [held, if_neg none]
    exact List.append_nil run

/-- No run is too long, the first of them counted with what is in the buffer. -/
def RunsFitBehind (run : CString) (rest : List Piece) : Prop :=
  ∀ pending ∈ (rest.splitOnP Piece.breaks).modifyHead (run.map Piece.plain ++ ·),
    pending.length ≤ maxPrintMsg - 1

theorem runsFitBehind_empty :
    RunsFitBehind [] rest ↔
      ∀ pending ∈ rest.splitOnP Piece.breaks, pending.length ≤ maxPrintMsg - 1 := by
  obtain ⟨first, others, runs⟩ := List.exists_cons_of_ne_nil (List.splitOnP_ne_nil Piece.breaks rest)
  rw [RunsFitBehind, runs]
  rfl

theorem RunsFitBehind.length_le (fits : RunsFitBehind run rest) : run.length ≤ maxPrintMsg - 1 := by
  obtain ⟨first, others, runs⟩ := List.exists_cons_of_ne_nil (List.splitOnP_ne_nil Piece.breaks rest)
  have long := fits (run.map Piece.plain ++ first) (by rw [runs]; exact List.mem_cons_self)
  rw [List.length_append, List.length_map] at long
  omega

theorem runsFitBehind_nil : RunsFitBehind run [] ↔ run.length ≤ maxPrintMsg - 1 := by
  rw [RunsFitBehind, List.splitOnP_nil, List.modifyHead_cons, List.append_nil, List.forall_mem_singleton,
    List.length_map]

/-- A plain character makes the run in front longer by one. -/
theorem runsFitBehind_plain {c : Char} :
    RunsFitBehind run (.plain c :: rest) ↔ RunsFitBehind (run ++ [c]) rest := by
  have goesOn : ¬Piece.breaks (.plain c) = true := Bool.false_ne_true
  have joined : ((run.map Piece.plain ++ ·) ∘ List.cons (Piece.plain c)) =
      ((run ++ [c]).map Piece.plain ++ ·) := by
    funext first
    rw [Function.comp_apply, List.map_append, List.append_assoc]
    rfl
  rw [RunsFitBehind, List.splitOnP_cons_eq_if_modifyHead, if_neg goesOn, List.modifyHead_modifyHead, joined]
  rfl

/-- A break ends the run, which has to fit. -/
theorem runsFitBehind_break {piece : Piece} (stops : piece.breaks = true) :
    RunsFitBehind run (piece :: rest) ↔ run.length ≤ maxPrintMsg - 1 ∧ RunsFitBehind [] rest := by
  rw [RunsFitBehind, List.splitOnP_cons_eq_if_modifyHead, if_pos stops, List.modifyHead_cons,
    List.append_nil, List.forall_mem_cons, List.length_map, runsFitBehind_empty]

/-- The text is complete exactly when no run is longer than the buffer takes. -/
theorem shown_emitted_iff (newlineShown : newline.flatMap Emission.shown = ['\n'])
    (markShown : ∀ c, (mark c).shown = []) (room : run.length ≤ maxPrintMsg - 1) :
    (emitted newline mark run rest).flatMap Emission.shown = run ++ rest.flatMap Piece.text ↔
      RunsFitBehind run rest := by
  induction rest generalizing run with
  | nil =>
      rw [emitted, shown_held, runsFitBehind_nil, List.flatMap_nil, List.append_nil]
      exact iff_of_true rfl room
  | cons piece rest inductionHypothesis =>
      cases piece with
      | plain c =>
          rw [runsFitBehind_plain, emitted, List.flatMap_cons, Piece.text, ← List.append_assoc]
          by_cases full : run.length ≥ maxPrintMsg - 1
          · -- the call ends, and `c` is missing
            rw [if_pos full, shown_held]
            apply iff_of_false
            · intro complete
              simpa using congrArg List.length complete
            · intro fits
              have long := fits.length_le
              rw [List.length_append, List.length_singleton] at long
              omega
          · have longer : (run ++ [c]).length ≤ maxPrintMsg - 1 := by
              rw [List.length_append, List.length_singleton]
              omega
            rw [if_neg full]
            exact inductionHypothesis longer
      | newline =>
          have further := @inductionHypothesis [] (Nat.zero_le _)
          rw [runsFitBehind_break rfl, emitted, List.flatMap_append, List.flatMap_append, shown_held,
            newlineShown, List.flatMap_cons, Piece.text, List.append_assoc, List.append_right_inj,
            List.append_right_inj, and_iff_right room]
          exact further
      | color c =>
          have further := @inductionHypothesis [] (Nat.zero_le _)
          rw [runsFitBehind_break rfl, emitted, List.flatMap_append, List.flatMap_append, shown_held,
            List.flatMap_singleton, markShown, List.flatMap_cons, Piece.text, List.append_assoc,
            List.append_right_inj, and_iff_right room]
          exact further

/-- A message without colour codes and newlines is one run. -/
theorem runsFit_plain_iff (noCode : '^' ∉ msg) (noNewline : '\n' ∉ msg) (terminated : '\x00' ∉ msg) :
    RunsFit msg ↔ msg.length ≤ maxPrintMsg - 1 := by
  have noBreak : ∀ piece ∈ msg.map Piece.plain, piece.breaks = false := by
    intro piece inMessage
    obtain ⟨c, -, rfl⟩ := List.mem_map.mp inMessage
    rfl
  rw [RunsFit, cStr_eq_self_iff.mpr terminated, pieces_plain noCode noNewline,
    List.splitOnP_eq_singleton noBreak, List.forall_mem_singleton, List.length_map]

/-- The call on a buffer with any contents. -/
theorem complete_iff {calls : ColorCalls} (emits : calls.Emits newline mark)
    (newlineShown : newline.flatMap Emission.shown = ['\n']) (markShown : ∀ c, (mark c).shown = [])
    (size : p.buffer.length = maxPrintMsg) : Complete (colorLoop calls 0) msg p ↔ RunsFit msg := by
  obtain ⟨q, printed, out⟩ := @colorLoop_emits _ _ _ emits msg [] _ (ColorPrinter.collects_nil size)
  have shownExactly :=
    @shown_emitted_iff newline mark [] (pieces (cStr msg)) newlineShown markShown (Nat.zero_le _)
  rw [RunsFit, ← runsFitBehind_empty, ← shownExactly]
  constructor
  · rintro ⟨other, sameCall, complete⟩
    obtain rfl : q = other := Option.some.inj (printed.symm.trans sameCall)
    rw [out, List.flatMap_append] at complete
    exact List.append_cancel_left complete
  · intro complete
    refine ⟨q, printed, ?_⟩
    rw [out, List.flatMap_append, complete]
    rfl

end Complete

theorem written_held {run : CString} : (held run).flatMap Emission.written = run := by
  by_cases none : run = []
  · rw [held, if_pos none, none]
    rfl
  · rw [held, if_neg none]
    exact List.append_nil run

/-- The emissions of the terminal are the text that `ansiColorText` computes. -/
theorem written_emitted {run msg : CString} :
    (emitted [.escape "\x1b[0m".toList, .text "\n".toList] (fun c => .escape (colorCode c)) run
      (pieces msg)).flatMap Emission.written = ansiColorText run msg := by
  fun_induction ansiColorText run msg with
  | case1 run => exact written_held
  | case2 run =>
      rw [pieces, Piece.ofChar, if_pos rfl, emitted, emitted, List.flatMap_append, List.flatMap_append,
        written_held, written_held, List.append_nil]
      rfl
  | case3 run c plain full =>
      rw [pieces, Piece.ofChar, if_neg plain, emitted, if_pos full, written_held]
  | case4 run c plain room =>
      rw [pieces, Piece.ofChar, if_neg plain, emitted, if_neg room, emitted, written_held]
  | case5 run c d msg code inductionHypothesis =>
      rw [pieces, if_pos code, emitted, List.flatMap_append, List.flatMap_append, written_held,
        List.flatMap_singleton, inductionHypothesis]
      rfl
  | case6 run d msg code inductionHypothesis =>
      rw [pieces, if_neg code, Piece.ofChar, if_pos rfl, emitted, List.flatMap_append, List.flatMap_append,
        written_held, inductionHypothesis]
      rfl
  | case7 run c d msg code plain full =>
      rw [pieces, if_neg code, Piece.ofChar, if_neg plain, emitted, if_pos full, written_held]
  | case8 run c d msg code plain room inductionHypothesis =>
      rw [pieces, if_neg code, Piece.ofChar, if_neg plain, emitted, if_neg room, inductionHypothesis]

/-!
### The characters on the terminal

What is tagged as an escape sequence above is one for a reader of the characters
too.
-/

/-- A text without its escape sequences, each of which ends in `m`. -/
def removeEscapes (inside : Bool) : CString → CString
  | [] => []
  | c :: rest =>
      if inside then removeEscapes (c ≠ 'm') rest
      else if c = '\x1b' then removeEscapes true rest
      else c :: removeEscapes false rest

section RemoveEscapes

variable {text body run : CString} {rest : List Piece}

/-- A text without escape characters stays as it is. -/
theorem removeEscapes_text (clean : '\x1b' ∉ text) (behind : CString) :
    removeEscapes false (text ++ behind) = text ++ removeEscapes false behind := by
  induction text with
  | nil => rfl
  | cons c text inductionHypothesis =>
      rw [List.mem_cons, not_or] at clean
      rw [List.cons_append, removeEscapes, if_neg Bool.false_ne_true, if_neg (Ne.symm clean.1),
        inductionHypothesis clean.2, List.cons_append]

theorem removeEscapes_clean (clean : '\x1b' ∉ text) : removeEscapes false text = text := by
  have removed := removeEscapes_text clean []
  rwa [List.append_nil, removeEscapes, List.append_nil] at removed

/-- An escape sequence is removed up to its final letter. -/
theorem removeEscapes_sequence (clean : 'm' ∉ body) (behind : CString) :
    removeEscapes true (body ++ 'm' :: behind) = removeEscapes false behind := by
  induction body with
  | nil => rfl
  | cons c body inductionHypothesis =>
      rw [List.mem_cons, not_or] at clean
      rw [List.cons_append, removeEscapes, if_pos rfl, decide_eq_true (Ne.symm clean.1)]
      exact inductionHypothesis clean.2

/-- The escape sequence of a colour is one. -/
theorem removeEscapes_colorCode (c : Char) (behind : CString) :
    removeEscapes false (colorCode c ++ behind) = removeEscapes false behind := by
  have each : ∀ index < 8,
      'm' ∉ '[' :: (toString ([33, 31, 32, 33, 34, 36, 35, 0].getD index 0)).toList := by
    decide +kernel
  have clean : 'm' ∉ '[' :: (toString (q3ToAnsi c)).toList := each _ (Nat.mod_lt _ (by decide))
  have removed := removeEscapes_sequence clean behind
  have whole : colorCode c ++ behind = '\x1b' :: ('[' :: (toString (q3ToAnsi c)).toList ++ 'm' :: behind) :=
    List.append_assoc _ _ _
  rw [whole, removeEscapes, if_neg Bool.false_ne_true, if_pos rfl, removed]

/-- Without the escape sequences the characters of the emissions are their text. -/
theorem removeEscapes_emitted (clean : '\x1b' ∉ run) (plain : ∀ c, .plain c ∈ rest → c ≠ '\x1b') :
    removeEscapes false ((emitted [.escape "\x1b[0m".toList, .text "\n".toList]
        (fun c => .escape (colorCode c)) run rest).flatMap Emission.written) =
      (emitted [.escape "\x1b[0m".toList, .text "\n".toList]
        (fun c => .escape (colorCode c)) run rest).flatMap Emission.shown := by
  induction rest generalizing run with
  | nil => rw [emitted, written_held, shown_held, removeEscapes_clean clean]
  | cons piece rest inductionHypothesis =>
      have plainRest : ∀ c, .plain c ∈ rest → c ≠ '\x1b' :=
        fun c inRest => plain c (List.mem_cons_of_mem _ inRest)
      have further := @inductionHypothesis [] List.not_mem_nil plainRest
      cases piece with
      | plain c =>
          rw [emitted]
          by_cases full : run.length ≥ maxPrintMsg - 1
          · rw [if_pos full, written_held, shown_held, removeEscapes_clean clean]
          · have cleanLonger : '\x1b' ∉ run ++ [c] := by
              rw [List.mem_append, List.mem_singleton, not_or]
              exact ⟨clean, Ne.symm (plain c List.mem_cons_self)⟩
            rw [if_neg full]
            exact inductionHypothesis cleanLonger plainRest
      | newline =>
          rw [emitted, List.flatMap_append, List.flatMap_append, written_held, List.flatMap_append,
            List.flatMap_append, shown_held, List.append_assoc, List.append_assoc, removeEscapes_text clean,
            ← further]
          rfl
      | color c =>
          rw [emitted, List.flatMap_append, List.flatMap_append, written_held, List.flatMap_append,
            List.flatMap_append, shown_held, List.append_assoc, List.append_assoc, removeEscapes_text clean,
            List.flatMap_singleton, List.flatMap_singleton, Emission.written,
              removeEscapes_colorCode, further]
          rfl

theorem mem_of_plain_mem {msg : CString} {c : Char} (inPieces : .plain c ∈ pieces msg) : c ∈ msg := by
  have ofChar : ∀ {d : Char}, .plain c = Piece.ofChar d → c = d := by
    intro d same
    rw [Piece.ofChar] at same
    split at same
    · cases same
    · exact Piece.plain.inj same
  fun_induction pieces msg with
  | case1 => cases inPieces
  | case2 d => rw [List.mem_singleton, ofChar (List.mem_singleton.mp inPieces)]
  | case3 d e msg code inductionHypothesis =>
      rcases List.mem_cons.mp inPieces with impossible | inRest
      · cases impossible
      · exact List.mem_cons_of_mem d (List.mem_cons_of_mem e (inductionHypothesis inRest))
  | case4 d e msg code inductionHypothesis =>
      rcases List.mem_cons.mp inPieces with same | inRest
      · rw [ofChar same]
        exact List.mem_cons_self
      · exact List.mem_cons_of_mem d (inductionHypothesis inRest)

end RemoveEscapes

/-- The printer as a call finds it: the static buffer holds whatever earlier
calls left in it. -/
def ColorPrinter.start (memory : Vector Char maxPrintMsg) (drawInput : Bool) : ColorPrinter :=
  { buffer := memory.toList, drawInput, out := [] }

section Consoles

variable (msg : CString) (memory : Vector Char maxPrintMsg) (drawInput : Bool)

/-- A printer starts with a buffer of the size of its array. -/
theorem size_start : (ColorPrinter.start memory drawInput).buffer.length = maxPrintMsg :=
  memory.length_toList

/-- No message takes either console out of its buffer. -/
theorem color_print_in_buffer : (∃ q, ansiColorPrint msg (.start memory drawInput) = some q) ∧
    ∃ q, windowsColorPrint msg (.start memory drawInput) = some q := by
  have collects := ColorPrinter.collects_nil (size_start memory drawInput)
  constructor
  · obtain ⟨q, printed, -⟩ := @colorLoop_emits _ _ _ ansiCalls_emit msg [] _ collects
    exact ⟨q, printed⟩
  · obtain ⟨q, printed, -⟩ := @colorLoop_emits _ _ _ windowsCalls_emit msg [] _ collects
    exact ⟨q, printed⟩

/-- The terminal console prints all of a message exactly if its runs fit the
buffer. -/
theorem ansiColorPrint_complete_iff :
    Complete ansiColorPrint msg (.start memory drawInput) ↔ RunsFit msg :=
  complete_iff ansiCalls_emit rfl (fun _ => rfl) (size_start memory drawInput)

/-- The Windows console prints all of a message under the same condition. -/
theorem windowsColorPrint_complete_iff :
    Complete windowsColorPrint msg (.start memory drawInput) ↔ RunsFit msg :=
  complete_iff windowsCalls_emit rfl (fun _ => rfl) (size_start memory drawInput)

/-- Both consoles print a message completely exactly when none of its runs is
longer than 4095 characters. -/
theorem color_print_complete_iff :
    (Complete ansiColorPrint msg (.start memory drawInput) ↔ RunsFit msg) ∧
      (Complete windowsColorPrint msg (.start memory drawInput) ↔ RunsFit msg) :=
  ⟨ansiColorPrint_complete_iff msg memory drawInput, windowsColorPrint_complete_iff msg memory drawInput⟩

/-- What reaches the terminal is the text of the console that knows no buffer. -/
theorem ansiColorPrint_writes (terminated : '\x00' ∉ msg) :
    ∃ q, ansiColorPrint msg (.start memory drawInput) = some q ∧
      q.out.flatMap Emission.written = ansiColorText [] msg := by
  have collects := ColorPrinter.collects_nil (size_start memory drawInput)
  obtain ⟨q, printed, out⟩ := @colorLoop_emits _ _ _ ansiCalls_emit msg [] _ collects
  refine ⟨q, printed, ?_⟩
  rw [out, cStr_eq_self_iff.mpr terminated]
  exact written_emitted

/-- A terminal that is sent a message without escape character shows it
completely exactly when its runs fit: what reaches it, escape sequences removed,
is then the message without its colour codes. -/
theorem ansiColorText_complete_iff (terminated : '\x00' ∉ msg) (noEscape : '\x1b' ∉ msg) :
    removeEscapes false (ansiColorText [] msg) = withoutColors msg ↔ RunsFit msg := by
  have plain : ∀ c, .plain c ∈ pieces msg → c ≠ '\x1b' := by
    rintro c inPieces rfl
    exact noEscape (mem_of_plain_mem inPieces)
  have exactly := @shown_emitted_iff [.escape "\x1b[0m".toList, .text "\n".toList]
    (fun c => .escape (colorCode c)) [] (pieces msg) rfl (fun _ => rfl) (Nat.zero_le _)
  rw [← written_emitted, removeEscapes_emitted List.not_mem_nil plain, RunsFit, ← runsFitBehind_empty,
    cStr_eq_self_iff.mpr terminated, ← exactly]
  rfl

end Consoles

/-- A run of 4096 characters loses the last one on both consoles. -/
theorem long_run_cut :
    ¬Complete ansiColorPrint (List.replicate 4096 'a')
      (.start (Vector.replicate maxPrintMsg '\x00') false) ∧
      ¬Complete windowsColorPrint (List.replicate 4096 'a')
        (.start (Vector.replicate maxPrintMsg '\x00') false) := by
  have without : ∀ c ≠ 'a', c ∉ List.replicate 4096 'a' :=
    fun c other inText => other (List.eq_of_mem_replicate inText)
  have cut : ¬RunsFit (List.replicate 4096 'a') := by
    rw [runsFit_plain_iff (without _ (by decide)) (without _ (by decide)) (without _ (by decide)),
      List.length_replicate]
    decide
  constructor
  · rw [ansiColorPrint_complete_iff]
    exact cut
  · rw [windowsColorPrint_complete_iff]
    exact cut

end Q3df.Server
