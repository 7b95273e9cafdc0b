/-
Module: Q3df.Server.TtyScreen
Layer: Server
Purpose: What the operator sees of the terminal console. Keys, recalled lines and prints all write
  to the same terminal, and the console takes its prompt and line back before it prints and writes
  them again afterwards. So whenever no print is outstanding, the row with the cursor shows the
  prompt and the line that is edited, with the cursor behind it. This takes a terminal that is wide
  enough: the console takes characters back with backspaces, which do not go up to a row above, and
  so the prompt and the line have to fit one row at all times.
Imports: Q3df.Library.Screen, Q3df.Server.TtyInput
Trusted boundary: the terminal as in the screen library, at the start of a row when the program
  starts; both streams go to it
Main exports: TtyConsole.screen, PrintCall.PrintsRow, TtyAction.Plain, TtyAction.outstanding,
  FitsRow, AlwaysFits, OnScreen, screen_shows_line
Open obligations: none
-/
import Q3df.Library.Screen
import Q3df.Server.TtyInput

namespace Q3df.Server

open Q3df.Screen Q3df.Transition
open Client (nul signedChar)

/-!
### The terminal behind the console

The row the terminal shows after all that was written to it, and the width that
the prompt and the line must fit.
-/

/-- The terminal, behind everything that was written to it. -/
def TtyConsole.screen (d : Display) (s : TtyConsole) : Terminal := Terminal.fresh.receiveAll d s.terminal

/-- What a print function puts in front. -/
def PrintCall.label : PrintCall → CString
  | .print _ _ _ => []
  | .printInfo _ _ _ => "^7[^3Info ^7]: ".toList
  | .printError _ _ _ => "^7[^1Error^7]: ".toList

/-- The formatted text of a call. -/
def PrintCall.string : PrintCall → CString
  | .print _ string _ | .printInfo _ string _ | .printError _ string _ => string

/-- The text is what `vsprintf` makes of the message. It has no escape
character, and what is to end its row fits the buffer of the colour printer,
which drops the rest of a longer text. -/
structure PrintCall.PrintsRow (call : PrintCall) : Prop where
  formatted : ∃ args, Printf.sprintf formatBuffer call.msg args = .ok call.string
  plain : '\x1b' ∉ call.string
  fits : call.msg.getLast? = some '\n' → (call.label ++ call.string).length < maxPrintMsg

/-- The actions that the screen follows: any bytes are read but the terminator,
a print has a plain text, and the process is not continued. -/
def TtyAction.Plain : TtyAction → Prop
  | .input reads => ∀ c, reads.head?.join = some c → c ≠ nul ∧ c.toNat < 256
  | .print call => call.PrintsRow
  | .sigCont => False

/-- The prints outstanding after one more action. -/
def TtyAction.outstanding (outstanding : Nat) : TtyAction → Nat
  | .print call => outstandingAfter outstanding call.msg
  | .input _ | .sigCont => outstanding

/-- All characters of a text are visible. -/
def VisibleText (text : CString) : Prop := ∀ c ∈ text, Visible c

/-- The prompt and the line leave the last cell of a row free. -/
def FitsRow (d : Display) (line : CString) : Prop := (ttyConsolePrompt ++ line).length < d.columns

instance (d : Display) (line : CString) : Decidable (FitsRow d line) := inferInstanceAs (Decidable (_ < _))

/-- They do so before each action of a session and at its end. -/
def AlwaysFits (d : Display) (ttyErase : Int) (l : CommandLine × List CString) : List TtyAction → Prop
  | [] => FitsRow d l.1.line
  | action :: actions => FitsRow d l.1.line ∧
      AlwaysFits d ttyErase (CommandLine.act ttyErase l action) actions

/-- The prompt is hidden as often as prints are outstanding; if none is, the row
shows the prompt and the line. -/
structure OnScreen (d : Display) (s : TtyConsole) (line : CString) (outstanding : Nat) : Prop where
  hide : s.ttyconHide = outstanding
  overdue : s.ttyconShowOverdue = outstanding
  mode : (s.screen d).mode = .text
  shown : outstanding = 0 → Shows (s.screen d) (ttyConsolePrompt ++ line)

/-! ### What is written

The terminal receives what the console writes, to either stream. -/

section Writing

variable {d : Display} {s : TtyConsole} {line line' text msg : CString} {outstanding : Nat}

/-- What is written is received by the terminal. -/
theorem screen_write (s : TtyConsole) (text : CString) : (s.write text).screen d =
    (s.screen d).receiveAll d text :=
  receiveAll_append

theorem screen_fputs (s : TtyConsole) (text : CString) : (s.fputs text).screen d =
    (s.screen d).receiveAll d text :=
  receiveAll_append

/-- Each erasure is sent as a backspace, a space and a backspace. -/
theorem screen_backs (rounds : Nat) (s : TtyConsole) : (Nat.repeat TtyConsole.back rounds s).screen d =
    (s.screen d).receiveAll d (List.replicate rounds "\x08 \x08".toList).flatten := by
  induction rounds with
  | zero => rfl
  | succ rounds inductionHypothesis =>
      show (Nat.repeat TtyConsole.back rounds s).back.screen d = _
      rw [TtyConsole.back, screen_write, inductionHypothesis, List.replicate_succ', List.flatten_append,
        List.flatten_singleton, receiveAll_append]

/-- A text without escape characters leaves the terminal in its plain mode. -/
theorem mode_append (textMode : (s.screen d).mode = .text) (clean : '\x1b' ∉ text) :
    ((s.write text).screen d).mode = .text := by
  rw [screen_write]
  exact receiving_text textMode clean

theorem visible_prompt : VisibleText ttyConsolePrompt := by
  have split : ttyConsolePrompt = ['>', ' '] := by decide
  intro c among
  rw [split, List.mem_cons, List.mem_singleton] at among
  rcases among with rfl | rfl <;> decide

/-- A line that fits behind the prompt leaves room for the prompt. -/
theorem FitsRow.of_line (fits : FitsRow d line) : ([] ++ ttyConsolePrompt).length < d.columns := by
  rw [FitsRow, List.length_append] at fits
  rw [List.nil_append]
  exact Nat.lt_of_le_of_lt (Nat.le_add_right _ _) fits

/-- The prompt and a line are written at the start of a row. -/
theorem shows_prompt (blank : Shows (s.screen d) []) (visible : VisibleText line) (fits : FitsRow d line) :
    Shows (((s.write ttyConsolePrompt).write line).screen d) (ttyConsolePrompt ++ line) := by
  rw [screen_write, screen_write]
  have prompt := shows_append blank visible_prompt fits.of_line
  rw [List.nil_append] at prompt
  exact shows_append prompt visible fits

/-!
### Hiding and showing

Hiding takes back as many characters as the prompt and the line have, and so it
clears the row that shows them. Showing writes them to a row that was cleared.
-/

/-- The prompt is away: the row is empty if it was on the screen. -/
structure Away (d : Display) (s : TtyConsole) (outstanding : Nat) : Prop where
  hide : s.ttyconHide = outstanding + 1
  overdue : s.ttyconShowOverdue = outstanding
  mode : (s.screen d).mode = .text
  blank : outstanding = 0 → Shows (s.screen d) []

/-- Hiding the prompt leaves an empty row. -/
theorem OnScreen.hidden (onScreen : OnScreen d s line outstanding) (ttyCon : s.ttyCon = .of line)
    (fits : FitsRow d line) : Away d s.hide outstanding := by
  unfold TtyConsole.hide
  by_cases away : s.ttyconHide ≠ 0
  · rw [if_pos away]
    refine ⟨?_, onScreen.overdue, onScreen.mode, ?_⟩
    · show s.ttyconHide + 1 = _
      rw [onScreen.hide]
    · rintro rfl
      exact absurd onScreen.hide away
  · rw [if_neg away]
    have none_ : outstanding = 0 := by
      have hide := onScreen.hide
      omega
    have length : s.ttyCon.cursor.toNat + ttyConsolePrompt.length = (ttyConsolePrompt ++ line).length := by
      rw [ttyCon, List.length_append, Field.of, Int.toNat_natCast, Nat.add_comm]
    have blank :
        Shows ((Nat.repeat TtyConsole.back (s.ttyCon.cursor.toNat + ttyConsolePrompt.length) s).screen
          d) [] := by
      rw [screen_backs, length]
      exact shows_erases (onScreen.shown none_) fits
    -- taking characters back moves no counter
    have counters := @frame_backs s.forget (s.ttyCon.cursor.toNat + ttyConsolePrompt.length)
    rw [← TtyConsole.forget_backs] at counters
    have hide : (Nat.repeat TtyConsole.back (s.ttyCon.cursor.toNat + ttyConsolePrompt.length) s).ttyconHide =
        s.ttyconHide := counters.2.1
    have overdue : (Nat.repeat TtyConsole.back (s.ttyCon.cursor.toNat + ttyConsolePrompt.length)
        s).ttyconShowOverdue = s.ttyconShowOverdue := counters.1
    refine ⟨?_, overdue.trans onScreen.overdue, blank.mode, fun _ => blank⟩
    show (Nat.repeat TtyConsole.back _ s).ttyconHide + 1 = _
    rw [hide, onScreen.hide]

/-- Showing takes that back, and writes the prompt if it was hidden just once. -/
theorem Away.shown (away : Away d s outstanding) (ttyCon : s.ttyCon = .of line) (visible : VisibleText line)
    (fits : FitsRow d line) : OnScreen d s.show_ line outstanding := by
  have less : s.ttyconHide - 1 = outstanding := by
    rw [away.hide]
    omega
  unfold TtyConsole.show_
  dsimp only
  rw [less]
  by_cases settled : (outstanding : Int) = 0
  · rw [if_pos settled, ttyCon, typed_of]
    have blank := away.blank (Int.natCast_eq_zero.mp settled)
    have row := @shows_prompt d { s with ttyconHide := outstanding } line blank visible fits
    exact ⟨rfl, away.overdue, row.mode, fun _ => row⟩
  · rw [if_neg settled]
    exact ⟨rfl, away.overdue, away.mode, fun none_ => absurd (congrArg Nat.cast none_) settled⟩

/-- The line is replaced behind a hidden prompt. -/
theorem OnScreen.redraw (onScreen : OnScreen d s line outstanding) (ttyCon : s.ttyCon = .of line)
    (fits : FitsRow d line) (visible : VisibleText line') (fits' : FitsRow d line') :
    OnScreen d (TtyConsole.show_ { s.hide with ttyCon := .of line' }) line' outstanding := by
  have away := onScreen.hidden ttyCon fits
  have replaced : Away d { s.hide with ttyCon := .of line' } outstanding :=
    ⟨away.hide, away.overdue, away.mode, away.blank⟩
  exact replaced.shown rfl visible fits'

/-- Where nothing is to be drawn nothing changes. -/
theorem OnScreen.congr (onScreen : OnScreen d s line outstanding) {t : TtyConsole}
    (hide : t.ttyconHide = s.ttyconHide) (overdue : t.ttyconShowOverdue = s.ttyconShowOverdue)
    (terminal : t.terminal = s.terminal) : OnScreen d t line outstanding := by
  have screen : t.screen d = s.screen d := congrArg (Terminal.fresh.receiveAll d) terminal
  refine ⟨hide.trans onScreen.hide, overdue.trans onScreen.overdue, ?_, ?_⟩
  · rw [screen]
    exact onScreen.mode
  · rw [screen]
    exact onScreen.shown

/-!
### Printing

A print puts its text on the row that hiding has cleared. The colour printer
adds escape sequences, which leave the row, and ends each row of the text by a
newline; so a text that ends its row leaves an empty one, however many rows it
took.
-/

/-- The escape sequence of a colour leaves the row. -/
theorem receive_colorCode (t : Terminal) (textMode : t.mode = .text) (c : Char) :
    t.receiveAll d (colorCode c) = t := by
  apply receive_colour textMode
  intro e among
  rw [Nat.toString_eq_repr, Nat.toList_repr] at among
  have digit := Nat.isDigit_of_mem_toDigits (by decide) (by decide) among
  rw [Char.isDigit, Bool.and_eq_true, decide_eq_true_eq, decide_eq_true_eq] at digit
  exact lt_of_le_of_lt digit.2 (by decide)

/-- So does the reset in front of a newline. -/
theorem shows_reset (t : Terminal) (textMode : t.mode = .text) :
    Shows (t.receiveAll d "\x1b[0m\n".toList) [] := by
  have split : "\x1b[0m\n".toList = "\x1b[".toList ++ ['0'] ++ ['m'] ++ ['\n'] := by decide
  have digits : ∀ e ∈ ['0'], e < '@' := by
    intro e among
    rw [List.mem_singleton.mp among]
    decide
  rw [split, receiveAll_append, receive_colour textMode digits]
  exact shows_newline textMode

/-- The colour printer leaves the terminal in text. -/
theorem mode_ansiColorText (t : Terminal) (textMode : t.mode = .text) (buffer text : CString)
    (clean : '\x1b' ∉ buffer ∧ '\x1b' ∉ text) :
      (t.receiveAll d (ansiColorText buffer text)).mode = .text := by
  fun_induction ansiColorText buffer text generalizing t with
  | case1 buffer => exact receiving_text textMode clean.1
  | case2 buffer =>
      rw [receiveAll_append]
      exact (shows_reset _ (receiving_text textMode clean.1)).mode
  | case3 buffer c notNewline full => exact receiving_text textMode clean.1
  | case4 buffer c notNewline room =>
      rw [receiveAll_append]
      exact receiving_text (receiving_text textMode clean.1) clean.2
  | case5 buffer c e text colour inductionHypothesis =>
      have first := @receiving_text d t buffer textMode clean.1
      rw [receiveAll_append, receiveAll_append, receive_colorCode _ first]
      simp only [List.mem_cons, not_or] at clean
      exact inductionHypothesis _ first ⟨List.not_mem_nil, clean.2.2.2⟩
  | case6 buffer e text notColour inductionHypothesis =>
      have first := @shows_reset d (t.receiveAll d buffer) (receiving_text textMode clean.1)
      rw [receiveAll_append, receiveAll_append]
      exact inductionHypothesis _ first.mode ⟨List.not_mem_nil, fun among =>
        clean.2 (List.mem_cons_of_mem _ among)⟩
  | case7 buffer c e text notColour notNewline full => exact receiving_text textMode clean.1
  | case8 buffer c e text notColour notNewline room inductionHypothesis =>
      simp only [List.mem_cons, not_or] at clean
      apply inductionHypothesis _ textMode
      simp only [List.mem_append, List.mem_cons, List.not_mem_nil, or_false, not_or]
      exact ⟨⟨clean.1, clean.2.1⟩, clean.2.2⟩

/-- A text that ends its row leaves an empty one, if no run of it is cut off. -/
theorem shows_ansiColorText (t : Terminal) (textMode : t.mode = .text) (buffer text : CString)
    (clean : '\x1b' ∉ buffer ∧ '\x1b' ∉ text) (fits : buffer.length + text.length < maxPrintMsg)
    (ends : text.getLast? = some '\n') : Shows (t.receiveAll d (ansiColorText buffer text)) [] := by
  fun_induction ansiColorText buffer text generalizing t with
  | case1 buffer => cases ends
  | case2 buffer =>
      rw [receiveAll_append]
      exact shows_reset _ (receiving_text textMode clean.1)
  | case3 buffer c notNewline full => exact absurd (Option.some.inj ends) notNewline
  | case4 buffer c notNewline room => exact absurd (Option.some.inj ends) notNewline
  | case5 buffer c e text colour inductionHypothesis =>
      have first := @receiving_text d t buffer textMode clean.1
      rw [receiveAll_append, receiveAll_append, receive_colorCode _ first]
      rw [List.getLast?_cons_cons] at ends
      rw [List.length_cons, List.length_cons] at fits
      simp only [List.mem_cons, not_or] at clean
      cases text with
      | nil =>
          -- the last character is a colour's
          cases ends
          exact absurd colour.2 (by decide)
      | cons f text =>
          rw [List.getLast?_cons_cons] at ends
          refine inductionHypothesis _ first ⟨List.not_mem_nil, clean.2.2.2⟩ ?_ ends
          rw [List.length_nil]
          omega
  | case6 buffer e text notColour inductionHypothesis =>
      have first := @shows_reset d (t.receiveAll d buffer) (receiving_text textMode clean.1)
      rw [receiveAll_append, receiveAll_append]
      rw [List.getLast?_cons_cons] at ends
      refine inductionHypothesis _ first.mode ⟨List.not_mem_nil, ?_⟩ ?_ ends
      · intro among
        exact clean.2 (List.mem_cons_of_mem _ among)
      · rw [List.length_nil]
        rw [List.length_cons] at fits
        omega
  | case7 buffer c e text notColour notNewline full =>
      rw [List.length_cons, List.length_cons] at fits
      omega
  | case8 buffer c e text notColour notNewline room inductionHypothesis =>
      simp only [List.mem_cons, not_or] at clean
      rw [List.getLast?_cons_cons] at ends
      refine inductionHypothesis _ textMode ?_ ?_ ends
      · simp only [List.mem_append, List.mem_cons, List.not_mem_nil, or_false, not_or]
        exact ⟨⟨clean.1, clean.2.1⟩, clean.2.2⟩
      · rw [List.length_append, List.length_singleton]
        rw [List.length_cons] at fits
        omega

theorem show_setOverdue (s : TtyConsole) (overdue : Int) :
    ({ s with ttyconShowOverdue := overdue } : TtyConsole).show_ =
      { s.show_ with ttyconShowOverdue := overdue } := by
  unfold TtyConsole.show_
  dsimp only
  split
  · rfl
  · rfl

/-- On an empty row the prompt comes back once it has been shown as often as it
was hidden. -/
theorem shown_overdue (rounds : Nat) {s : TtyConsole} (hide : s.ttyconHide = rounds + 1)
    (overdue : s.ttyconShowOverdue = rounds) (blank : Shows (s.screen d) []) (ttyCon : s.ttyCon = .of line)
    (visible : VisibleText line) (fits : FitsRow d line) :
      OnScreen d (s.show_.showOverdue rounds) line 0 := by
  induction rounds generalizing s with
  | zero => exact Away.shown ⟨hide, overdue, blank.mode, fun _ => blank⟩ ttyCon visible fits
  | succ rounds inductionHypothesis =>
      have less : s.ttyconHide - 1 = rounds + 1 := by
        rw [hide]
        omega
      have still : s.show_ = { s with ttyconHide := (rounds : Int) + 1 } := by
        unfold TtyConsole.show_
        dsimp only
        rw [less, if_neg (by omega)]
      have next := @inductionHypothesis
        { s with ttyconHide := (rounds : Int) + 1, ttyconShowOverdue := (rounds : Int) } rfl rfl blank ttyCon
      have counted : s.ttyconShowOverdue - 1 = (rounds : Int) := by
        rw [overdue]
        omega
      have frame : s.show_.show_.ttyconShowOverdue = s.ttyconShowOverdue := by
        rw [still]
        exact congrArg (·.ttyconShowOverdue)
          (show_setOverdue { s with ttyconHide := (rounds : Int) + 1 } s.ttyconShowOverdue)
      rw [TtyConsole.showOverdue, frame, counted, ← show_setOverdue, still]
      exact next

/-- A print takes the prompt back, writes its text, and shows the prompt again
or counts it as overdue. -/
theorem OnScreen.print {t : TtyConsole} {call : PrintCall} (onScreen : OnScreen d s line outstanding)
    (ttyCon : s.ttyCon = .of line) (visible : VisibleText line) (fits : FitsRow d line)
    (free : s.locked = false)
    (plain : call.PrintsRow) (printed : s.print call = some t) :
    OnScreen d t line (outstandingAfter outstanding call.msg) := by
  have spelled : s.printWith call.label call.msg call.string = some t := by
    cases call <;> exact printed
  rw [TtyConsole.printWith, TtyConsole.lock, free] at spelled
  rw [outstandingAfter]
  by_cases silent : call.msg = []
  · rw [if_pos silent] at spelled ⊢
    cases spelled
    exact onScreen
  · rw [if_neg silent] at spelled ⊢
    cases spelled
    have clean : '\x1b' ∉ call.label ++ call.string := by
      rw [List.mem_append, not_or]
      refine ⟨?_, plain.plain⟩
      cases call <;> exact of_decide_eq_true rfl
    let held : TtyConsole := { s with locked := true }
    have away : Away d held.hide outstanding :=
      (onScreen.congr rfl rfl rfl : OnScreen d held line outstanding).hidden ttyCon fits
    let written : TtyConsole := held.hide.fputs (ansiColorText [] (call.label ++ call.string))
    have textMode : (written.screen d).mode = .text := by
      rw [screen_fputs]
      exact mode_ansiColorText _ away.mode _ _ ⟨List.not_mem_nil, clean⟩
    have writtenLine : written.ttyCon = .of line := by
      obtain ⟨_, _, _, _, _, same⟩ := redrawn_hide held
      show held.hide.ttyCon = _
      rw [same]
      exact ttyCon
    rw [TtyConsole.printLocked]
    dsimp only
    by_cases ends : call.msg.getLast? = some '\n'
    · rw [if_pos ends, if_pos ends]
      obtain ⟨args, formatted⟩ := plain.formatted
      have lastOf := Printf.format_getLast_newline (Printf.sprintf_eq_ok.mp formatted).1 ends
      have last : (call.label ++ call.string).getLast? = some '\n' := by
        rw [List.getLast?_append, lastOf, Option.some_or]
      have blank : Shows (written.screen d) [] := by
        rw [screen_fputs]
        refine shows_ansiColorText _ away.mode _ _ ⟨List.not_mem_nil, clean⟩ ?_ last
        rw [List.length_nil, Nat.zero_add]
        exact plain.fits ends
      have overdue : written.show_.ttyconShowOverdue = outstanding := by
        have kept := congrArg (·.ttyconShowOverdue) (show_setOverdue written written.ttyconShowOverdue)
        exact kept.trans away.overdue
      have shown : OnScreen d (written.show_.showOverdue outstanding) line 0 :=
        @shown_overdue d line outstanding written away.hide away.overdue blank writtenLine visible fits
      have rounds : written.show_.ttyconShowOverdue.toNat = outstanding := by
        rw [overdue, Int.toNat_natCast]
      rw [← rounds] at shown
      exact shown.congr rfl rfl rfl
    · rw [if_neg ends, if_neg ends]
      refine ⟨away.hide, ?_, textMode, ?_⟩
      · show written.ttyconShowOverdue + 1 = _
        rw [show written.ttyconShowOverdue = outstanding from away.overdue]
        rfl
      · intro impossible
        exact absurd impossible (Nat.succ_ne_zero outstanding)

end Writing

/-!
### Keys

A key changes the row as it changes the line: a typed character is written
behind it, Backspace takes the last one away, and Up and Down take the whole
line away and write another.
-/

section Keys

variable {d : Display} {s t : TtyConsole} {l : CommandLine} {line line' : CString} {outstanding : Nat}
variable {ttyErase : Int}

theorem of_injective (same : Field.of line = .of line') : line = line' := by
  rw [← typed_of line, same, typed_of]

/-- Backspace takes the last character off the row. -/
theorem OnScreen.eraseKey (onScreen : OnScreen d s line outstanding) (ttyCon : s.ttyCon = .of line)
    (fits : FitsRow d line) (erased : s.eraseKey = some t) : OnScreen d t line.dropLast outstanding := by
  have cursor : s.ttyCon.cursor = line.length := by
    rw [ttyCon]
    rfl
  rw [TtyConsole.eraseKey, cursor] at erased
  rcases List.eq_nil_or_concat line with rfl | ⟨front, c, concat⟩
  · rw [if_neg (by decide)] at erased
    cases erased
    exact onScreen
  · rw [List.concat_eq_append] at concat
    have positive : (line.length : Int) > 0 := by
      rw [concat, List.length_append, List.length_singleton]
      omega
    rw [if_pos positive] at erased
    obtain ⟨buffer, -, same⟩ := Option.bind_eq_some_iff.mp erased
    cases same
    refine ⟨onScreen.hide, onScreen.overdue, mode_append onScreen.mode (by decide), ?_⟩
    intro settled
    have shown := onScreen.shown settled
    rw [FitsRow, concat, ← List.append_assoc] at fits
    rw [concat, ← List.append_assoc] at shown
    rw [concat, List.dropLast_concat, TtyConsole.back, screen_write]
    exact shows_erase shown fits

/-- A typed character appears at the end of the row, if there is room in the
line. -/
theorem OnScreen.pushKey (onScreen : OnScreen d s line outstanding)
    (ttyCon : s.ttyCon = .of line) {key : Char}
    (visible : Visible key) (fits : FitsRow d (if line.length < maxEditLine - 1 then line ++ [key] else line))
    (pushed : s.pushKey key = some t) :
    OnScreen d t (if line.length < maxEditLine - 1 then line ++ [key] else line) outstanding := by
  have cursor : s.ttyCon.cursor = line.length := by
    rw [ttyCon]
    rfl
  rw [TtyConsole.pushKey] at pushed
  by_cases room : line.length < maxEditLine - 1
  · rw [if_neg (by rw [cursor]; omega)] at pushed
    rw [if_pos room] at fits ⊢
    obtain ⟨buffer, -, same⟩ := Option.bind_eq_some_iff.mp pushed
    cases same
    have clean : '\x1b' ∉ [key] := by
      intro among
      rw [← List.mem_singleton.mp among] at visible
      exact absurd visible (by decide)
    refine ⟨onScreen.hide, onScreen.overdue, mode_append onScreen.mode clean, ?_⟩
    intro settled
    rw [FitsRow, ← List.append_assoc] at fits
    rw [screen_write, ← List.append_assoc]
    apply shows_append (onScreen.shown settled) _ fits
    intro c among
    rw [List.mem_singleton.mp among]
    exact visible
  · rw [if_pos (by rw [cursor]; omega)] at pushed
    rw [if_neg room]
    cases pushed
    exact onScreen

/-- Return starts a row and writes the prompt on it. -/
theorem OnScreen.returnKey (onScreen : OnScreen d s line outstanding) (fits : FitsRow d line) {text : CString}
    (returned : s.returnKey = some (text, t)) : OnScreen d t [] outstanding := by
  obtain ⟨u, added, rest⟩ := Option.bind_eq_some_iff.mp returned
  obtain ⟨buffer, -, same⟩ := Option.bind_eq_some_iff.mp rest
  cases same
  -- remembering the line draws nothing
  have kept : OnScreen d u line outstanding := by
    rw [TtyConsole.histAdd] at added
    split at added
    · cases added
      exact onScreen
    · obtain ⟨moved, -, rest⟩ := Option.bind_eq_some_iff.mp added
      obtain ⟨lines, -, same⟩ := Option.bind_eq_some_iff.mp rest
      cases same
      exact onScreen.congr rfl rfl rfl
  let cleared : TtyConsole :=
    { u with
      ttyCon := .clear
      text := Client.strncpy (cStr u.ttyCon.buffer) (maxEditLine - 1) ++ u.text.drop (maxEditLine - 1) }
  have blank : Shows ((cleared.write ['\n']).screen d) [] := by
    rw [screen_write]
    exact shows_newline kept.mode
  have prompt := shows_append blank visible_prompt fits.of_line
  rw [← screen_write] at prompt
  exact ⟨kept.hide, kept.overdue, prompt.mode, fun _ => prompt⟩

/-- A line of the history is drawn in place of the one edited. -/
theorem OnScreen.recalled (onScreen : OnScreen d s line outstanding) (ttyCon : s.ttyCon = .of line)
    (fits : FitsRow d line) {current : Int} {field : Field} (visible : VisibleText line')
    (fits' : FitsRow d line')
    (drawn : t = TtyConsole.show_
      { ({ s with histCurrent := current } : TtyConsole).hide with ttyCon := field })
    (shows_ : t.ttyCon = .of line') : OnScreen d t line' outstanding := by
  have kept : t.ttyCon = field := by
    obtain ⟨_, _, _, _, _, same⟩ :=
      redrawn_show { ({ s with histCurrent := current } : TtyConsole).hide with ttyCon := field }
    rw [drawn, same]
  have moved : OnScreen d { s with histCurrent := current } line outstanding := onScreen.congr rfl rfl rfl
  rw [drawn, ← kept, shows_]
  exact moved.redraw ttyCon fits visible fits'

/-- The key up shows the recalled line on the row. -/
theorem OnScreen.upKey (onScreen : OnScreen d s line outstanding) (ttyCon : s.ttyCon = .of line)
    (fits : FitsRow d line) (visible : VisibleText line') (fits' : FitsRow d line') (up : s.upKey = some t)
    (shows_ : t.ttyCon = .of line') : OnScreen d t line' outstanding := by
  obtain ⟨⟨history, u⟩, found, drawn⟩ := Option.map_eq_some_iff.mp up
  obtain ⟨current, rfl⟩ := TtyConsole.histPrev_moves found
  cases history with
  | none =>
      -- nothing is older, and nothing is drawn
      cases drawn
      rw [← of_injective (ttyCon.symm.trans shows_)]
      exact onScreen.congr rfl rfl rfl
  | some field => exact onScreen.recalled ttyCon fits visible fits' drawn.symm shows_

/-- The key down shows the recalled line on the row. -/
theorem OnScreen.downKey (onScreen : OnScreen d s line outstanding) (ttyCon : s.ttyCon = .of line)
    (fits : FitsRow d line) (visible : VisibleText line') (fits' : FitsRow d line')
    (down : s.downKey = some t)
    (shows_ : t.ttyCon = .of line') : OnScreen d t line' outstanding := by
  obtain ⟨⟨history, u⟩, found, drawn⟩ := Option.map_eq_some_iff.mp down
  obtain ⟨current, rfl⟩ := TtyConsole.histNext_moves found
  exact onScreen.recalled ttyCon fits visible fits' drawn.symm shows_

/-- A byte other than the terminator that is typed is visible: 127 erases, and
those from 128 on are control characters. -/
theorem visible_typed {reads : Reads} {c : Char} (plain : (TtyAction.input reads).Plain)
    (typed : keyOf ttyErase reads = .typed c) : Visible c := by
  unfold keyOf at typed
  cases read : reads.head?.join with
  | none =>
      rw [read] at typed
      cases typed
  | some key =>
      rw [read] at typed
      dsimp only at typed
      obtain ⟨notNul, byte⟩ := plain key read
      split at typed
      · cases typed
      · rename_i kept
        rw [not_or, not_or] at kept
        split at typed
        · rename_i regular
          cases typed
          have large : 32 ≤ signedChar c := regular.resolve_left notNul
          rw [signedChar] at large
          have small : c.toNat < 128 := by
            by_contra high
            rw [if_neg high] at large
            omega
          rw [if_pos small] at large
          have notDelete : c.toNat ≠ 127 := by
            intro same
            exact kept.2.1 (Char.ext (UInt32.toNat_inj.mp same))
          constructor
          · show 32 ≤ c.toNat
            omega
          · show c.toNat ≤ 126
            omega
        · split at typed
          · cases typed
          · split at typed
            · cases typed
            · unfold escapeOf at typed
              split at typed
              · split at typed <;> cases typed
              · cases typed

end Keys

/-!
### Runs

By induction on the operations of a session, with the line that the keys have
made of it.
-/

/-- The line that is edited and those that were submitted are visible. -/
def VisibleLines (l : CommandLine) : Prop := VisibleText l.line ∧ ∀ line ∈ l.recent, VisibleText line

section Runs

variable {d : Display} {l : CommandLine} {key : ConsoleKey} {ttyErase : Int} {outstanding : Nat}

theorem visible_lineAt (visible : VisibleLines l) (place : Nat) : VisibleText (lineAt l.recent place) := by
  cases place with
  | zero => exact fun _ among => absurd among List.not_mem_nil
  | succ place =>
      rw [lineAt, List.getD_eq_getElem?_getD]
      cases found : l.recent[place]? with
      | none => exact fun _ among => absurd among List.not_mem_nil
      | some line => exact visible.2 line (List.mem_of_getElem? found)

/-- A key leaves visible lines only, if the typed character is visible. -/
theorem visible_press (visible : VisibleLines l) (typed : ∀ c, key = .typed c → Visible c) :
    VisibleLines (l.press key).2 := by
  cases key with
  | nothing => exact visible
  | tab => exact visible
  | other => exact visible
  | erase => exact ⟨fun c among => visible.1 c ((List.dropLast_sublist l.line).subset among), visible.2⟩
  | typed c =>
      rw [CommandLine.press]
      dsimp only
      split
      · refine ⟨?_, visible.2⟩
        intro d among
        rcases List.mem_append.mp among with before | last
        · exact visible.1 d before
        · rw [List.mem_singleton.mp last]
          exact typed c rfl
      · exact visible
  | return_ =>
      rw [CommandLine.press]
      dsimp only
      split
      · exact visible
      · refine ⟨fun c among => absurd among List.not_mem_nil, ?_⟩
        intro line among
        rcases List.mem_cons.mp among with rfl | before
        · exact visible.1
        · exact visible.2 line before
  | up =>
      rw [CommandLine.press]
      dsimp only
      split
      · exact ⟨visible_lineAt visible (l.place + 1), visible.2⟩
      · exact visible
  | down => exact ⟨visible_lineAt visible _, visible.2⟩

/-- What a key does to the line is drawn. -/
theorem OnScreen.pressed {s t : TtyConsole} {given : Option CString}
    (onScreen : OnScreen d s l.line outstanding)
    (ttyCon : s.ttyCon = .of l.line) (visible : VisibleLines l) (fits : FitsRow d l.line)
    (typed : ∀ c, key = .typed c → Visible c) (fits' : FitsRow d (l.press key).2.line)
    (called : s.pressed key = some (given, t)) (edited : t.ttyCon = .of (l.press key).2.line) :
    OnScreen d t (l.press key).2.line outstanding := by
  have kept := (visible_press visible typed).1
  cases key with
  | nothing =>
      cases called
      exact onScreen
  | other =>
      cases called
      exact onScreen
  | tab =>
      cases called
      obtain ⟨_, _, _, _, _, same⟩ := redrawn_hide s
      refine (onScreen.hidden ttyCon fits).shown ?_ visible.1 fits
      rw [same]
      exact ttyCon
  | erase =>
      obtain ⟨u, erased, same⟩ := Option.map_eq_some_iff.mp called
      cases same
      exact onScreen.eraseKey ttyCon fits erased
  | typed c =>
      obtain ⟨u, pushed, same⟩ := Option.map_eq_some_iff.mp called
      cases same
      have line : (l.press (.typed c)).2.line =
          if l.line.length < maxEditLine - 1 then l.line ++ [c] else l.line := by
        rw [CommandLine.press]
        dsimp only
        split <;> rfl
      rw [line] at fits' ⊢
      exact onScreen.pushKey ttyCon (typed c rfl) fits' pushed
  | return_ =>
      obtain ⟨⟨text, u⟩, returned, same⟩ := Option.map_eq_some_iff.mp called
      cases same
      have line : (l.press .return_).2.line = [] := by
        rw [CommandLine.press]
        dsimp only
        split
        case isTrue empty => exact empty
        case isFalse => rfl
      rw [line]
      exact onScreen.returnKey fits returned
  | up =>
      obtain ⟨u, moved, same⟩ := Option.map_eq_some_iff.mp called
      cases same
      exact onScreen.upKey ttyCon fits kept fits' moved edited
  | down =>
      obtain ⟨u, moved, same⟩ := Option.map_eq_some_iff.mp called
      cases same
      exact onScreen.downKey ttyCon fits kept fits' moved edited

/-- If the lines always fit, the one at the start does. -/
theorem AlwaysFits.now {m : CommandLine × List CString} {actions : List TtyAction}
    (fits : AlwaysFits d ttyErase m actions) : FitsRow d m.1.line := by
  cases actions with
  | nil => exact fits
  | cons action actions => exact fits.1

/-- One step of the session. -/
theorem onScreen_step {s : TtySession} {given : List CString} {action : TtyAction}
    (edits : Edits ttyErase s.console l) (same : s.given = given) (visible : VisibleLines l)
    (onScreen : OnScreen d s.console l.line outstanding) (plain : action.Plain) (fits : FitsRow d l.line)
    (fits' : FitsRow d (CommandLine.act ttyErase (l, given) action).1.line) :
    ∃ t, s.step action = some t ∧
      Edits ttyErase t.console (CommandLine.act ttyErase (l, given) action).1 ∧
      t.given = (CommandLine.act ttyErase (l, given) action).2 ∧
      VisibleLines (CommandLine.act ttyErase (l, given) action).1 ∧
      OnScreen d t.console (CommandLine.act ttyErase (l, given) action).1.line
        (action.outstanding outstanding) := by
  obtain ⟨t, stepped, edited, given'⟩ := session_step edits same action
  refine ⟨t, stepped, edited, given', ?_⟩
  cases action with
  | input reads =>
      obtain ⟨⟨line, console⟩, called, rfl⟩ := Option.map_eq_some_iff.mp stepped
      rw [input_eq_pressed, edits.erase] at called
      have typed (c : Char) (key : keyOf ttyErase reads = .typed c) : Visible c := visible_typed plain key
      exact ⟨visible_press visible typed,
        onScreen.pressed edits.ttyCon visible fits typed fits' called edited.ttyCon⟩
  | print call =>
      obtain ⟨console, printed, rfl⟩ := Option.map_eq_some_iff.mp stepped
      exact ⟨visible, onScreen.print edits.ttyCon visible.1 fits edits.free plain printed⟩
  | sigCont => exact absurd plain not_false

/-- A whole session. -/
theorem onScreen_run {s : TtySession} {given : List CString} {actions : List TtyAction}
    (edits : Edits ttyErase s.console l) (same : s.given = given) (visible : VisibleLines l)
    (onScreen : OnScreen d s.console l.line outstanding) (plain : ∀ action ∈ actions, action.Plain)
    (fits : AlwaysFits d ttyErase (l, given) actions) :
    ∃ t, run TtySession.step s actions = some t ∧
      OnScreen d t.console (actions.foldl (CommandLine.act ttyErase) (l, given)).1.line
        (actions.foldl TtyAction.outstanding outstanding) := by
  induction actions generalizing s l given outstanding with
  | nil => exact ⟨s, rfl, onScreen⟩
  | cons action actions inductionHypothesis =>
      obtain ⟨now, later⟩ := fits
      obtain ⟨u, stepped, edited, given', kept, drawn⟩ :=
        onScreen_step edits same visible onScreen (plain action List.mem_cons_self) now later.now
      obtain ⟨t, ran, atEnd⟩ := inductionHypothesis edited given' kept drawn
        (fun other among => plain other (List.mem_cons_of_mem action among)) later
      exact ⟨t, run_cons_eq_some.mpr ⟨u, stepped, ran⟩, atEnd⟩

end Runs

/-- A new console shows its prompt. -/
theorem onScreen_new (d : Display) (ttyErase : Fin 256) (memory : Vector Field qconsoleHistory)
    (fits : FitsRow d []) : OnScreen d (.new ttyErase memory) [] 0 := by
  unfold TtyConsole.new TtyConsole.init
  apply Away.shown
  · exact ⟨rfl, rfl, rfl, fun _ => shows_fresh⟩
  · exact Field.of_nil.symm
  · exact fun _ among => absurd among List.not_mem_nil
  · exact fits

/-- Whatever bytes are typed and whatever is printed in between, on a terminal
of any width and of any way to go on to the next row: every call returns, and
whenever no print is outstanding the operator sees the prompt and the line that
is edited, with the cursor behind it, as long as both have always fit one row. -/
theorem screen_shows_line (d : Display) (ttyErase : Fin 256) (memory : Vector Field qconsoleHistory)
    {actions : List TtyAction} (plain : ∀ action ∈ actions, action.Plain)
    (fits : AlwaysFits d ttyErase.val (.start, []) actions) :
    ∃ t, run TtySession.step { console := .new ttyErase memory, given := [] } actions = some t ∧
      (actions.foldl TtyAction.outstanding 0 = 0 →
        Shows (t.console.screen d)
          (ttyConsolePrompt ++ (actions.foldl (CommandLine.act ttyErase.val) (.start, [])).1.line)) := by
  have start : Edits ttyErase.val ({ console := .new ttyErase memory, given := [] } : TtySession).console
      .start :=
    edits_new ttyErase memory
  have visible : VisibleLines .start :=
    ⟨fun _ among => absurd among List.not_mem_nil, fun _ among => absurd among List.not_mem_nil⟩
  obtain ⟨t, ran, onScreen⟩ := onScreen_run start rfl visible (onScreen_new d ttyErase memory fits.now)
      plain fits
  exact ⟨t, ran, onScreen.shown⟩

/-- An operator mistypes a letter, and a line is printed meanwhile. -/
def mistyped : List TtyAction :=
  [.input [some 'a'], .input [some '\x7f'], .print (.print "%s\n".toList "hi\n".toList (by decide)),
    .input [some 'x']]

theorem mistyped_plain : ∀ action ∈ mistyped, action.Plain := by
  have letter (c : Char) (fine : c ≠ nul ∧ c.toNat < 256) : (TtyAction.input [some c]).Plain := by
    rintro e ⟨⟩
    exact fine
  have printed : (TtyAction.print (.print "%s\n".toList "hi\n".toList (by decide))).Plain :=
    ⟨⟨[.str "hi".toList], rfl⟩, by decide, fun _ => by decide⟩
  intro action among
  simp only [mistyped, List.mem_cons, List.not_mem_nil, or_false] at among
  rcases among with rfl | rfl | rfl | rfl
  · exact letter 'a' (by decide)
  · exact letter '\x7f' (by decide)
  · exact printed
  · exact letter 'x' (by decide)

/-- On 80 columns. -/
theorem mistyped_fits : AlwaysFits (.eager 80) 127 (.start, []) mistyped :=
  have start : FitsRow (.eager 80) [] := by decide
  have letter : FitsRow (.eager 80) ['a'] := by decide
  have other : FitsRow (.eager 80) ['x'] := by decide
  ⟨start, letter, start, start, other⟩

theorem screen_shows_line_mistyped : ∃ t,
    run TtySession.step { console := .new 127 (.replicate _ .clear), given := [] } mistyped = some t ∧
      Shows (t.console.screen (.eager 80)) "> x".toList := by
  obtain ⟨t, ran, shown⟩ := screen_shows_line (.eager 80) 127 (.replicate _ .clear)
      mistyped_plain mistyped_fits
  have line : ttyConsolePrompt ++ (mistyped.foldl (CommandLine.act 127) (.start, [])).1.line
      = "> x".toList := by
    decide +kernel
  exact ⟨t, ran, line ▸ shown (by decide)⟩

end Q3df.Server
