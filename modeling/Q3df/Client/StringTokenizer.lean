/-
Module: Q3df.Client.StringTokenizer
Layer: Client
Purpose: `StringTokenizer`, which cuts a text into at most 1024 tokens, and `atoi`, which reads a
  number at the front of one. The tokenizer reads its own copy of the text, 8192 bytes of `strncpy`,
  which a longer text leaves without a terminator; what it then reads behind the copy is nowhere
  defined.
Imports: Mathlib.Data.Int.Notation, Q3df.Client.Q3User
Trusted boundary: human-reviewed transcription of client/StringTokenizer.h, where `char` is signed;
  `atoi` as the C libraries of a 32-bit system document it
Main exports: signedChar, strncpy, skipBlanks, copyQuoted, copyRegular, StringTokenizer,
  leadingNumber, atoi, new_isSome_of_fits
Open obligations: none
-/
import Mathlib.Data.Int.Notation
import Q3df.Client.Q3User

namespace Q3df.Client

/-- The terminator of a C string. -/
def nul : Char := '\x00'

/-- A byte as the signed `char` it is compared as. -/
def signedChar (c : Char) : Int := if c.toNat < 128 then c.toNat else c.toNat - 256

/-- `strncpy`: the `num` bytes of the destination. -/
def strncpy (src : CString) (num : Nat) : List Char := (src ++ List.replicate num nul).take num

/-- `MAX_STRING_TOKENS`. -/
def maxStringTokens : Nat := 1024

/-- `BIG_INFO_STRING`, the size of `cmd_cmd`. -/
def cmdCmdSize : Nat := 8192

/-- Where the inner loop ends: all tokens are parsed, or one starts here. -/
inductive TokenStart where
  | parsed
  | ready (text : List Char)
deriving DecidableEq

mutual

/-- The inner `while ( 1 )`: skip whitespace and comments. As everywhere below,
the argument is what is left of `cmd_cmd`, and a read behind it gives `none`. -/
def skipBlanks : List Char → Option TokenStart
  | [] => none
  | c :: text =>
      if c = nul then some .parsed
      else if signedChar c ≤ 32 then skipBlanks text
      else if c = '/' ∧ text.head? = some '/' then some .parsed
      else if c = '/' ∧ text.head? = some '*' then skipComment text
      else some (.ready (c :: text))
termination_by structural text => text

/-- The loop over a comment, from its star on. -/
def skipComment : List Char → Option TokenStart
  | [] => none
  | [c] => if c = nul then some .parsed else none
  | c :: d :: text =>
      if c = nul then some .parsed
      else if c = '*' ∧ d = '/' then skipBlanks text
      else skipComment (d :: text)
termination_by structural text => text

end

/-- The copy loop of a quoted string: the token, and the text behind its closing
quote, if there is one. -/
def copyQuoted : List Char → Option (CString × Option (List Char))
  | [] => none
  | c :: text =>
      if c = nul then some ([], none)
      else if c = '"' then some ([], some text)
      else (copyQuoted text).map fun copied => (c :: copied.1, copied.2)

/-- The copy loop of a regular token: up to whitespace, a quote or a comment. -/
def copyRegular (ignoreQuotes : Bool) : List Char → Option (CString × List Char)
  | [] => none
  | c :: text =>
      if signedChar c > 32 ∧ ¬ (ignoreQuotes = false ∧ c = '"') ∧
          ¬ (c = '/' ∧ (text.head? = some '/' ∨ text.head? = some '*')) then
        (copyRegular ignoreQuotes text).map fun copied => (c :: copied.1, copied.2)
      else some ([], c :: text)

/-- The outer `while ( 1 )`, with `room` free entries of `cmd_argv`. -/
def tokenize (ignoreQuotes : Bool) : Nat → List CString → List Char → Option (List CString)
  | 0, argv, _ => some argv
  | room + 1, argv, text =>
      match skipBlanks text with
      | none => none
      | some .parsed => some argv
      | some (.ready text) =>
          if ignoreQuotes = false ∧ text.head? = some '"' then
            match copyQuoted text.tail with
            | none => none
            | some (token, none) => some (argv ++ [token])
            | some (token, some text) => tokenize ignoreQuotes room (argv ++ [token]) text
          else
            match copyRegular ignoreQuotes text with
            | none => none
            | some (token, text) =>
                if text.head? = some nul then some (argv ++ [token])
                else tokenize ignoreQuotes room (argv ++ [token]) text

/-- `StringTokenizer`: the tokens of its source string. -/
structure StringTokenizer where
  cmdArgv : List CString
deriving DecidableEq

namespace StringTokenizer

/-- The constructor; `none` where it reads behind its copy of the text. -/
def new (src : CString) (ignoreQuotes : Bool) : Option StringTokenizer :=
  (tokenize ignoreQuotes maxStringTokens [] (strncpy src cmdCmdSize)).map fun argv => { cmdArgv := argv }

/-- `Argc`. -/
def argc (tokenizer : StringTokenizer) : Nat := tokenizer.cmdArgv.length

/-- `Argv`: the empty string for an index out of range. -/
def argv (tokenizer : StringTokenizer) (index : Nat) : CString :=
  if index ≥ tokenizer.argc then [] else tokenizer.cmdArgv.getD index []

end StringTokenizer

/-!
### Numbers

`atoi` skips blanks and reads a sign and digits, up to the first other character. The tokens of a
record are read with it.
-/

/-- `isspace` of the C locale. -/
def isSpace (c : Char) : Bool := c = ' ' || (9 ≤ c.toNat && c.toNat ≤ 13)

/-- The digits at the front of a text, as a number; `none` if there is no digit. -/
def leadingDigits (text : CString) : Option Nat :=
  match text.takeWhile Char.isDigit with
  | [] => none
  | digits => some (digits.foldl (fun value c => 10 * value + (c.toNat - '0'.toNat)) 0)

/-- The number `strtol` finds at the front of a text: blanks, a sign, digits. -/
def leadingNumber (text : CString) : Option Int :=
  match text.dropWhile isSpace with
  | '-' :: digits => (leadingDigits digits).map fun value => -(value : Int)
  | '+' :: digits => (leadingDigits digits).map fun value => (value : Int)
  | digits => (leadingDigits digits).map fun value => (value : Int)

/-- `atoi`: `strtol`, which stops at the ends of `long`. -/
def atoi (text : CString) : Int :=
  max (-2147483648) (min 2147483647 ((leadingNumber text).getD 0))

/-- Within the range of an int `atoi` is the number the text begins with. -/
theorem atoi_of_leadingNumber {text : CString} {value : Int} (reads : leadingNumber text = some value)
    (inRange : -2147483648 ≤ value ∧ value ≤ 2147483647) : atoi text = value := by
  rw [atoi, reads, Option.getD_some]
  omega

/-!
### A text that fits

A text shorter than the copy is terminated in it, and no loop goes past a terminator.
-/

section Terminated

variable {text : List Char} {ignoreQuotes : Bool}

theorem nul_mem_strncpy {src : CString} {num : Nat} (fits : src.length < num) :
    nul ∈ strncpy src num := by
  rw [strncpy, List.take_append]
  apply List.mem_append_right
  rw [List.take_replicate]
  apply List.mem_replicate.mpr
  exact ⟨by omega, rfl⟩

/-- The inner loop ends, with the terminator still ahead where a token starts. -/
theorem skipBlanks_skipComment_ends (length : Nat) (text : List Char) (bounded : text.length ≤ length)
    (terminated : nul ∈ text) :
    (∃ start, skipBlanks text = some start ∧ ∀ rest, start = .ready rest → nul ∈ rest) ∧
      ∃ start, skipComment text = some start ∧ ∀ rest, start = .ready rest → nul ∈ rest := by
  have parsed : ∀ rest, TokenStart.parsed = .ready rest → nul ∈ rest := by
    intro rest
    rintro ⟨⟩
  induction length generalizing text with
  | zero =>
      rw [List.length_eq_zero_iff.mp (Nat.le_zero.mp bounded)] at terminated
      cases terminated
  | succ length inductionHypothesis =>
      cases text with
      | nil => cases terminated
      | cons c text =>
          by_cases ends : c = nul
          · refine ⟨⟨.parsed, by rw [skipBlanks, if_pos ends], parsed⟩, .parsed, ?_, parsed⟩
            cases text <;> rw [skipComment, if_pos ends]
          · have ahead : nul ∈ text := (List.mem_cons.mp terminated).resolve_left (Ne.symm ends)
            have shorter : text.length ≤ length := Nat.le_of_succ_le_succ bounded
            obtain ⟨blanks, comment⟩ := inductionHypothesis text shorter ahead
            constructor
            · rw [skipBlanks, if_neg ends]
              split
              · exact blanks
              · split
                · exact ⟨.parsed, rfl, parsed⟩
                · split
                  · exact comment
                  · refine ⟨.ready (c :: text), rfl, ?_⟩
                    intro rest same
                    cases same
                    exact terminated
            · cases text with
              | nil => cases ahead
              | cons d text =>
                  rw [skipComment, if_neg ends]
                  split
                  case isTrue closes =>
                    have beyond : nul ∈ text := by
                      rcases List.mem_cons.mp ahead with same | later
                      · rw [closes.2] at same
                        exact absurd same (by decide)
                      · exact later
                    have bound : text.length ≤ length := Nat.le_of_succ_le shorter
                    exact (inductionHypothesis text bound beyond).1
                  case isFalse => exact comment

/-- A quoted token ends at its quote, or at the terminator. -/
theorem copyQuoted_ends (terminated : nul ∈ text) :
    ∃ token rest, copyQuoted text = some (token, rest) ∧ ∀ text, rest = some text → nul ∈ text := by
  induction text with
  | nil => cases terminated
  | cons c text inductionHypothesis =>
      rw [copyQuoted]
      split
      case isTrue => exact ⟨[], none, rfl, by simp⟩
      case isFalse notNul =>
        have ahead : nul ∈ text := (List.mem_cons.mp terminated).resolve_left (Ne.symm notNul)
        split
        · exact ⟨[], some text, rfl, by simpa using ahead⟩
        · obtain ⟨token, rest, copied, terminated⟩ := inductionHypothesis ahead
          exact ⟨c :: token, rest, by rw [copied]; rfl, terminated⟩

/-- A bare token ends in front of a terminator at the latest. -/
theorem copyRegular_ends (terminated : nul ∈ text) :
    ∃ token rest, copyRegular ignoreQuotes text = some (token, rest) ∧ nul ∈ rest := by
  induction text with
  | nil => cases terminated
  | cons c text inductionHypothesis =>
      rw [copyRegular]
      split
      case isTrue copies =>
        have notNul : c ≠ nul := by
          rintro rfl
          exact absurd copies.1 (by decide)
        have ahead : nul ∈ text := (List.mem_cons.mp terminated).resolve_left (Ne.symm notNul)
        obtain ⟨token, rest, copied, terminated⟩ := inductionHypothesis ahead
        exact ⟨c :: token, rest, by rw [copied]; rfl, terminated⟩
      case isFalse => exact ⟨[], c :: text, rfl, terminated⟩

/-- The scan of a terminated text comes to an end. -/
theorem tokenize_isSome (room : Nat) (argv : List CString) (terminated : nul ∈ text) :
    (tokenize ignoreQuotes room argv text).isSome := by
  induction room generalizing argv text with
  | zero => rfl
  | succ room inductionHypothesis =>
      obtain ⟨start, skipped, ahead⟩ :=
        (skipBlanks_skipComment_ends text.length text (Nat.le_refl _) terminated).1
      rw [tokenize, skipped]
      cases start with
      | parsed => rfl
      | ready text =>
          have ahead : nul ∈ text := ahead text rfl
          dsimp only
          split
          case isTrue quoted =>
            have behindQuote : nul ∈ text.tail := by
              obtain ⟨rest, rfl⟩ := List.head?_eq_some_iff.mp quoted.2
              exact (List.mem_cons.mp ahead).resolve_left (by decide)
            obtain ⟨token, rest, copied, ahead⟩ := copyQuoted_ends behindQuote
            rw [copied]
            cases rest with
            | none => rfl
            | some text => exact inductionHypothesis _ (ahead text rfl)
          case isFalse =>
            obtain ⟨token, rest, copied, ahead⟩ := @copyRegular_ends _ ignoreQuotes ahead
            rw [copied]
            dsimp only
            split
            · rfl
            · exact inductionHypothesis _ ahead

/-- A text that fits into the copy is tokenized. -/
theorem new_isSome_of_fits {src : CString} (fits : src.length < cmdCmdSize) :
    (StringTokenizer.new src ignoreQuotes).isSome := by
  rw [StringTokenizer.new, Option.isSome_map]
  exact tokenize_isSome _ _ (nul_mem_strncpy fits)

end Terminated

example : (StringTokenizer.new "ClientTimerStop: 3 \"a b\" // c".toList false).map (·.cmdArgv) =
    some ["ClientTimerStop:".toList, "3".toList, "a b".toList] := by
  decide +kernel

end Q3df.Client
