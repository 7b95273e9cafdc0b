/-
Module: Q3df.Library.Printf
Layer: Library
Purpose: The printf family on its plain directives, into a buffer of fixed size. A directive that
  the standard leaves undefined, because its argument is missing or of another type or because it is
  no directive, is a fault, and so is a text that does not fit the buffer. A text without percent
  sign is copied; without arguments every percent sign costs at least one character or is a fault.
Imports: Mathlib.Data.Int.Notation, Mathlib.Data.List.Basic, Mathlib.Data.List.Induction
Trusted boundary: human-reviewed spec of the directives %s, %i, %d and %%, without flags, width and
  precision
Main exports: Arg, Fault, format, sprintf, format_plain_append, format_of_plain, format_around,
  format_noArgs_length, format_noArgs_eq_ok_iff, format_getLast_newline, percent_notMem_int,
  sprintf_of_format, sprintf_eq_ok
Open obligations: none
-/
import Mathlib.Data.Int.Notation
import Mathlib.Data.List.Basic
import Mathlib.Data.List.Induction

namespace Q3df.Printf

/-- An argument after the format. -/
inductive Arg where
  | str (s : List Char)
  | int (n : Int)
deriving Repr, DecidableEq

/-- How a call goes wrong: an undefined directive, or a write past the buffer. -/
inductive Fault where
  | directive
  | overflow
deriving Repr, DecidableEq

/-- What the directive with this letter writes, and the arguments it leaves. -/
def directive : Char → List Arg → Option (List Char × List Arg)
  | '%', args => some (['%'], args)
  | 's', .str s :: args => some (s, args)
  | 'i', .int n :: args => some ((toString n).toList, args)
  | 'd', .int n :: args => some ((toString n).toList, args)
  | _, _ => none

/-- The text a format spells with its arguments. -/
def format : List Char → List Arg → Except Fault (List Char)
  | [], _ => .ok []
  | c :: fmt, args =>
      if c = '%' then
        match fmt with
        | [] => .error .directive
        | letter :: fmt =>
            match directive letter args with
            | none => .error .directive
            | some (text, args) => (text ++ ·) <$> format fmt args
      else (c :: ·) <$> format fmt args

/-- `vsprintf` into a buffer of this size. The text is followed by a terminator. -/
def sprintf (size : Nat) (fmt : List Char) (args : List Arg) : Except Fault (List Char) :=
  match format fmt args with
  | .error fault => .error fault
  | .ok text => if text.length < size then .ok text else .error .overflow

variable {fmt plain text : List Char} {args : List Arg} {size : Nat}

@[simp] theorem format_nil : format [] args = .ok [] := rfl

/-- The part written so far is put before what the rest writes. -/
@[simp] theorem map_ok {f : List Char → List Char} : f <$> (.ok text : Except Fault (List Char)) =
    .ok (f text) := rfl

/-- A character that is no percent sign stands for itself. -/
theorem format_cons_of_ne {c : Char} (other : c ≠ '%') :
    format (c :: fmt) args = (c :: ·) <$> format fmt args := by
  rw [format.eq_def]
  exact if_neg other

/-- `%s` takes the next argument, which has to be a text. -/
theorem format_str {s : List Char} :
    format ('%' :: 's' :: fmt) (.str s :: args) = (s ++ ·) <$> format fmt args := rfl

/-- `%i` takes the next argument, which has to be a number. -/
theorem format_int {n : Int} :
    format ('%' :: 'i' :: fmt) (.int n :: args) = ((toString n).toList ++ ·) <$> format fmt args := rfl

/-- A part of the format without percent sign is copied. -/
theorem format_plain_append (clean : '%' ∉ plain) :
    format (plain ++ fmt) args = (plain ++ ·) <$> format fmt args := by
  induction plain with
  | nil => cases found : format fmt args <;> simp [found]
  | cons c plain inductionHypothesis =>
      rw [List.mem_cons, not_or] at clean
      rw [List.cons_append, format_cons_of_ne (Ne.symm clean.1), inductionHypothesis clean.2]
      cases format fmt args <;> rfl

/-- A format without percent sign is its own text, whatever the arguments. -/
theorem format_of_plain (clean : '%' ∉ plain) : format plain args = .ok plain := by
  have copied := @format_plain_append [] plain args clean
  rw [List.append_nil] at copied
  rw [copied, format.eq_def]
  simp

/-- A format with one string in it. -/
theorem format_around {behind s : List Char} (clean : '%' ∉ plain) (behindClean : '%' ∉ behind) :
    format (plain ++ '%' :: 's' :: behind) [.str s] = .ok (plain ++ (s ++ behind)) := by
  rw [format_plain_append clean, format_str, format_of_plain behindClean, map_ok, map_ok]

/-- A format succeeds behind a plain character exactly if its rest does. -/
theorem format_cons_eq_ok {c : Char} (other : c ≠ '%') :
    format (c :: fmt) args = .ok text ↔ ∃ rest, format fmt args = .ok rest ∧ text = c :: rest := by
  rw [format_cons_of_ne other]
  cases format fmt args with
  | error fault => simp
  | ok rest => simp [eq_comm]

/-- Without arguments the only directive is the doubled percent sign. -/
theorem format_noArgs_percent {letter : Char} (formatted : format ('%' :: letter :: fmt) [] = .ok text) :
    ∃ rest, format fmt [] = .ok rest ∧ text = '%' :: rest := by
  have doubled : letter = '%' := by
    by_contra other
    have undefined : directive letter [] = none := by
      unfold directive
      split <;> simp_all
    rw [format.eq_def] at formatted
    simp [undefined] at formatted
  subst doubled
  cases found : format fmt [] with
  | error fault =>
      rw [format.eq_def] at formatted
      simp [directive, found] at formatted
  | ok rest =>
      rw [format.eq_def] at formatted
      simp [directive, found] at formatted
      exact ⟨rest, rfl, formatted.symm⟩

/-- Without arguments the text is no longer than the format, and shorter if
there is a percent sign. -/
theorem format_noArgs_length (formatted : format fmt [] = .ok text) :
    text.length ≤ fmt.length ∧ ('%' ∈ fmt → text.length < fmt.length) := by
  induction fmt using List.twoStepInduction generalizing text with
  | nil =>
      cases formatted
      exact ⟨Nat.le_refl 0, fun impossible => absurd impossible List.not_mem_nil⟩
  | singleton c =>
      by_cases percent : c = '%'
      · subst percent
        cases formatted
      · obtain ⟨rest, formattedRest, rfl⟩ := (format_cons_eq_ok percent).mp formatted
        cases formattedRest
        refine ⟨Nat.le_refl 1, ?_⟩
        intro inFormat
        exact absurd (List.mem_singleton.mp inFormat).symm percent
  | cons_cons c letter fmt restHypothesis tailHypothesis =>
      by_cases percent : c = '%'
      · subst percent
        obtain ⟨rest, formattedRest, rfl⟩ := format_noArgs_percent formatted
        have shorter := (restHypothesis formattedRest).1
        simp only [List.length_cons]
        omega
      · obtain ⟨rest, formattedRest, rfl⟩ := (format_cons_eq_ok percent).mp formatted
        have shorter := tailHypothesis letter formattedRest
        refine ⟨Nat.succ_le_succ shorter.1, ?_⟩
        intro inFormat
        rcases List.mem_cons.mp inFormat with isHead | inTail
        · exact absurd isHead.symm percent
        · exact Nat.succ_lt_succ (shorter.2 inTail)

/-- Without arguments a format is copied only if it has no percent sign; any
other text is shorter. -/
theorem format_noArgs_eq_ok_iff (long : fmt.length ≤ text.length) :
    format fmt [] = .ok text ↔ fmt = text ∧ '%' ∉ fmt := by
  constructor
  · intro formatted
    have clean : '%' ∉ fmt := by
      intro inFormat
      have shorter := (format_noArgs_length formatted).2 inFormat
      omega
    rw [format_of_plain clean, Except.ok.injEq] at formatted
    exact ⟨formatted, clean⟩
  · rintro ⟨rfl, clean⟩
    exact format_of_plain clean

/-- A format that ends its line spells a text that does. -/
theorem format_getLast_newline (formatted : format fmt args = .ok text) (ends : fmt.getLast? = some '\n') :
    text.getLast? = some '\n' := by
  -- what follows a written part is not empty, and so the part does not matter
  have behind {written rest : List Char} (last : rest.getLast? = some '\n') :
      (written ++ rest).getLast? = some '\n' := by
    rw [List.getLast?_append, last, Option.some_or]
  induction fmt using List.twoStepInduction generalizing text args with
  | nil => cases ends
  | singleton c =>
      cases ends
      cases formatted
      rfl
  | cons_cons c letter fmt restHypothesis tailHypothesis =>
      rw [List.getLast?_cons_cons] at ends
      by_cases percent : c = '%'
      · subst percent
        rw [format.eq_def] at formatted
        simp only [if_true] at formatted
        rcases found : directive letter args with _ | ⟨written, others⟩
        · rw [found] at formatted
          cases formatted
        · rw [found] at formatted
          dsimp only at formatted
          cases fmt with
          | nil =>
              -- no directive has this letter
              cases ends
              cases found
          | cons d fmt =>
              rw [List.getLast?_cons_cons] at ends
              cases formattedRest : format (d :: fmt) others with
              | error fault =>
                  rw [formattedRest] at formatted
                  cases formatted
              | ok rest =>
                  rw [formattedRest] at formatted
                  cases formatted
                  exact behind (restHypothesis formattedRest ends)
      · obtain ⟨rest, formattedRest, rfl⟩ := (format_cons_eq_ok percent).mp formatted
        exact @behind [c] rest (tailHypothesis letter formattedRest ends)

/-!
### The digits of a number

A number is written without percent signs, so that a text made of it is safe as
a format.
-/

theorem percent_notMem_nat (n : Nat) : '%' ∉ (toString n).toList := by
  intro inDigits
  rw [Nat.toString_eq_repr, Nat.toList_repr] at inDigits
  have digit := Nat.isDigit_of_mem_toDigits (by decide) (by decide) inDigits
  revert digit
  decide

theorem percent_notMem_int (n : Int) : '%' ∉ (toString n).toList := by
  rw [Int.toString_eq_repr]
  cases n with
  | ofNat n => exact percent_notMem_nat n
  | negSucc n =>
      rw [Int.repr, String.toList_append, List.mem_append, not_or]
      exact ⟨by decide, percent_notMem_nat (n + 1)⟩

/-- A text that is spelled fits the buffer or overruns it. -/
theorem sprintf_of_format (formatted : format fmt args = .ok text) :
    sprintf size fmt args = if text.length < size then .ok text else .error .overflow := by
  rw [sprintf, formatted]

/-- A buffer takes a text exactly if there is room for the terminator too. -/
theorem sprintf_eq_ok : sprintf size fmt args = .ok text ↔
    format fmt args = .ok text ∧ text.length < size := by
  rw [sprintf]
  cases formatted : format fmt args with
  | error fault => simp
  | ok written =>
      simp only [Except.ok.injEq]
      by_cases fits : written.length < size
      · simp only [if_pos fits, Except.ok.injEq]
        constructor
        · intro same
          exact ⟨same, same ▸ fits⟩
        · intro both
          exact both.1
      · simp only [if_neg fits, reduceCtorEq, false_iff]
        rintro ⟨rfl, fits'⟩
        exact fits fits'

end Q3df.Printf
