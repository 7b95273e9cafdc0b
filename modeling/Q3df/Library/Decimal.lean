/-
Module: Q3df.Library.Decimal
Layer: Library
Purpose: Decimal numbers as `printf` writes them with a precision, the formats made of such
  directives, and the value of a text of digits. What is printed of a natural number is read back;
  how long it is depends on the precision and the number of digits.
Imports: Mathlib.Data.Int.Notation
Trusted boundary: human-reviewed spec of the directives %d and %.Nd, for a single digit N
Main exports: decimal, formatDecimals, IsNumeral, value, readNumeral, value_decimal,
  isNumeral_decimal, length_decimal_one, length_decimal_of_le, readNumeral_decimal,
  formatDecimals_plain_append
Open obligations: none
-/
import Mathlib.Data.Int.Notation

namespace Q3df.Decimal

/-- What `%d` with a precision writes: a minus sign if there is need for one,
and at least that many digits. The precision of `%d` itself is 1. -/
def decimal (precision : Nat) (n : Int) : List Char :=
  (if n < 0 then ['-'] else []) ++ (Nat.toDigits 10 n.natAbs).leftpad precision '0'

/-- The text of a format that has no directives but `%d` and `%.Nd`; `none` for
another one, or if there is no argument left for it. -/
def formatDecimals : List Char → List Int → Option (List Char)
  | [], _ => some []
  | c :: fmt, args =>
      if c = '%' then
        match fmt, args with
        | 'd' :: fmt, n :: args => (formatDecimals fmt args).map (decimal 1 n ++ ·)
        | '.' :: precision :: 'd' :: fmt, n :: args =>
            (formatDecimals fmt args).map (decimal (precision.toNat - '0'.toNat) n ++ ·)
        | _, _ => none
      else (formatDecimals fmt args).map (c :: ·)

/-- One digit or more, and nothing else. -/
def IsNumeral (text : List Char) : Prop := text ≠ [] ∧ ∀ c ∈ text, c.isDigit

instance (text : List Char) : Decidable (IsNumeral text) :=
  @instDecidableAnd (text ≠ []) (∀ c ∈ text, c.isDigit) inferInstance (List.decidableBAll _ _)

/-- The number a text of digits denotes. -/
def value (text : List Char) : Nat := Nat.ofDigitChars 10 text 0

/-- Read a number; `none` if there is anything but digits. -/
def readNumeral (text : List Char) : Option Nat := if IsNumeral text then some (value text) else none

section Formats

variable {fmt plain : List Char} {args : List Int} {c : Char}

theorem formatDecimals_cons_of_ne (other : c ≠ '%') :
    formatDecimals (c :: fmt) args = (formatDecimals fmt args).map (c :: ·) := by
  rw [formatDecimals.eq_def]
  exact if_neg other

/-- `%d` takes the next argument and writes it with at least one digit. -/
theorem formatDecimals_d (n : Int) : formatDecimals ('%' :: 'd' :: fmt) (n :: args) =
    (formatDecimals fmt args).map (decimal 1 n ++ ·) := by
  rw [formatDecimals.eq_def]
  exact if_pos rfl

/-- `%.nd` takes the next argument and writes it with at least `n` digits. -/
theorem formatDecimals_precision {num : Nat} (digit : c.toNat - '0'.toNat = num) (n : Int) :
    formatDecimals ('%' :: '.' :: c :: 'd' :: fmt) (n :: args) =
      (formatDecimals fmt args).map (decimal num n ++ ·) := by
  rw [formatDecimals.eq_def, ← digit]
  exact if_pos rfl

/-- Characters that are no percent sign are copied. -/
theorem formatDecimals_plain_append (clean : '%' ∉ plain) :
    formatDecimals (plain ++ fmt) args = (formatDecimals fmt args).map (plain ++ ·) := by
  induction plain with
  | nil => cases found : formatDecimals fmt args <;> simp [found]
  | cons c plain inductionHypothesis =>
      obtain ⟨other, inner⟩ := List.ne_and_not_mem_of_not_mem_cons clean
      rw [List.cons_append, formatDecimals_cons_of_ne (Ne.symm other), inductionHypothesis inner,
        Option.map_map]
      rfl

end Formats

section Decimal

variable {precision n : Nat} {text : List Char} {c : Char}

/-- The text of a natural number is its digits, filled up with zeros on the left. -/
theorem decimal_natCast (precision n : Nat) :
    decimal precision n = (Nat.toDigits 10 n).leftpad precision '0' := by
  rw [decimal, if_neg (by omega), Int.natAbs_natCast, List.nil_append]

theorem isNumeral_toDigits (n : Nat) : IsNumeral (Nat.toDigits 10 n) :=
  ⟨Nat.toDigits_ne_nil, fun _ => Nat.isDigit_of_mem_toDigits (by decide) (by decide)⟩

/-- The text of a natural number is made of digits only. -/
theorem isNumeral_decimal (precision n : Nat) : IsNumeral (decimal precision n) := by
  rw [decimal_natCast, List.leftpad]
  refine ⟨?_, ?_⟩
  · intro nothing
    exact Nat.toDigits_ne_nil (List.append_eq_nil_iff.mp nothing).2
  · intro c listed
    rcases List.mem_append.mp listed with padding | digit
    · rw [List.eq_of_mem_replicate padding]
      rfl
    · exact (isNumeral_toDigits n).2 c digit

/-- The padding does not change the number. -/
theorem value_decimal (precision n : Nat) : value (decimal precision n) = n := by
  rw [decimal_natCast, List.leftpad, value, Nat.ofDigitChars_append, Nat.ofDigitChars_replicate_zero,
    Nat.mul_zero]
  exact Nat.ofDigitChars_ten_toDigits

/-- What was written is read back. -/
theorem readNumeral_decimal (precision n : Nat) : readNumeral (decimal precision n) = some n := by
  rw [readNumeral, if_pos (isNumeral_decimal precision n), value_decimal]

/-- The text has the digits of the number, or as many as the precision asks for. -/
theorem length_decimal (precision n : Nat) :
    (decimal precision n).length = max precision (Nat.toDigits 10 n).length := by
  rw [decimal_natCast, List.length_leftpad]

theorem length_decimal_one (n : Nat) : (decimal 1 n).length = (Nat.toDigits 10 n).length := by
  rw [length_decimal]
  exact Nat.max_eq_right Nat.length_toDigits_pos

/-- A number with no more digits than the precision is written with exactly as
many. -/
theorem length_decimal_of_le (short : (Nat.toDigits 10 n).length ≤ precision) :
    (decimal precision n).length = precision := by
  rw [length_decimal]
  exact Nat.max_eq_left short

/-- One more digit for each factor of ten. -/
theorem length_toDigits (n : Nat) : (Nat.toDigits 10 n).length =
    if n < 10 then 1 else (Nat.toDigits 10 (n / 10)).length + 1 := by
  rw [Nat.toDigits_eq_if (by decide)]
  split
  · rfl
  · rw [List.length_append, List.length_singleton]

/-- A character that is no digit does not occur in a numeral. -/
theorem colon_notMem (numeral : IsNumeral text) (other : c.isDigit = false) : c ∉ text := by
  intro listed
  have digit := numeral.2 c listed
  rw [other] at digit
  cases digit

end Decimal

example : formatDecimals "-%d:%.2d:%.3d".toList [1, 5, 70] = some "-1:05:070".toList := by
  decide +kernel

end Q3df.Decimal
