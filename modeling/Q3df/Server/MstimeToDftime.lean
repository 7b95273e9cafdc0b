/-
Module: Q3df.Server.MstimeToDftime
Layer: Server
Purpose: `CommandBase::MstimeToDftime`, which allocates the bytes it predicts for a time and then
  formats the time with one of twelve formats. Which times fit, and what the text says.
Imports: Mathlib.Data.Int.Notation, Q3df.Library.Decimal, Q3df.Library.Delimited
Trusted boundary: human-reviewed transcription of server/Commands.h, where `int` has 32 bits
Main exports: Dftime, digitLoop, dftimeLength, sprintfDftime, mstimeToDftime, Mstime, DftimeOpt,
  FitsMem, fitsMem_iff, DftimeShape, readDftime, dftime_denotes
Open obligations: none
-/
import Mathlib.Data.Int.Notation
import Q3df.Library.Decimal
import Q3df.Library.Delimited

namespace Q3df.Server

open Q3df.Decimal
open Q3df.Delimited

/-- The memory that is returned: its size, and what has been printed to it
without the terminator. -/
structure Dftime where
  size : Int
  text : Option (List Char)
deriving DecidableEq

/-- `while (i > 0) { i /= 10; len++; }`. -/
def digitLoop (i len : Int) : Int := if i > 0 then digitLoop (i.tdiv 10) (len + 1) else len
termination_by i.toNat
decreasing_by
  rw [Int.tdiv_eq_ediv_of_nonneg (by omega)]
  omega

/-- The characters that are predicted for the minutes and seconds. -/
def dftimeLength (a b : Int) : Int :=
  let len := digitLoop a 0
  let len := if a ≠ 0 then len + 1 else len
  let len := digitLoop b len
  let len := if b = 0 then (if a ≠ 0 then len + 1 + 1 else len + 1) else len
  len + 1 + 3

/-- The formats of one sign. -/
def sprintfDftime (sign : String) (a b c : Int) : Option (List Char) :=
  if a = 0 then
    if b = 0 then
      if c = 0 then formatDecimals (sign.toList ++ "0:000".toList) []
      else formatDecimals (sign.toList ++ "0:%.3d".toList) [c]
    else formatDecimals (sign.toList ++ "%d:%.3d".toList) [b, c]
  else formatDecimals (sign.toList ++ "%d:%.2d:%.3d".toList) [a, b, c]

/-- `MstimeToDftime`. The memory is allocated before `len` is incremented for a
sign. -/
def mstimeToDftime (mstime opt : Int) : Dftime :=
  let a := mstime.tdiv 60000
  let b := (mstime.tmod 60000).tdiv 1000
  let c := (mstime.tmod 60000).tmod 1000
  { size := dftimeLength a b + 1
    text :=
      if opt = 1 then sprintfDftime "-" a b c
      else if opt = 2 then sprintfDftime "+" a b c
      else if opt = 0 then sprintfDftime "" a b c
      else none }

/-- A time that is not negative, as an `int`. -/
abbrev Mstime := { mstime : Int // 0 ≤ mstime ∧ mstime ≤ 2147483647 }

/-- The options there are. -/
abbrev DftimeOpt := { opt : Int // opt = 0 ∨ opt = 1 ∨ opt = 2 }

/-- The text is printed, and fits the memory with its terminator. -/
def FitsMem (mstime opt : Int) : Prop :=
  ∃ text, (mstimeToDftime mstime opt).text = some text ∧
    (text.length + 1 : Int) ≤ (mstimeToDftime mstime opt).size

instance (mstime opt : Int) : Decidable (FitsMem mstime opt) :=
  match printed : (mstimeToDftime mstime opt).text with
  | none => isFalse (by
      rintro ⟨text, same, -⟩
      rw [printed] at same
      cases same)
  | some text =>
      decidable_of_iff ((text.length + 1 : Int) ≤ (mstimeToDftime mstime opt).size)
        (by simp [FitsMem, printed])

/-- The prefix of an option. -/
def dftimeSign (opt : Int) : List Char := if opt = 1 then ['-'] else if opt = 2 then ['+'] else []

/-- A sign, then `s:mmm` or `m:ss:mmm`, with three digits of milliseconds and,
behind minutes, two digits of seconds; the seconds are below 60. -/
inductive DftimeShape (sign : List Char) : List Char → Prop where
  | seconds {s mmm : List Char} (numeral : IsNumeral s) (below : value s < 60) (millis : IsNumeral mmm)
      (three : mmm.length = 3) : DftimeShape sign (sign ++ (s ++ ':' :: mmm))
  | minutes {m ss mmm : List Char} (numeral : IsNumeral m) (secs : IsNumeral ss) (two : ss.length = 2)
      (below : value ss < 60) (millis : IsNumeral mmm) (three : mmm.length = 3) :
      DftimeShape sign (sign ++ (m ++ ':' :: (ss ++ ':' :: mmm)))

/-- A text without the sign in front of it. -/
def withoutSign (text : List Char) : List Char :=
  if text.head? = some '-' ∨ text.head? = some '+' then text.tail else text

/-- Read a time back, field by field. -/
def readDftime (text : List Char) : Option Nat :=
  match (splitFrom ':' [] (withoutSign text)).map readNumeral with
  | [some s, some mmm] => some ((0 * 60 + s) * 1000 + mmm)
  | [some m, some s, some mmm] => some ((m * 60 + s) * 1000 + mmm)
  | _ => none

/-!
### Minutes, seconds and milliseconds

A time is written with minutes if there are any. The number of characters it
takes is compared with the number the caller has allocated.
-/

section Fields

variable {sign : String} {a b c n : Nat}

/-- The loop adds the number of digits, for zero none. -/
theorem digitLoop_natCast (n : Nat) (len : Int) :
    digitLoop n len = if n = 0 then len else len + (Nat.toDigits 10 n).length := by
  induction n using Nat.strongRecOn generalizing len with
  | ind n inductionHypothesis =>
      rw [digitLoop]
      by_cases zero : n = 0
      · rw [if_neg (by omega), if_pos zero]
      · have tenth : (n : Int).tdiv 10 = (n / 10 : Nat) := rfl
        rw [if_pos (by omega), if_neg zero, tenth, inductionHypothesis (n / 10) (by omega),
          length_toDigits n]
        by_cases digit : n < 10
        · rw [if_pos (by omega), if_pos digit]
          rfl
        · rw [if_neg (by omega), if_neg digit]
          omega

/-- What is predicted: the digits of the minutes and a colon, if there are
minutes, the digits of the seconds, and four more characters. -/
theorem dftimeLength_natCast (a b : Nat) : dftimeLength a b =
    (if a = 0 then 0 else (Nat.toDigits 10 a).length + 1) +
      (if b = 0 then (if a = 0 then 1 else 2) else (Nat.toDigits 10 b).length) + 4 := by
  rw [dftimeLength]
  simp only [digitLoop_natCast]
  by_cases minutes : a = 0 <;> by_cases seconds : b = 0 <;> simp [minutes, seconds] <;> omega

/-- The text in front of the milliseconds. -/
def dftimeFront (a b : Nat) : List Char :=
  if a = 0 then decimal 1 b else decimal 1 a ++ ':' :: decimal 2 b

theorem formatDecimals_nil : formatDecimals [] [] = some [] := rfl

theorem millis_format (c : Int) : formatDecimals ":%.3d".toList [c] = some (':' :: decimal 3 c) := by
  have letters : ":%.3d".toList = [':', '%', '.', '3', 'd'] := rfl
  rw [letters, formatDecimals_cons_of_ne (by decide), formatDecimals_precision (by decide : _ = 3),
    formatDecimals_nil, Option.map_some, Option.map_some, List.append_nil]

theorem seconds_format (b c : Int) :
    formatDecimals "%d:%.3d".toList [b, c] = some (decimal 1 b ++ ':' :: decimal 3 c) := by
  have letters : "%d:%.3d".toList = '%' :: 'd' :: ":%.3d".toList := rfl
  rw [letters, formatDecimals_d, millis_format, Option.map_some]

/-- A time with minutes is written with two and three digits behind them. -/
theorem minutes_format (a b c : Int) : formatDecimals "%d:%.2d:%.3d".toList [a, b, c] =
    some (decimal 1 a ++ ':' :: (decimal 2 b ++ ':' :: decimal 3 c)) := by
  have letters : "%d:%.2d:%.3d".toList =
      '%' :: 'd' :: ':' :: '%' :: '.' :: '2' :: 'd' :: ":%.3d".toList := rfl
  rw [letters, formatDecimals_d, formatDecimals_cons_of_ne (by decide),
    formatDecimals_precision (by decide : _ = 2), millis_format, Option.map_some, Option.map_some,
    Option.map_some]

/-- All formats spell the fields one after the other. -/
theorem sprintfDftime_natCast (clean : '%' ∉ sign.toList) (a b c : Nat) :
    sprintfDftime sign a b c = some (sign.toList ++ (dftimeFront a b ++ ':' :: decimal 3 c)) := by
  rw [sprintfDftime, dftimeFront]
  by_cases minutes : a = 0
  · rw [if_pos (by omega), if_pos minutes]
    by_cases seconds : b = 0
    · have zero : "0:%.3d".toList = '0' :: ":%.3d".toList := rfl
      rw [if_pos (by omega), seconds]
      by_cases millis : c = 0
      · have zeros : formatDecimals "0:000".toList [] = some (decimal 1 0 ++ ':' :: decimal 3 0) := by
          decide +kernel
        rw [if_pos (by omega), millis, formatDecimals_plain_append clean, zeros]
        rfl
      · rw [if_neg (by omega), formatDecimals_plain_append clean, zero,
          formatDecimals_cons_of_ne (by decide), millis_format]
        rfl
    · rw [if_neg (by omega), formatDecimals_plain_append clean, seconds_format, Option.map_some]
  · rw [if_neg (by omega), if_neg minutes, formatDecimals_plain_append clean, minutes_format,
      Option.map_some, List.append_assoc, List.cons_append]

/-- A time in whole minutes, seconds and milliseconds. -/
theorem mstimeToDftime_natCast (n : Nat) {opt : Int} (option : opt = 0 ∨ opt = 1 ∨ opt = 2) :
    mstimeToDftime n opt =
      { size := dftimeLength (n / 60000 : Nat) (n % 60000 / 1000 : Nat) + 1
        text := some (dftimeSign opt ++
          (dftimeFront (n / 60000) (n % 60000 / 1000) ++ ':' :: decimal 3 (n % 60000 % 1000 : Nat))) } := by
  have minutes : (n : Int).tdiv 60000 = (n / 60000 : Nat) := rfl
  have rest : (n : Int).tmod 60000 = (n % 60000 : Nat) := rfl
  have seconds : ((n % 60000 : Nat) : Int).tdiv 1000 = (n % 60000 / 1000 : Nat) := rfl
  have millis : ((n % 60000 : Nat) : Int).tmod 1000 = (n % 60000 % 1000 : Nat) := rfl
  rw [mstimeToDftime, minutes, rest, seconds, millis]
  rcases option with rfl | rfl | rfl
  · rw [if_neg (by decide), if_neg (by decide), if_pos rfl, sprintfDftime_natCast (by decide)]
    rfl
  · rw [if_pos rfl, sprintfDftime_natCast (by decide)]
    rfl
  · rw [if_neg (by decide), if_pos rfl, sprintfDftime_natCast (by decide)]
    rfl

/-- Seconds have one digit or two. -/
theorem length_seconds (below : b < 60) :
    (Nat.toDigits 10 b).length = if b < 10 then 1 else 2 := by
  rw [length_toDigits]
  split
  case isTrue => rfl
  case isFalse => rw [length_toDigits, if_pos (by omega)]

theorem length_two (below : b < 60) : (decimal 2 b).length = 2 := by
  apply length_decimal_of_le
  rw [length_seconds below]
  split <;> decide

theorem length_three (below : c < 1000) : (decimal 3 c).length = 3 := by
  apply length_decimal_of_le
  exact (Nat.length_toDigits_le_iff (by decide) (by decide)).mpr (by omega)

/-- The characters in front of the milliseconds. -/
theorem length_dftimeFront (below : b < 60) : (dftimeFront a b).length =
    if a = 0 then (Nat.toDigits 10 b).length else (Nat.toDigits 10 a).length + 3 := by
  rw [dftimeFront]
  split
  case isTrue => exact length_decimal_one b
  case isFalse =>
    rw [List.length_append, List.length_cons, length_two below, length_decimal_one]

/-- The sign takes one character, unless there is none. -/
theorem length_dftimeSign {opt : Int} (option : opt = 0 ∨ opt = 1 ∨ opt = 2) :
    (dftimeSign opt).length = if opt = 0 then 0 else 1 := by
  rcases option with rfl | rfl | rfl <;> decide

end Fields

/-- The memory is large enough exactly if the text is no longer than predicted. -/
theorem fitsMem_natCast (n : Nat) {opt : Int} (option : opt = 0 ∨ opt = 1 ∨ opt = 2) :
    FitsMem n opt ↔
      ((dftimeSign opt).length + ((dftimeFront (n / 60000) (n % 60000 / 1000)).length + 4) : Nat) ≤
        dftimeLength (n / 60000 : Nat) (n % 60000 / 1000 : Nat) := by
  have millis : n % 60000 % 1000 < 1000 := Nat.mod_lt _ (by decide)
  have long (sign front : List Char) :
      (sign ++ (front ++ ':' :: decimal 3 (n % 60000 % 1000 : Nat))).length =
        sign.length + (front.length + 4) := by
    rw [List.length_append, List.length_append, List.length_cons, length_three millis]
  rw [FitsMem, mstimeToDftime_natCast n option]
  constructor
  · rintro ⟨text, printed, fits⟩
    cases printed
    rw [long] at fits
    exact Int.le_of_add_le_add_right fits
  · intro fits
    refine ⟨_, rfl, ?_⟩
    rw [long]
    exact Int.add_le_add_right fits 1

/-- The text fits its memory exactly if it has no sign, and, behind minutes, no
digit of the seconds that is only there for the padding. -/
theorem fitsMem_iff (mstime : Mstime) (opt : DftimeOpt) : FitsMem mstime.val opt.val ↔
    opt.val = 0 ∧ (mstime.val < 60000 ∨ mstime.val % 60000 / 1000 = 0 ∨
      10 ≤ mstime.val % 60000 / 1000) := by
  obtain ⟨mstime, low, -⟩ := mstime
  obtain ⟨n, rfl⟩ := Int.eq_ofNat_of_zero_le low
  obtain ⟨opt, option⟩ := opt
  have below : n % 60000 / 1000 < 60 := by omega
  dsimp only
  rw [fitsMem_natCast n option, length_dftimeFront below, length_dftimeSign option, dftimeLength_natCast,
    length_seconds below]
  -- the sign, the minutes and the seconds decide between the lengths
  by_cases sign : opt = 0
  · rw [if_pos sign]
    by_cases minutes : n / 60000 = 0
    · rw [if_pos minutes, if_pos minutes, if_pos minutes]
      refine iff_of_true ?_ ⟨sign, .inl (by omega)⟩
      split <;> split <;> omega
    · rw [if_neg minutes, if_neg minutes, if_neg minutes]
      by_cases zero : n % 60000 / 1000 = 0
      · rw [if_pos zero]
        omega
      · rw [if_neg zero]
        split <;> omega
  · rw [if_neg sign]
    refine iff_of_false ?_ (fun both => sign both.1)
    by_cases minutes : n / 60000 = 0
    · rw [if_pos minutes, if_pos minutes, if_pos minutes]
      split <;> split <;> omega
    · rw [if_neg minutes, if_neg minutes, if_neg minutes]
      by_cases zero : n % 60000 / 1000 = 0
      · rw [if_pos zero]
        omega
      · rw [if_neg zero]
        split <;> omega

/-- For a minute and five seconds one character too few is predicted, and for
zero with a sign. -/
theorem minute_overflows : ¬ FitsMem 65000 0 ∧ ¬ FitsMem 0 1 := by
  constructor
  · intro fits
    have shorter := (fitsMem_natCast 65000 (.inl rfl)).mp fits
    rw [length_dftimeFront (by decide), dftimeLength_natCast, length_seconds (by decide)] at shorter
    revert shorter
    decide +kernel
  · intro fits
    have shorter := (fitsMem_natCast 0 (.inr (.inl rfl))).mp fits
    rw [length_dftimeFront (by decide), dftimeLength_natCast] at shorter
    revert shorter
    decide +kernel

/-!
### Reading a time back

Both shapes are read by cutting them at their colons.
-/

section Reading

variable {opt : Int} {m : List Char}

/-- A sign is taken off a text that starts with a digit. -/
theorem withoutSign_sign (option : opt = 0 ∨ opt = 1 ∨ opt = 2) (numeral : IsNumeral m)
    (rest : List Char) : withoutSign (dftimeSign opt ++ (m ++ rest)) = m ++ rest := by
  have unsigned : withoutSign (m ++ rest) = m ++ rest := by
    cases m with
    | nil => exact absurd rfl numeral.1
    | cons c m =>
        have digit := numeral.2 c List.mem_cons_self
        rw [withoutSign, if_neg]
        rintro (minus | plus)
        · rw [Option.some.inj minus] at digit
          cases digit
        · rw [Option.some.inj plus] at digit
          cases digit
  rcases option with rfl | rfl | rfl
  · exact unsigned
  · rfl
  · rfl

/-- A time without minutes is read back. -/
theorem readDftime_seconds (option : opt = 0 ∨ opt = 1 ∨ opt = 2) (b c : Nat) :
    readDftime (dftimeSign opt ++ (decimal 1 b ++ ':' :: decimal 3 c)) = some (b * 1000 + c) := by
  have first := isNumeral_decimal 1 b
  have last := isNumeral_decimal 3 c
  rw [readDftime, withoutSign_sign option first, splitFrom_part (colon_notMem first rfl),
    splitFrom_lastPart (colon_notMem last rfl), if_neg last.1, List.map_cons, List.map_cons, List.map_nil,
    readNumeral_decimal, readNumeral_decimal]
  dsimp only
  rw [Nat.zero_mul, Nat.zero_add]

/-- A time with minutes is read back. -/
theorem readDftime_minutes (option : opt = 0 ∨ opt = 1 ∨ opt = 2) (a b c : Nat) :
    readDftime (dftimeSign opt ++ (decimal 1 a ++ ':' :: (decimal 2 b ++ ':' :: decimal 3 c))) =
      some ((a * 60 + b) * 1000 + c) := by
  have first := isNumeral_decimal 1 a
  have second := isNumeral_decimal 2 b
  have last := isNumeral_decimal 3 c
  rw [readDftime, withoutSign_sign option first, splitFrom_part (colon_notMem first rfl),
    splitFrom_part (colon_notMem second rfl), splitFrom_lastPart (colon_notMem last rfl), if_neg last.1,
    List.map_cons, List.map_cons, List.map_cons, List.map_nil, readNumeral_decimal, readNumeral_decimal,
    readNumeral_decimal]

end Reading

/-- The text of a time has the shape, and is read back as the time. -/
theorem dftime_read (mstime : Mstime) (opt : DftimeOpt) :
    ∃ text, (mstimeToDftime mstime.val opt.val).text = some text ∧
      DftimeShape (dftimeSign opt.val) text ∧ readDftime text = some mstime.val.toNat := by
  obtain ⟨mstime, low, -⟩ := mstime
  obtain ⟨n, rfl⟩ := Int.eq_ofNat_of_zero_le low
  obtain ⟨opt, option⟩ := opt
  have below : n % 60000 / 1000 < 60 := by omega
  have millis : n % 60000 % 1000 < 1000 := Nat.mod_lt _ (by decide)
  dsimp only
  rw [mstimeToDftime_natCast n option, Int.toNat_natCast]
  refine ⟨_, rfl, ?_⟩
  rw [dftimeFront]
  by_cases minutes : n / 60000 = 0
  · rw [if_pos minutes, readDftime_seconds option]
    constructor
    · apply DftimeShape.seconds (isNumeral_decimal 1 _) _ (isNumeral_decimal 3 _) (length_three millis)
      rwa [value_decimal]
    · apply congrArg some
      omega
  · rw [if_neg minutes, List.append_assoc, List.cons_append, readDftime_minutes option]
    constructor
    · apply DftimeShape.minutes (isNumeral_decimal 1 _) (isNumeral_decimal 2 _) (length_two below) _
        (isNumeral_decimal 3 _) (length_three millis)
      rwa [value_decimal]
    · apply congrArg some
      omega

/-- The text says the time: it has the shape, it is read back, and no other time
has it, under no option. -/
theorem dftime_denotes :
    (∀ (mstime : Mstime) (opt : DftimeOpt), ∃ text,
      (mstimeToDftime mstime.val opt.val).text = some text ∧
      DftimeShape (dftimeSign opt.val) text ∧ readDftime text = some mstime.val.toNat) ∧
    ∀ (mstime mstime' : Mstime) (opt opt' : DftimeOpt), (mstimeToDftime mstime.val opt.val).text =
      (mstimeToDftime mstime'.val opt'.val).text → mstime = mstime' := by
  refine ⟨dftime_read, ?_⟩
  intro mstime mstime' opt opt' same
  obtain ⟨text, printed, -, reads⟩ := dftime_read mstime opt
  obtain ⟨text', printed', -, reads'⟩ := dftime_read mstime' opt'
  rw [printed, printed'] at same
  cases same
  have values := Option.some.inj (reads.symm.trans reads')
  apply Subtype.ext
  have low := mstime.property.1
  have low' := mstime'.property.1
  omega

end Q3df.Server
