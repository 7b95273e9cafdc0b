/-
Module: Q3df.Library.Varint
Layer: Library
Purpose: Numbers written in base 128 with the least digit first, where every byte but the last has
  its high bit set. A byte string splits into its first group and the rest in at most one way, the
  shortest group of a number is read back in front of any bytes, and no other group of that number
  is shorter. The digits are collected with shifts and ors in a word of any size.
Imports: Mathlib.Data.Nat.Digits.Defs, Mathlib.Algebra.Order.Group.Nat
Trusted boundary: none
Main exports: IsGroup, value, splitGroup, groupWithin, encode, splitGroup_eq_some,
  splitGroup_eq_none, groupWithin_eq_some, groupWithin_add, encode_eq_digits, length_encode_eq,
  splitGroup_encode_append, groupWithin_encode_append, value_encode, isGroup_encode,
  length_encode_le, length_encode_le_of_value, value_lt, ofNat_accumulate
Open obligations: none
-/
import Mathlib.Data.Nat.Digits.Defs
import Mathlib.Algebra.Order.Group.Nat

namespace Q3df.Varint

/-- The digit a byte carries. -/
def payload (b : BitVec 8) : Nat := b.toNat % 128

/-- The number a list of bytes stands for, whatever their high bits are. -/
def value (bytes : List (BitVec 8)) : Nat := Nat.ofDigits 128 (bytes.map payload)

/-- One group: bytes with the high bit set, and a last one without it. -/
inductive IsGroup : List (BitVec 8) → Prop
  | last {b : BitVec 8} (ends : b.toNat < 128) : IsGroup [b]
  | more {b : BitVec 8} {bytes : List (BitVec 8)} (continues : 128 ≤ b.toNat) (tail : IsGroup bytes) :
      IsGroup (b :: bytes)

/-- The first group of a byte string and what follows it; `none` when every byte
continues. -/
def splitGroup : List (BitVec 8) → Option (List (BitVec 8) × List (BitVec 8))
  | [] => none
  | b :: bytes =>
      if b.toNat < 128 then some ([b], bytes)
      else (splitGroup bytes).map fun (group, rest) => (b :: group, rest)

/-- The first group of a byte string and what follows it, if it ends within so
many bytes. -/
def groupWithin : Nat → List (BitVec 8) → Option (List (BitVec 8) × List (BitVec 8))
  | 0, _ => none
  | _ + 1, [] => none
  | limit + 1, b :: bytes =>
      if b.toNat < 128 then some ([b], bytes)
      else (groupWithin limit bytes).map fun (group, rest) => (b :: group, rest)

/-- The shortest group of a number, for numbers below `128 ^ (rounds + 1)`. -/
def encodeWithin : Nat → Nat → List (BitVec 8)
  | 0, n => [BitVec.ofNat 8 n]
  | rounds + 1, n =>
      if n < 128 then [BitVec.ofNat 8 n]
      else BitVec.ofNat 8 (n % 128 + 128) :: encodeWithin rounds (n / 128)

/-- The shortest group of a number. -/
def encode (n : Nat) : List (BitVec 8) := encodeWithin n n

variable {bytes group rest : List (BitVec 8)} {b : BitVec 8} {n rounds : Nat}

/-!
### Groups

A group is a list of bytes of which only the last lacks the continuation bit.
Its value is read with base 128, the lowest digit first.
-/

@[simp] theorem value_nil : value [] = 0 := rfl

theorem value_cons : value (b :: bytes) = payload b + 128 * value bytes := rfl

/-- Digits further behind weigh more. -/
theorem value_append (front : List (BitVec 8)) :
    value (front ++ bytes) = value front + 128 ^ front.length * value bytes := by
  rw [value, List.map_append, Nat.ofDigits_append, List.length_map]
  rfl

theorem payload_lt (b : BitVec 8) : payload b < 128 := Nat.mod_lt _ (by decide)

/-- The last byte of a group is its own payload. -/
theorem payload_of_last (ends : b.toNat < 128) : payload b = b.toNat := Nat.mod_eq_of_lt ends

/-- A group of so many bytes stands for a number of so many digits. -/
theorem value_lt (bytes : List (BitVec 8)) : value bytes < 128 ^ bytes.length := by
  have digits : ∀ x ∈ bytes.map payload, x < 128 := by
    intro x among
    obtain ⟨b, _, rfl⟩ := List.mem_map.mp among
    exact payload_lt b
  have bound := Nat.ofDigits_lt_base_pow_length (by decide : 1 < 128) digits
  rwa [List.length_map] at bound

theorem IsGroup.ne_nil (isGroup : IsGroup group) : group ≠ [] := by
  cases isGroup <;> exact List.cons_ne_nil _ _

theorem IsGroup.length_pos (isGroup : IsGroup group) : 0 < group.length :=
  List.length_pos_iff.mpr isGroup.ne_nil

/-- The last byte of a group ends it. -/
theorem IsGroup.exists_concat (isGroup : IsGroup group) :
    ∃ front last, group = front ++ [last] ∧ last.toNat < 128 := by
  induction isGroup with
  | last ends => exact ⟨[], _, rfl, ends⟩
  | more continues tail inductionHypothesis =>
      obtain ⟨front, last, rfl, ends⟩ := inductionHypothesis
      exact ⟨_ :: front, last, rfl, ends⟩

/-- Splitting finds the group at the front of the bytes. -/
theorem splitGroup_eq_some :
    splitGroup bytes = some (group, rest) ↔ IsGroup group ∧ bytes = group ++ rest := by
  constructor
  · intro split
    induction bytes generalizing group rest with
    | nil => cases split
    | cons b bytes inductionHypothesis =>
        rw [splitGroup] at split
        by_cases ends : b.toNat < 128
        · rw [if_pos ends] at split
          cases split
          exact ⟨IsGroup.last ends, rfl⟩
        · rw [if_neg ends] at split
          obtain ⟨⟨tail, after⟩, splitTail, same⟩ := Option.map_eq_some_iff.mp split
          cases same
          obtain ⟨isGroup, rfl⟩ := inductionHypothesis splitTail
          exact ⟨IsGroup.more (Nat.le_of_not_lt ends) isGroup, rfl⟩
  · rintro ⟨isGroup, rfl⟩
    induction isGroup with
    | last ends => rw [List.singleton_append, splitGroup, if_pos ends]
    | more continues tail inductionHypothesis =>
        rw [List.cons_append, splitGroup, if_neg (Nat.not_lt.mpr continues), inductionHypothesis]
        rfl

/-- A byte string starts with no group exactly when every byte of it continues. -/
theorem splitGroup_eq_none : splitGroup bytes = none ↔ ∀ b ∈ bytes, 128 ≤ b.toNat := by
  induction bytes with
  | nil => simp [splitGroup]
  | cons b bytes inductionHypothesis =>
      rw [splitGroup]
      by_cases ends : b.toNat < 128
      · simp [ends]
      · simp [ends, inductionHypothesis, Nat.le_of_not_lt ends]

/-- Two groups in front of the same bytes are one. -/
theorem IsGroup.unique {group' rest' : List (BitVec 8)} (isGroup : IsGroup group)
    (isGroup' : IsGroup group') (same : group ++ rest = group' ++ rest') :
    group = group' ∧ rest = rest' := by
  have first := splitGroup_eq_some.mpr ⟨isGroup, same.symm⟩
  rw [splitGroup_eq_some.mpr ⟨isGroup', rfl⟩] at first
  cases first
  exact ⟨rfl, rfl⟩

/-- A bounded search finds the group at the front if it is short enough. -/
theorem groupWithin_eq_some {limit : Nat} :
    groupWithin limit bytes = some (group, rest) ↔
      IsGroup group ∧ group.length ≤ limit ∧ bytes = group ++ rest := by
  induction limit generalizing bytes group with
  | zero =>
      constructor
      · intro found
        cases found
      · rintro ⟨isGroup, short, _⟩
        exact absurd isGroup.length_pos (Nat.not_lt.mpr short)
  | succ limit inductionHypothesis =>
      cases bytes with
      | nil =>
          constructor
          · intro found
            cases found
          · rintro ⟨isGroup, _, same⟩
            exact absurd (List.append_eq_nil_iff.mp same.symm).1 isGroup.ne_nil
      | cons b bytes =>
          rw [groupWithin]
          by_cases ends : b.toNat < 128
          · rw [if_pos ends]
            constructor
            · intro found
              cases found
              exact ⟨IsGroup.last ends, Nat.succ_le_succ (Nat.zero_le _), rfl⟩
            · rintro ⟨isGroup, _, same⟩
              obtain ⟨rfl, rfl⟩ := isGroup.unique (IsGroup.last ends) same.symm
              rfl
          · rw [if_neg ends]
            constructor
            · intro found
              obtain ⟨⟨tail, after⟩, foundTail, same⟩ := Option.map_eq_some_iff.mp found
              cases same
              obtain ⟨isGroup, short, rfl⟩ := inductionHypothesis.mp foundTail
              exact ⟨IsGroup.more (Nat.le_of_not_lt ends) isGroup, Nat.succ_le_succ short, rfl⟩
            · rintro ⟨isGroup, short, same⟩
              cases isGroup with
              | last last =>
                  cases same
                  exact absurd last ends
              | more _ tail =>
                  cases same
                  exact Option.map_eq_some_iff.mpr
                    ⟨_, inductionHypothesis.mpr ⟨tail, Nat.le_of_succ_le_succ short, rfl⟩, rfl⟩

/-- Looking for the group a stretch at a time. -/
theorem groupWithin_add (first more : Nat) (bytes : List (BitVec 8)) :
    groupWithin (first + more) bytes =
      match groupWithin first bytes with
      | some found => some found
      | none =>
          if bytes.length < first then none
          else (groupWithin more (bytes.drop first)).map fun (group, rest) =>
            (bytes.take first ++ group, rest) := by
  induction first generalizing bytes with
  | zero => simp [groupWithin]
  | succ first inductionHypothesis =>
      cases bytes with
      | nil => simp [groupWithin, Nat.succ_add]
      | cons b bytes =>
          rw [Nat.succ_add, groupWithin, groupWithin]
          by_cases ends : b.toNat < 128
          · rw [if_pos ends, if_pos ends]
          · rw [if_neg ends, if_neg ends, inductionHypothesis]
            cases groupWithin first bytes with
            | some found => rfl
            | none =>
                simp only [Option.map_none, List.length_cons, Nat.add_lt_add_iff_right, List.drop_succ_cons,
                  List.take_succ_cons]
                split_ifs
                · rfl
                · rw [Option.map_map]
                  rfl

/-- Bytes that all continue contain no group. -/
theorem groupWithin_of_continues {limit : Nat} (continues : ∀ b ∈ bytes, 128 ≤ b.toNat) :
    groupWithin limit bytes = none := by
  rw [Option.eq_none_iff_forall_ne_some]
  rintro ⟨group, rest⟩ found
  obtain ⟨isGroup, _, rfl⟩ := groupWithin_eq_some.mp found
  have none_ := splitGroup_eq_none.mpr continues
  rw [splitGroup_eq_some.mpr ⟨isGroup, rfl⟩] at none_
  cases none_

/-- There is no group within a stretch exactly when all its bytes continue. -/
theorem groupWithin_eq_none_iff {limit : Nat} :
    groupWithin limit bytes = none ↔ ∀ b ∈ bytes.take limit, 128 ≤ b.toNat := by
  induction limit generalizing bytes with
  | zero => simp [groupWithin]
  | succ limit inductionHypothesis =>
      cases bytes with
      | nil => simp [groupWithin]
      | cons b bytes =>
          rw [groupWithin, List.take_succ_cons, List.forall_mem_cons]
          by_cases ends : b.toNat < 128
          · rw [if_pos ends]
            constructor
            · intro found
              cases found
            · intro continues
              exact absurd ends (Nat.not_lt.mpr continues.1)
          · rw [if_neg ends, Option.map_eq_none_iff, inductionHypothesis]
            exact ⟨fun continues => ⟨Nat.le_of_not_lt ends, continues⟩, fun continues => continues.2⟩

/-- A stretch that is not too long and holds a byte that ends a group starts
with one. -/
theorem groupWithin_isSome {limit : Nat} (short : bytes.length ≤ limit) (among : b ∈ bytes)
    (ends : b.toNat < 128) :
    (groupWithin limit bytes).isSome := by
  cases split : splitGroup bytes with
  | none => exact absurd ends (Nat.not_lt.mpr (splitGroup_eq_none.mp split b among))
  | some parts =>
      obtain ⟨group, rest⟩ := parts
      obtain ⟨isGroup, rfl⟩ := splitGroup_eq_some.mp split
      have inside : group.length ≤ limit := by
        rw [List.length_append] at short
        omega
      rw [groupWithin_eq_some.mpr ⟨isGroup, inside, rfl⟩]
      rfl

/-- A group that ends within a short stretch is the first one within a longer
stretch. -/
theorem groupWithin_mono {limit more : Nat} (longer : limit ≤ more)
    (found : groupWithin limit bytes = some (group, rest)) : groupWithin more bytes = some (group, rest) := by
  obtain ⟨isGroup, short, same⟩ := groupWithin_eq_some.mp found
  exact groupWithin_eq_some.mpr ⟨isGroup, Nat.le_trans short longer, same⟩

/-- Every byte of a group that is cut off continues. -/
theorem IsGroup.continues_of_cut (isGroup : IsGroup group) (cut : bytes <+: group)
    (shorter : bytes.length < group.length) : ∀ b ∈ bytes, 128 ≤ b.toNat := by
  induction isGroup generalizing bytes with
  | last ends =>
      have empty : bytes = [] := List.eq_nil_of_length_eq_zero (Nat.lt_one_iff.mp shorter)
      rw [empty]
      exact fun _ among => absurd among List.not_mem_nil
  | more continues tail inductionHypothesis =>
      cases bytes with
      | nil => exact fun _ among => absurd among List.not_mem_nil
      | cons first bytes =>
          obtain ⟨rfl, cutTail⟩ := List.cons_prefix_cons.mp cut
          intro b among
          rcases List.mem_cons.mp among with rfl | among
          · exact continues
          · exact inductionHypothesis cutTail (Nat.lt_of_succ_lt_succ shorter) b among

/-!
### The shortest group of a number

The encoder takes seven bits at a time. It needs as many bytes as the number has
digits with base 128.
-/

theorem toNat_last {m : Nat} (small : m < 128) : (BitVec.ofNat 8 m).toNat = m := by
  rw [BitVec.toNat_ofNat]
  exact Nat.mod_eq_of_lt (by omega)

theorem toNat_more (m : Nat) : (BitVec.ofNat 8 (m % 128 + 128)).toNat = m % 128 + 128 := by
  rw [BitVec.toNat_ofNat]
  exact Nat.mod_eq_of_lt (by omega)

/-- The payload of a byte that continues is the digit it was made of. -/
theorem payload_more (m : Nat) : payload (BitVec.ofNat 8 (m % 128 + 128)) = m % 128 := by
  rw [payload, toNat_more]
  omega

theorem div_lt_pow (small : n < 128 ^ (rounds + 2)) : n / 128 < 128 ^ (rounds + 1) := by
  rw [Nat.div_lt_iff_lt_mul (by decide), ← Nat.pow_succ]
  exact small

/-- Every bound that leaves room for the number's digits gives the same group,
which starts as the loop that writes it does. -/
theorem encodeWithin_eq (small : n < 128 ^ (rounds + 1)) :
    encodeWithin rounds n =
      if n < 128 then [BitVec.ofNat 8 n]
      else BitVec.ofNat 8 (n % 128 + 128) :: encodeWithin (rounds - 1) (n / 128) := by
  cases rounds with
  | zero => rw [if_pos (by simpa using small), encodeWithin]
  | succ rounds => rw [encodeWithin, Nat.add_sub_cancel]

/-- The bound on the rounds does not matter once the number fits. -/
theorem encodeWithin_congr {more : Nat} (small : n < 128 ^ (rounds + 1)) (small' : n < 128 ^ (more + 1)) :
    encodeWithin rounds n = encodeWithin more n := by
  induction rounds generalizing more n with
  | zero =>
      rw [encodeWithin_eq small, encodeWithin_eq small', if_pos (by simpa using small),
        if_pos (by simpa using small)]
  | succ rounds inductionHypothesis =>
      rw [encodeWithin_eq small, encodeWithin_eq small']
      by_cases short : n < 128
      · rw [if_pos short, if_pos short]
      · rw [if_neg short, if_neg short, Nat.add_sub_cancel]
        cases more with
        | zero => exact absurd (by simpa using small') short
        | succ more =>
            rw [Nat.add_sub_cancel, inductionHypothesis (div_lt_pow small) (div_lt_pow small')]

theorem lt_own_pow (n : Nat) : n < 128 ^ (n + 1) :=
  Nat.lt_of_lt_of_le (Nat.lt_pow_self (by decide)) (Nat.pow_le_pow_right (by decide) (Nat.le_succ n))

/-- A loop with enough rounds computes the encoding. -/
theorem encodeWithin_eq_encode (small : n < 128 ^ (rounds + 1)) : encodeWithin rounds n = encode n :=
  encodeWithin_congr small (lt_own_pow n)

/-- The equation of the loop that writes a number. -/
theorem encode_eq (n : Nat) :
    encode n =
      if n < 128 then [BitVec.ofNat 8 n] else BitVec.ofNat 8 (n % 128 + 128) :: encode (n / 128) := by
  rw [encode, encodeWithin_eq (lt_own_pow n)]
  by_cases short : n < 128
  · rw [if_pos short, if_pos short]
  · have room : n / 128 < 128 ^ (n - 1 + 1) := by
      obtain ⟨m, rfl⟩ := Nat.exists_eq_succ_of_ne_zero (by omega : n ≠ 0)
      exact div_lt_pow (lt_own_pow (m + 1))
    rw [if_neg short, if_neg short, encodeWithin_eq_encode room]

theorem encode_of_lt (short : n < 128) : encode n = [BitVec.ofNat 8 n] := by
  rw [encode_eq, if_pos short]

/-- A number of 128 and more starts with its lowest digit and goes on with the
others. -/
theorem encode_of_ge (long : 128 ≤ n) :
    encode n = BitVec.ofNat 8 (n % 128 + 128) :: encode (n / 128) := by
  rw [encode_eq, if_neg (Nat.not_lt.mpr long)]

/-- What `encode` writes is one group. -/
theorem isGroup_encode (n : Nat) : IsGroup (encode n) := by
  induction n using Nat.strongRecOn with
  | ind n inductionHypothesis =>
      rcases Nat.lt_or_ge n 128 with short | long
      · rw [encode_of_lt short]
        exact IsGroup.last (by rwa [toNat_last short])
      · rw [encode_of_ge long]
        apply IsGroup.more
        · rw [toNat_more]
          omega
        · exact inductionHypothesis _ (by omega)

/-- Decoding gives the number back. -/
@[simp] theorem value_encode (n : Nat) : value (encode n) = n := by
  induction n using Nat.strongRecOn with
  | ind n inductionHypothesis =>
      rcases Nat.lt_or_ge n 128 with short | long
      · rw [encode_of_lt short, value_cons, value_nil, payload, toNat_last short]
        omega
      · rw [encode_of_ge long, value_cons, payload_more, inductionHypothesis _ (by omega)]
        omega

/-- Reading after writing: the group is found again in front of any bytes. -/
@[simp] theorem splitGroup_encode_append (n : Nat) (rest : List (BitVec 8)) :
    splitGroup (encode n ++ rest) = some (encode n, rest) :=
  splitGroup_eq_some.mpr ⟨isGroup_encode n, rfl⟩

/-- A number of so many digits is written in at most that many bytes. -/
theorem length_encode_le (small : n < 128 ^ (rounds + 1)) : (encode n).length ≤ rounds + 1 := by
  induction rounds generalizing n with
  | zero => rw [encode_of_lt (by simpa using small), List.length_singleton]
  | succ rounds inductionHypothesis =>
      rcases Nat.lt_or_ge n 128 with short | long
      · rw [encode_of_lt short, List.length_singleton]
        omega
      · rw [encode_of_ge long, List.length_cons]
        exact Nat.succ_le_succ (inductionHypothesis (div_lt_pow small))

/-- A number is found again within the bytes it may take. -/
theorem groupWithin_encode_append (small : n < 128 ^ (rounds + 1)) (rest : List (BitVec 8)) :
    groupWithin (rounds + 1) (encode n ++ rest) = some (encode n, rest) :=
  groupWithin_eq_some.mpr ⟨isGroup_encode n, length_encode_le small, rfl⟩

theorem length_encode_pos (n : Nat) : 0 < (encode n).length := (isGroup_encode n).length_pos

/-- No group of a number, or of a larger one, is shorter than the one `encode`
writes. -/
theorem length_encode_le_of_value (isGroup : IsGroup group) (small : n ≤ value group) :
    (encode n).length ≤ group.length := by
  obtain ⟨rounds, long⟩ := Nat.exists_eq_succ_of_ne_zero (Nat.pos_iff_ne_zero.mp isGroup.length_pos)
  have bound := Nat.lt_of_le_of_lt small (value_lt group)
  rw [long] at bound ⊢
  exact length_encode_le bound

/-- The shortest group of a number of which the number of digits is known, digit
by digit. -/
theorem encode_eq_digits {more : Nat} (small : n < 128 ^ (more + 1)) (large : more = 0 ∨ 128 ^ more ≤ n) :
    encode n =
      (List.range more).map (fun i => BitVec.ofNat 8 (n / 128 ^ i % 128 + 128)) ++
        [BitVec.ofNat 8 (n / 128 ^ more)] := by
  induction more generalizing n with
  | zero => simpa using encode_of_lt (by simpa using small)
  | succ more inductionHypothesis =>
      have above : 128 ^ (more + 1) ≤ n := by
        rcases large with none_ | above
        · cases none_
        · exact above
      have long : 128 ≤ n := Nat.le_trans (Nat.le_self_pow (Nat.succ_ne_zero more) 128) above
      have above' : more = 0 ∨ 128 ^ more ≤ n / 128 := by
        refine Or.inr ((Nat.le_div_iff_mul_le (by decide)).mpr ?_)
        rwa [← Nat.pow_succ]
      have digit : ∀ i, n / 128 / 128 ^ i = n / 128 ^ (i + 1) := by
        intro i
        rw [Nat.div_div_eq_div_mul, Nat.mul_comm, ← Nat.pow_succ]
      rw [encode_of_ge long, inductionHypothesis (div_lt_pow small) above', List.range_succ_eq_map]
      simp [digit, Function.comp_def]

/-- The length of the encoding is the number of digits with base 128. -/
theorem length_encode_eq {more : Nat} (small : n < 128 ^ (more + 1)) (large : more = 0 ∨ 128 ^ more ≤ n) :
    (encode n).length = more + 1 := by
  simp [encode_eq_digits small large]

/-!
### Collecting digits in a word

A decoder shifts each digit to its place in a word of fixed width, and loses
what does not fit.
-/

/-- The or of a word below a power of two and a digit shifted by that power adds
them, in a word of any size: bits above the word are lost on both sides alike. -/
theorem ofNat_accumulate {w x digit s : Nat} (below : x < 2 ^ s) :
    BitVec.ofNat w x ||| BitVec.ofNat w digit <<< s = BitVec.ofNat w (x + digit * 2 ^ s) := by
  have apart : x + digit * 2 ^ s = x ||| digit <<< s := by
    rw [Nat.shiftLeft_eq, Nat.mul_comm digit, Nat.add_comm, Nat.two_pow_add_eq_or_of_lt below, Nat.or_comm]
  apply BitVec.eq_of_toNat_eq
  rw [apart, BitVec.toNat_or, BitVec.toNat_shiftLeft, BitVec.toNat_ofNat, BitVec.toNat_ofNat,
    BitVec.toNat_ofNat, Nat.or_mod_two_pow, Nat.shiftLeft_eq, Nat.shiftLeft_eq, Nat.mod_mul_mod]

/-- One more byte of a group at the shift its place calls for. -/
theorem ofNat_value_concat (w : Nat) (front : List (BitVec 8)) (b : BitVec 8) :
    BitVec.ofNat w (value front) ||| BitVec.ofNat w (payload b) <<< (7 * front.length) =
      BitVec.ofNat w (value (front ++ [b])) := by
  have below : value front < 2 ^ (7 * front.length) := by
    rw [Nat.pow_mul]
    exact value_lt front
  rw [ofNat_accumulate below, value_append, value_cons, value_nil, Nat.mul_zero, Nat.add_zero,
    Nat.pow_mul, Nat.mul_comm (payload b)]

end Q3df.Varint
