/-
Module: Q3df.Client.BlockCopy
Layer: Client
Purpose: `OP_BLOCK_COPY`. The loop copies one word before it counts, and counts `param >> 2` down to
  zero: with a positive multiple of four it copies exactly that many bytes, and with 0 it makes 2^32
  rounds, which lead through every address there is.
Imports: Q3df.Client.DataMask
Trusted boundary: the page at address 0 is not mapped, the data segment is
Main exports: wordMapped, copyWords?, copyWords_eq_copied, copyWords?_visits, CopiesBlock,
  blockCopy_copies_iff
Open obligations: none
-/
import Q3df.Client.DataMask

namespace Q3df.Client

open ByteMemory SignedWord

/-- The four bytes of a word can be accessed. -/
def wordMapped (mapped : Word → Bool) (a : Word) : Bool :=
  mapped a && mapped (a + 1) && mapped (a + 2) && mapped (a + 3)

/-- The `do` loop of `BLOCK_COPY` in a process where only some addresses are
mapped: `none` where an access faults. -/
def copyWords? (mapped : Word → Bool) : Nat → Word → Word → Memory → Option Memory
  | 0, src, dst, mem =>
      if wordMapped mapped src && wordMapped mapped dst then
        some (writeWord mem dst (readWord mem src))
      else none
  | rounds + 1, src, dst, mem =>
      if wordMapped mapped src && wordMapped mapped dst then
        copyWords? mapped rounds (src + 4) (dst + 4) (writeWord mem dst (readWord mem src))
      else none

/-!
### The loop

The do-while loop reads and writes whole words. It is followed round by round,
so that both the result and the first round that faults are known for every
parameter and every pair of ranges.
-/

section Loop

variable {mapped : Word → Bool} {mem : Memory} {src dst : Word} {rounds : Nat}

/-- A word is mapped exactly when its four bytes are. -/
theorem wordMapped_iff {a : Word} : wordMapped mapped a = true ↔ ∀ b, InRange a 4 b →
    mapped b = true := by
  unfold wordMapped
  simp only [Bool.and_eq_true]
  constructor
  · rintro ⟨⟨⟨zero, one⟩, two⟩, three⟩ b inWord
    have cases_ : b = a ∨ b = a + 1 ∨ b = a + 2 ∨ b = a + 3 := by
      unfold InRange at inWord
      bv_omega
    rcases cases_ with rfl | rfl | rfl | rfl
    · exact zero
    · exact one
    · exact two
    · exact three
  · intro all
    have byte (i : Word) (small : i.toNat < 4) : mapped (a + i) = true := by
      apply all
      rw [InRange, offset_sub_self]
      exact small
    have first : mapped a = true := by simpa using byte 0 (by decide)
    exact ⟨⟨⟨first, byte 1 (by decide)⟩, byte 2 (by decide)⟩, byte 3 (by decide)⟩

/-- Nothing faults where both blocks are mapped. -/
theorem copyWords?_isSome (fits : 4 * rounds + 4 ≤ 2 ^ 32)
    (srcMapped : ∀ b, InRange src (4 * rounds + 4) b → mapped b = true)
    (dstMapped : ∀ b, InRange dst (4 * rounds + 4) b → mapped b = true) :
    (copyWords? mapped rounds src dst mem).isSome := by
  induction rounds generalizing src dst mem with
  | zero =>
      rw [copyWords?, wordMapped_iff.mpr srcMapped, wordMapped_iff.mpr dstMapped]
      rfl
  | succ rounds inductionHypothesis =>
      have word {a : Word} (all : ∀ b, InRange a (4 * (rounds + 1) + 4) b → mapped b = true) :
          wordMapped mapped a = true ∧
            ∀ b, InRange (a + 4) (4 * rounds + 4) b → mapped b = true := by
        constructor
        · apply wordMapped_iff.mpr
          intro b inWord
          exact all b ((inRange_word_or_rest fits).mpr (.inl inWord))
        · intro b inRest
          exact all b ((inRange_word_or_rest fits).mpr (.inr inRest))
      rw [copyWords?, (word srcMapped).1, (word dstMapped).1]
      exact inductionHypothesis (by omega) (word srcMapped).2 (word dstMapped).2

/-- A loop that comes to its end has written to every word on its way. -/
theorem copyWords?_visits (ended : (copyWords? mapped rounds src dst mem).isSome) (k : Nat)
    (round : k ≤ rounds) : wordMapped mapped (dst + BitVec.ofNat 32 (4 * k)) = true := by
  induction rounds generalizing src dst mem k with
  | zero =>
      obtain rfl : k = 0 := Nat.le_zero.mp round
      rw [copyWords?] at ended
      split at ended
      case isTrue both =>
        have start : dst + BitVec.ofNat 32 (4 * 0) = dst := by simp
        rw [start]
        exact (Bool.and_eq_true_iff.mp both).2
      case isFalse => cases ended
  | succ rounds inductionHypothesis =>
      rw [copyWords?] at ended
      split at ended
      case isTrue both =>
        cases k with
        | zero =>
            have start : dst + BitVec.ofNat 32 (4 * 0) = dst := by simp
            rw [start]
            exact (Bool.and_eq_true_iff.mp both).2
        | succ k =>
            have next : dst + BitVec.ofNat 32 (4 * (k + 1)) = dst + 4 + BitVec.ofNat 32 (4 * k) := by
              bv_omega
            rw [next]
            exact inductionHypothesis ended k (by omega)
      case isFalse => cases ended

/-- A loop of 2^32 rounds visits every address. -/
theorem mapped_of_all_rounds (ended : (copyWords? mapped 4294967295 src dst mem).isSome) (b : Word) :
    mapped b = true := by
  have visited := copyWords?_visits ended ((b - dst).toNat / 4) (by omega)
  apply wordMapped_iff.mp visited
  unfold InRange
  bv_omega

/-- Between blocks that do not overlap the loop copies. -/
theorem copyWords_eq_copied (fits : 4 * rounds + 4 ≤ 2 ^ 32) (apart : Apart src dst (4 * rounds + 4)) :
    RunState.copyWords rounds src dst mem = copied mem src dst (4 * rounds + 4) := by
  induction rounds generalizing src dst mem with
  | zero => exact writeWord_readWord
  | succ rounds inductionHypothesis =>
      rw [RunState.copyWords, writeWord_readWord,
        inductionHypothesis (by omega) (apart.rest fits)]
      exact copied_word_rest fits apart

end Loop

/-!
### The opcode

What the loop does is compared with a copy of param's bytes. Param 0 is the case
apart: the counter wraps below 0 and the loop makes 2^32 rounds.
-/

section Opcode

variable {param : Word}

/-- A positive multiple of four counts its words. -/
theorem copyRounds_eq (nonnegative : 0 ≤ param.toInt) (aligned : 4 ∣ param.toNat)
    (positive : param ≠ 0) :
    4 * copyRounds param + 4 = param.toNat := by
  have cast := toNat_of_toInt_nonneg nonnegative
  have small : param.toNat < 2 ^ 31 := by
    have bound := @BitVec.toInt_lt 32 param
    omega
  have sameShift : param.sshiftRight 2 = param >>> 2 := by
    apply BitVec.sshiftRight_eq_of_msb_false
    rw [BitVec.msb_eq_false_iff_two_mul_lt]
    omega
  have words : (param >>> 2).toNat = param.toNat / 4 := by
    rw [BitVec.toNat_ushiftRight, Nat.shiftRight_eq_div_pow]
  have some_ : param.toNat ≠ 0 := by
    intro zero
    exact positive (BitVec.eq_of_toNat_eq zero)
  rw [copyRounds, sameShift]
  have one : (1 : Word).toNat = 1 := rfl
  rw [BitVec.toNat_sub, words, one]
  omega

/-- With 0 the count is decremented past zero. -/
theorem copyRounds_zero : copyRounds 0 = 4294967295 := by decide

/-- One pass of the loop at a `BLOCK_COPY` whose parameter is `param` does what
the opcode is for: it comes to its end without a fault, the destination is what
the source was, no other byte changes, and two operands are popped. -/
def CopiesBlock (mapped : Word → Bool) (fpu : FloatUnit) (s : RunState) (param : Word) : Prop :=
  (copyWords? mapped (copyRounds param) (s.dataPointer (s.top 0)) (s.dataPointer (s.top 1))
      s.mem).isSome ∧
    ∃ t, runPass fpu s = some (.next t) ∧
      (∀ k : Nat, k < param.toNat → t.mem (s.dataPointer (s.top 1) + BitVec.ofNat 32 k) =
        s.mem (s.dataPointer (s.top 0) + BitVec.ofNat 32 k)) ∧
      (∀ b, ¬ InRange (s.dataPointer (s.top 1)) param.toNat b → t.mem b = s.mem b) ∧
      t.opStack = s.opStack + 8 ∧ t.opPointer = s.opPointer + 8 ∧ t.vm = s.vm ∧ t.messages = s.messages

/-- What a pass does at a `BLOCK_COPY`. -/
theorem runPass_blockCopy {fpu : FloatUnit} {s : RunState} (at_ : AtInstruction s .opBlockCopy param)
    (aligned : 4 ∣ param.toNat) :
    runPass fpu s = some (.next { s with
      opPointer := s.opPointer + 8
      mem := RunState.copyWords (copyRounds param) (s.dataPointer (s.top 0)) (s.dataPointer (s.top 1)) s.mem
      opStack := s.opStack + 8 }) := by
  have noRest : ¬ param &&& 3 ≠ 0 := by
    rw [not_not]
    apply BitVec.eq_of_toNat_eq
    have low : (3 : Word).toNat = 2 ^ 2 - 1 := rfl
    rw [BitVec.toNat_and, low, Nat.and_two_pow_sub_one_eq_mod]
    exact Nat.mod_eq_zero_of_dvd aligned
  rw [runPass_at at_]
  show some (OpOutcome.next (RunState.blockCopy _ param)) = _
  rw [RunState.blockCopy]
  simp only [if_neg noRest]
  rfl

end Opcode

/-- `OP_BLOCK_COPY` copies exactly its operand, for every non-negative multiple
of four but 0. -/
theorem blockCopy_copies_iff {mapped : Word → Bool} {fpu : FloatUnit} {s : RunState} {param : Word}
    {stacksize : Word} (at_ : AtInstruction s .opBlockCopy param) (nonnegative : 0 ≤ param.toInt)
    (aligned : 4 ∣ param.toNat)
    (fromInside : InDataSegment stacksize s.vm (s.dataPointer (s.top 0)) param.toNat)
    (toInside : InDataSegment stacksize s.vm (s.dataPointer (s.top 1)) param.toNat)
    (apart : Apart (s.dataPointer (s.top 0)) (s.dataPointer (s.top 1)) param.toNat)
    (segmentMapped : ∀ b, InRange s.vm.dataSegment (s.vm.dataSegmentLen + stacksize).toNat b →
      mapped b = true)
    (nullUnmapped : mapped 0 = false) :
    CopiesBlock mapped fpu s param ↔ param ≠ 0 := by
  constructor
  · rintro ⟨ended, -⟩ rfl
    rw [copyRounds_zero] at ended
    rw [mapped_of_all_rounds ended 0] at nullUnmapped
    cases nullUnmapped
  · intro positive
    have words := copyRounds_eq nonnegative aligned positive
    have fits : 4 * copyRounds param + 4 ≤ 2 ^ 32 := by
      have bound := param.isLt
      omega
    have blockMapped {pointer : Word} (inside : InDataSegment stacksize s.vm pointer param.toNat) (b : Word)
        (inBlock : InRange pointer (4 * copyRounds param + 4) b) : mapped b = true := by
      rw [words] at inBlock
      have here := inside (b - pointer).toNat inBlock
      have back : pointer + BitVec.ofNat 32 (b - pointer).toNat = b := by bv_omega
      rw [back] at here
      exact segmentMapped b here
    have copies : RunState.copyWords (copyRounds param) (s.dataPointer (s.top 0)) (s.dataPointer (s.top 1))
        s.mem = copied s.mem (s.dataPointer (s.top 0)) (s.dataPointer (s.top 1)) param.toNat := by
      rw [← words] at apart ⊢
      exact copyWords_eq_copied fits apart
    refine ⟨copyWords?_isSome fits (blockMapped fromInside) (blockMapped toInside), _,
      runPass_blockCopy at_ aligned, ?_, ?_, rfl, rfl, rfl, rfl⟩
    · intro k small
      dsimp only
      have index : (BitVec.ofNat 32 k).toNat = k := by
        have bound := param.isLt
        rw [BitVec.toNat_ofNat]
        omega
      have inBlock : InRange (s.dataPointer (s.top 1)) param.toNat
          (s.dataPointer (s.top 1) + BitVec.ofNat 32 k) := by
        rw [InRange, offset_sub_self, index]
        exact small
      rw [copies, copied, if_pos inBlock, offset_sub_self]
    · intro b outside
      dsimp only
      rw [copies, copied, if_neg outside]

/-- The VM with a data segment of 100 bytes is about to copy a block from
address 0, where two words stand, to address 16. -/
def copyState (param : Word) : RunState where
  vm := bssVm
  mem := writeWords (writeWords (writeWords (fun _ => 0) bssVm.codeSegment [34, param]) 0x3000 [0, 16])
    bssVm.dataSegment [0x04030201, 7]
  messages := []
  opStack := 0x3000
  opPointer := bssVm.codeSegment

/-- Every address but the null pointer is mapped. -/
def allButNull (b : Word) : Bool := b ≠ 0

/-- Both words are copied. -/
theorem copyState_copies : CopiesBlock allButNull noFloats (copyState 8) 8 := by
  have source : (copyState 8).dataPointer ((copyState 8).top 0) = 0x1008 := by decide +kernel
  have target : (copyState 8).dataPointer ((copyState 8).top 1) = 0x1018 := by decide +kernel
  have segment : (copyState 8).vm.dataSegment = 0x1008 := by decide +kernel
  have length : ((copyState 8).vm.dataSegmentLen + 0).toNat = 100 := by decide +kernel
  have apart : Apart ((copyState 8).dataPointer ((copyState 8).top 0))
      ((copyState 8).dataPointer ((copyState 8).top 1)) (8 : Word).toNat := by
    rw [source, target]
    unfold Apart InRange
    bv_omega
  have mapped : ∀ b, InRange (copyState 8).vm.dataSegment ((copyState 8).vm.dataSegmentLen + 0).toNat b →
      allButNull b = true := by
    intro b inSegment
    rw [segment, length, InRange] at inSegment
    apply decide_eq_true
    rintro rfl
    exact absurd inSegment (by decide)
  have inside : InDataSegment 0 (copyState 8).vm 0x1008 8 ∧ InDataSegment 0 (copyState 8).vm 0x1018 8 := by
    unfold InDataSegment
    rw [segment, length]
    decide
  rw [← source, ← target] at inside
  exact (blockCopy_copies_iff ⟨by decide +kernel, by decide +kernel⟩ (by decide) (by decide) inside.1
    inside.2 apart mapped rfl).mpr (by decide)

/-- With the parameter 0 the copy leaves its operands, which are empty, and
comes to the null pointer. -/
theorem emptyCopy_faults :
    AtInstruction (copyState 0) .opBlockCopy 0 ∧ ¬ CopiesBlock allButNull noFloats (copyState 0) 0 := by
  refine ⟨⟨by decide +kernel, by decide +kernel⟩, ?_⟩
  rintro ⟨ended, -⟩
  rw [copyRounds_zero] at ended
  exact absurd (mapped_of_all_rounds ended 0) (by decide)

end Q3df.Client
