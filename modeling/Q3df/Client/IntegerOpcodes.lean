/-
Module: Q3df.Client.IntegerOpcodes
Layer: Client
Purpose: The opcodes on integers. What each is for is a table of its own, in exact integers: the
  number whose word it computes, or the comparison it jumps on. One pass of the interpreter does
  that for every operand, but for the sign extensions: these only ever set the upper bits, and leave
  them as they are when the number is not negative.
Imports: Q3df.Library.SignedWord, Q3df.Client.DataMask
Trusted boundary: human-reviewed spec, `VmOp.integer?` and `VmOp.DefinedOn`
Main exports: IntegerMeaning, VmOp.integer?, VmOp.DefinedOn, IntegerMeaning.Done, ExtendsRight,
  integerOpcode_done_iff
Open obligations: none
-/
import Q3df.Library.SignedWord
import Q3df.Client.DataMask

namespace Q3df.Client

open ByteMemory SignedWord

/-- What an opcode on integers is for: the word of an exact result, of one
operand or of two, or a jump where two operands compare. -/
inductive IntegerMeaning where
  | unary (result : Word → Int)
  | binary (result : Word → Word → Int)
  | branch (condition : Word → Word → Bool)

namespace VmOp

/-- The meaning of the integer opcodes in the QVM. Of two operands the second is
on top of the stack. -/
def integer? (op : VmOp) : Option IntegerMeaning :=
  match op with
  | .opSex8 => some (.unary fun x => (x.setWidth 8).toInt)
  | .opSex16 => some (.unary fun x => (x.setWidth 16).toInt)
  | .opNegi => some (.unary fun x => -x.toInt)
  | .opBcom => some (.unary fun x => -x.toInt - 1)
  | .opAdd => some (.binary fun x y => x.toInt + y.toInt)
  | .opSub => some (.binary fun x y => x.toInt - y.toInt)
  | .opMuli => some (.binary fun x y => x.toInt * y.toInt)
  | .opMulu => some (.binary fun x y => (x.toNat * y.toNat : Nat))
  | .opDivi => some (.binary fun x y => x.toInt.tdiv y.toInt)
  | .opModi => some (.binary fun x y => x.toInt.tmod y.toInt)
  | .opDivu => some (.binary fun x y => (x.toNat / y.toNat : Nat))
  | .opModu => some (.binary fun x y => (x.toNat % y.toNat : Nat))
  | .opBand => some (.binary fun x y => (x.toNat &&& y.toNat : Nat))
  | .opBor => some (.binary fun x y => (x.toNat ||| y.toNat : Nat))
  | .opBxor => some (.binary fun x y => (x.toNat ^^^ y.toNat : Nat))
  | .opLsh => some (.binary fun x y => (x.toNat * 2 ^ y.toNat : Nat))
  | .opRshi => some (.binary fun x y => x.toInt / 2 ^ y.toNat)
  | .opRshu => some (.binary fun x y => (x.toNat / 2 ^ y.toNat : Nat))
  | .opEq => some (.branch fun x y => decide (x.toInt = y.toInt))
  | .opNe => some (.branch fun x y => decide (x.toInt ≠ y.toInt))
  | .opLti => some (.branch fun x y => decide (x.toInt < y.toInt))
  | .opLei => some (.branch fun x y => decide (x.toInt ≤ y.toInt))
  | .opGti => some (.branch fun x y => decide (y.toInt < x.toInt))
  | .opGei => some (.branch fun x y => decide (y.toInt ≤ x.toInt))
  | .opLtu => some (.branch fun x y => decide (x.toNat < y.toNat))
  | .opLeu => some (.branch fun x y => decide (x.toNat ≤ y.toNat))
  | .opGtu => some (.branch fun x y => decide (y.toNat < x.toNat))
  | .opGeu => some (.branch fun x y => decide (y.toNat ≤ x.toNat))
  | _ => none

/-- The operands the operation is defined on: shifts by less than the width, and
divisions by something else than zero whose quotient is a signed word. -/
def DefinedOn (op : VmOp) (x y : Word) : Prop :=
  match op with
  | .opLsh | .opRshi | .opRshu => y.toNat < 32
  | .opDivi | .opModi => y ≠ 0 ∧ x.toInt.tdiv y.toInt < 2 ^ 31
  | .opDivu | .opModu => y ≠ 0
  | _ => True

end VmOp

/-- `t` is `s` with the word of `result` on the operand stack, `shorter` entries
down, and the next instruction to be executed. -/
structure ResultLeft (s t : RunState) (shorter : Nat) (result : Int) : Prop where
  top : t.top 0 = BitVec.ofInt 32 result
  opStack : t.opStack = s.opStack + BitVec.ofNat 32 (4 * shorter)
  mem : ∀ b, ¬ InRange t.opStack 4 b → t.mem b = s.mem b
  opPointer : t.opPointer = s.opPointer + 8
  vm : t.vm = s.vm
  messages : t.messages = s.messages

/-- `t` is `s` without two operands, at the parameter if the jump is made and at
the next instruction otherwise. -/
structure Branched (s t : RunState) (jumps : Bool) (param : Word) : Prop where
  opPointer : t.opPointer = if jumps then s.vm.codeSegment + param * 8 else s.opPointer + 8
  opStack : t.opStack = s.opStack + 8
  mem : t.mem = s.mem
  vm : t.vm = s.vm
  messages : t.messages = s.messages

/-- From `s` to `t` the meaning of the opcode is done, and nothing else. -/
def IntegerMeaning.Done (meaning : IntegerMeaning) (s t : RunState) (param : Word) : Prop :=
  match meaning with
  | .unary result => ResultLeft s t 0 (result (s.top 0))
  | .binary result => ResultLeft s t 1 (result (s.top 1) (s.top 0))
  | .branch condition => Branched s t (condition (s.top 1) (s.top 0)) param

/-- A sign extension is right where the low part is negative, or is all there is
of the word. -/
def ExtendsRight (op : VmOp) (x : Word) : Prop :=
  match op with
  | .opSex8 => x.getLsbD 7 = true ∨ x.toNat < 0x100
  | .opSex16 => x.getLsbD 15 = true ∨ x.toNat < 0x10000
  | _ => True

/-!
### What the opcodes compute

The operators on 32-bit words against the integers they stand for. Where C
leaves an operation undefined, or the machine faults, the operand values are
excluded by name.
-/

section Results

variable {x y : Word}

/-- The bit test and the mask of a sign extension, whatever their width is. -/
theorem signExtension_iff (n : Nat) (positive : BitVec.twoPow 32 n ≠ 0) :
    (if x &&& BitVec.twoPow 32 n ≠ 0 then x ||| (BitVec.allOnes 32 <<< (n + 1)) else x) =
        BitVec.ofInt 32 (x.setWidth (n + 1)).toInt ↔
      x.getLsbD n = true ∨ x.toNat < 2 ^ (n + 1) := by
  show _ = (x.setWidth (n + 1)).signExtend 32 ↔ _
  rw [BitVec.and_twoPow]
  cases sign : x.getLsbD n with
  | true =>
      rw [if_pos rfl, if_pos positive, or_shiftLeft_eq_signExtend sign]
      simp
  | false =>
      simp only [Bool.false_eq_true, if_false, ne_eq, false_or]
      exact eq_signExtend_iff sign

/-- Where the quotient is a word, the division does not fault. -/
theorem divisionFaults_eq_false (divisor : y ≠ 0) (quotient : x.toInt.tdiv y.toInt < 2 ^ 31) :
    divisionFaults x y = false := by
  have noOverflow : ¬ (x = BitVec.intMin 32 ∧ y = -1) := by
    rintro ⟨rfl, rfl⟩
    exact absurd quotient (by decide)
  simp only [divisionFaults, Bool.or_eq_false_iff, Bool.and_eq_false_iff, beq_eq_false_iff_ne]
  exact ⟨divisor, not_and_or.mp noOverflow⟩

/-- Division truncates, and is the integer quotient except for the one quotient that
needs 33 bits. -/
theorem sdiv_eq_ofInt (divisor : y ≠ 0) (quotient : x.toInt.tdiv y.toInt < 2 ^ 31) :
    x.sdiv y = BitVec.ofInt 32 (x.toInt.tdiv y.toInt) := by
  have noFault := divisionFaults_eq_false divisor quotient
  simp only [divisionFaults, Bool.or_eq_false_iff, Bool.and_eq_false_iff, beq_eq_false_iff_ne] at noFault
  apply eq_ofInt_of_toInt
  exact BitVec.toInt_sdiv_of_ne_or_ne x y noFault.2

variable {op : VmOp}

/-- Only the opcodes on one operand extend. -/
theorem extendsRight_of_not_unary (notUnary : ∀ result, op.integer? ≠ some (.unary result)) :
    ExtendsRight op x := by
  cases op
  case opSex8 | opSex16 => exact absurd rfl (notUnary _)
  all_goals trivial

variable (fpu : FloatUnit)

/-- The opcodes on one operand. -/
theorem unary_result {result : Word → Int} (integer : op.integer? = some (.unary result)) :
    ∃ operation : Word → Word,
      (∀ s param, runOpcode fpu op param s = some (.next (s.unary operation))) ∧
        ∀ x, operation x = BitVec.ofInt 32 (result x) ↔ ExtendsRight op x := by
  cases op
  case opSex8 =>
      cases integer
      exact ⟨_, fun _ _ => rfl, fun x => signExtension_iff 7 (by decide)⟩
  case opSex16 =>
      cases integer
      exact ⟨_, fun _ _ => rfl, fun x => signExtension_iff 15 (by decide)⟩
  case opNegi =>
      cases integer
      exact ⟨_, fun _ _ => rfl, fun x => iff_of_true neg_eq_ofInt trivial⟩
  case opBcom =>
      cases integer
      exact ⟨_, fun _ _ => rfl, fun x => iff_of_true not_eq_ofInt trivial⟩
  all_goals cases integer

/-- The opcodes on two operands. -/
theorem binary_result {result : Word → Word → Int} (integer : op.integer? = some (.binary result))
    (defined : op.DefinedOn x y) :
    ∃ operation : Word → Word → Word, operation x y = BitVec.ofInt 32 (result x y) ∧
      ∀ s param, s.top 1 = x → s.top 0 = y →
        runOpcode fpu op param s = some (.next (s.binary operation)) := by
  cases op
  case opAdd =>
      cases integer
      exact ⟨_, add_eq_ofInt, fun _ _ _ _ => rfl⟩
  case opSub =>
      cases integer
      exact ⟨_, sub_eq_ofInt, fun _ _ _ _ => rfl⟩
  case opMuli =>
      cases integer
      exact ⟨_, mul_eq_ofInt, fun _ _ _ _ => rfl⟩
  case opMulu =>
      cases integer
      exact ⟨_, eq_ofInt_of_toNat (BitVec.toNat_mul x y), fun _ _ _ _ => rfl⟩
  case opBand =>
      cases integer
      exact ⟨_, eq_ofInt_of_toNat_eq (BitVec.toNat_and x y), fun _ _ _ _ => rfl⟩
  case opBor =>
      cases integer
      exact ⟨_, eq_ofInt_of_toNat_eq (BitVec.toNat_or x y), fun _ _ _ _ => rfl⟩
  case opBxor =>
      cases integer
      exact ⟨_, eq_ofInt_of_toNat_eq (BitVec.toNat_xor x y), fun _ _ _ _ => rfl⟩
  case opLsh =>
      cases integer
      have count : y.toNat % 32 = y.toNat := Nat.mod_eq_of_lt defined
      refine ⟨_, ?_, fun _ _ _ _ => rfl⟩
      rw [count]
      exact shiftLeft_eq_ofInt y.toNat
  case opRshi =>
      cases integer
      have count : y.toNat % 32 = y.toNat := Nat.mod_eq_of_lt defined
      refine ⟨_, ?_, fun _ _ _ _ => rfl⟩
      rw [count]
      exact sshiftRight_eq_ofInt y.toNat
  case opRshu =>
      cases integer
      have count : y.toNat % 32 = y.toNat := Nat.mod_eq_of_lt defined
      refine ⟨_, ?_, fun _ _ _ _ => rfl⟩
      rw [count]
      exact ushiftRight_eq_ofInt y.toNat
  case opDivi =>
      cases integer
      refine ⟨_, sdiv_eq_ofInt defined.1 defined.2, ?_⟩
      intro s param below onTop
      rw [runOpcode, below, onTop, divisionFaults_eq_false defined.1 defined.2]
      rfl
  case opModi =>
      cases integer
      refine ⟨_, eq_ofInt_of_toInt (BitVec.toInt_srem x y), ?_⟩
      intro s param below onTop
      rw [runOpcode, below, onTop, divisionFaults_eq_false defined.1 defined.2]
      rfl
  case opDivu =>
      cases integer
      refine ⟨_, eq_ofInt_of_toNat_eq BitVec.toNat_udiv, ?_⟩
      intro s param _ onTop
      exact if_neg (onTop.trans_ne defined)
  case opModu =>
      cases integer
      refine ⟨_, eq_ofInt_of_toNat_eq BitVec.toNat_umod, ?_⟩
      intro s param _ onTop
      exact if_neg (onTop.trans_ne defined)
  all_goals cases integer

/-- Words are equal exactly when the integers they stand for are. -/
theorem beq_eq_decide_toInt : (x == y) = decide (x.toInt = y.toInt) := by
  rw [Bool.eq_iff_iff, beq_iff_eq, decide_eq_true_iff, BitVec.toInt_inj]

/-- The comparisons. -/
theorem branch_result {condition : Word → Word → Bool} {param : Word} {s : RunState}
    (integer : op.integer? = some (.branch condition)) :
    runOpcode fpu op param s = some (.next (s.branch condition param)) := by
  cases op
  case opEq =>
      cases integer
      simp only [runOpcode, beq_eq_decide_toInt]
  case opNe =>
      cases integer
      simp only [runOpcode, bne, beq_eq_decide_toInt, ne_eq, decide_not]
  case opLti | opLei | opGti | opGei | opLtu | opLeu | opGtu | opGeu =>
      cases integer
      rfl
  all_goals cases integer

end Results

/-!
### One pass

A pass of the interpreter pops the operands and leaves the result, and nothing
else of the state changes.
-/

section Pass

variable {fpu : FloatUnit} {s t : RunState}

/-- The state in which the opcode is executed: the pointer is behind the
instruction. -/
def RunState.behind (s : RunState) : RunState := { s with opPointer := s.opPointer + 8 }

theorem top_setTop (i : Nat) (value : Word) : (s.setTop i value).top i = value :=
  readWord_writeWord_same value

theorem top_pop (i n : Nat) : (s.pop n).top i = s.top (n + i) := by
  have address : s.opStack + BitVec.ofNat 32 (4 * n) + BitVec.ofNat 32 (4 * i) =
      s.opStack + BitVec.ofNat 32 (4 * (n + i)) := by
    rw [BitVec.add_assoc, ← BitVec.ofNat_add, Nat.mul_add]
  rw [RunState.top, RunState.top, ← address]
  rfl

theorem pop_zero : s.pop 0 = s := by simp [RunState.pop]

/-- A value written to the word that is on top after the operands are popped. -/
theorem resultLeft_iff (shorter : Nat) (value : Word) (result : Int) :
    ResultLeft s ((s.behind.setTop shorter value).pop shorter) shorter result ↔
      value = BitVec.ofInt 32 result := by
  have onTop : ((s.behind.setTop shorter value).pop shorter).top 0 = value := by
    rw [top_pop]
    exact top_setTop shorter value
  constructor
  · intro left
    exact onTop.symm.trans left.top
  · intro same
    refine ⟨onTop.trans same, rfl, ?_, rfl, rfl, rfl⟩
    intro b outside
    exact write_of_not_inRange outside

/-- A conditional branch pops two operands and goes where the comparison says. -/
theorem branched (condition : Word → Word → Bool) (param : Word) :
    Branched s (s.behind.branch condition param) (condition (s.top 1) (s.top 0)) param := by
  have operands (i : Nat) : s.behind.top i = s.top i := rfl
  rw [RunState.branch, operands, operands]
  cases condition (s.top 1) (s.top 0) with
  | true => exact ⟨rfl, rfl, rfl, rfl, rfl⟩
  | false => exact ⟨rfl, rfl, rfl, rfl, rfl⟩

/-- What holds of the state a pass leaves. -/
theorem exists_next_iff {P : RunState → Prop} (ran : runPass fpu s = some (.next t)) :
    (∃ u, runPass fpu s = some (.next u) ∧ P u) ↔ P t := by
  constructor
  · rintro ⟨u, ranTo, holds⟩
    cases ran.symm.trans ranTo
    exact holds
  · intro holds
    exact ⟨t, ran, holds⟩

end Pass

/-- One pass at an integer opcode does what the opcode is for and nothing else,
except for a sign extension of an operand whose low part is not negative and
whose upper bits are not clear. -/
theorem integerOpcode_done_iff {fpu : FloatUnit} {s : RunState} {op : VmOp} {param : Word}
    {meaning : IntegerMeaning} (at_ : AtInstruction s op param) (integer : op.integer? = some meaning)
    (defined : op.DefinedOn (s.top 1) (s.top 0)) :
    (∃ t, runPass fpu s = some (.next t) ∧ meaning.Done s t param) ↔ ExtendsRight op (s.top 0) := by
  have pass := @runPass_at fpu s op param at_
  cases meaning with
  | unary result =>
      obtain ⟨operation, computes, extends_⟩ := unary_result fpu integer
      rw [computes] at pass
      rw [exists_next_iff pass, ← extends_]
      have left := @resultLeft_iff s 0 (operation (s.top 0)) (result (s.top 0))
      rw [pop_zero] at left
      exact left
  | binary result =>
      have extends_ : ExtendsRight op (s.top 0) := by
        apply extendsRight_of_not_unary
        simp [integer]
      obtain ⟨operation, exact_, computes⟩ := binary_result fpu integer defined
      rw [computes { s with opPointer := s.opPointer + 8 } param rfl rfl] at pass
      rw [exists_next_iff pass]
      apply iff_of_true _ extends_
      exact (resultLeft_iff 1 _ _).mpr exact_
  | branch condition =>
      have extends_ : ExtendsRight op (s.top 0) := by
        apply extendsRight_of_not_unary
        simp [integer]
      rw [branch_result fpu integer] at pass
      rw [exists_next_iff pass]
      apply iff_of_true _ extends_
      exact branched condition param

/-- The VM is about to extend the word on top of its operand stack. -/
def extensionState (op : VmOp) (x : Word) : RunState where
  vm := bssVm
  mem := writeWord (writeWord (fun _ => 0) bssVm.codeSegment (BitVec.ofInt 32 op.toInt)) bssVm.opStack x
  messages := []
  opStack := bssVm.opStack
  opPointer := bssVm.codeSegment

/-- The exact condition at a byte whose sign bit is set: `OP_SEX8` extends it
rightly. -/
theorem extensionState_negative : ∃ t, runPass noFloats (extensionState .opSex8 0x180) = some (.next t) ∧
    (IntegerMeaning.unary fun x => (x.setWidth 8).toInt).Done (extensionState .opSex8 0x180) t 0 := by
  have at_ : AtInstruction (extensionState .opSex8 0x180) .opSex8 0 :=
    ⟨by decide +kernel, by decide +kernel⟩
  have sign : ((extensionState .opSex8 0x180).top 0).getLsbD 7 = true := by decide +kernel
  exact (integerOpcode_done_iff at_ rfl trivial).mpr (.inl sign)

/-- The low eight bits of 0x100 are 0, and it is left as it is. -/
theorem upperBits_stay : ¬ ∀ (s : RunState) (op : VmOp) (param : Word) (meaning : IntegerMeaning),
    AtInstruction s op param → op.integer? = some meaning → op.DefinedOn (s.top 1) (s.top 0) →
      ∃ t, runPass noFloats s = some (.next t) ∧ meaning.Done s t param := by
  intro always
  have at_ : AtInstruction (extensionState .opSex8 0x100) .opSex8 0 :=
    ⟨by decide +kernel, by decide +kernel⟩
  obtain ⟨t, ran, done⟩ := always _ _ _ _ at_ rfl trivial
  rw [runPass_at at_] at ran
  have kept : t.top 0 = 0x100 := by
    cases ran
    decide +kernel
  have operand : (extensionState .opSex8 0x100).top 0 = 0x100 := by decide +kernel
  have extended := done.top
  rw [kept, operand] at extended
  exact absurd extended (by decide)

end Q3df.Client
