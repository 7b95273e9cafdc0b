/-
Module: Q3df.Client.CodeShape
Layer: Client
Purpose: Programs whose functions have the shape `ENTER n`, body, `LEAVE n`. A layout names for
  every instruction of a body the size of its frame and the height of the operand stack above the
  frame's own start, and a well-shaped program agrees with its layout along every edge of its
  control flow. One lemma for each kind of opcode says what the interpreter does to the registers.
Imports: Q3df.Client.Q3VmRun
Trusted boundary: none
Main exports: VmProgram, VmOp.effect, Layout, WellShaped, instr, fetch, ControlStays, runPass_fetch,
  runOpcode_plain, runOpcode_branch
Open obligations: none
-/
import Q3df.Client.Q3VmRun

namespace Q3df.Client

open ByteMemory

/-- The instructions of a program with their parameters. -/
abbrev VmProgram := List (VmOp × Word)

namespace VmOp

/-- The conditional branches. -/
def isBranch : VmOp → Bool
  | .opEq | .opNe | .opLti | .opLei | .opGti | .opGei | .opLtu | .opLeu | .opGtu | .opGeu
  | .opEqf | .opNef | .opLtf | .opLef | .opGtf | .opGef => true
  | _ => false

/-- How much higher the operand stack is after the opcode. A `CALL` takes the
address and leaves the value of the function. -/
def effect : VmOp → Int
  | .opPush | .opConst | .opLocal => 1
  | .opUndef | .opNop | .opBreak | .opLeave | .opCall
  | .opLoad1 | .opLoad2 | .opLoad4 | .opSex8 | .opSex16 | .opNegi | .opBcom | .opNegf
  | .opCvif | .opCvfi => 0
  | .opEnter | .opPop | .opJump | .opArg
  | .opAdd | .opSub | .opDivi | .opDivu | .opModi | .opModu | .opMuli | .opMulu
  | .opBand | .opBor | .opBxor | .opLsh | .opRshi | .opRshu
  | .opAddf | .opSubf | .opDivf | .opMulf => -1
  | .opStore1 | .opStore2 | .opStore4 | .opBlockCopy
  | .opEq | .opNe | .opLti | .opLei | .opGti | .opGei | .opLtu | .opLeu | .opGtu | .opGeu
  | .opEqf | .opNef | .opLtf | .opLef | .opGtf | .opGef => -2

/-- The opcodes that go on to the next instruction whatever the operands are. -/
def isPlain (op : VmOp) : Bool :=
  !op.isBranch && op != .opEnter && op != .opLeave && op != .opCall && op != .opJump

/-- An opcode that neither leaves nor jumps by the stack is not one of the two
that do. -/
theorem ne_leave_jump {op : VmOp} (ordinary : op.isPlain = true ∨ op.isBranch = true) :
    op ≠ .opLeave ∧ op ≠ .opJump := by
  constructor <;> rintro rfl <;> exact absurd ordinary (by decide)

/-- Every opcode is plain, a conditional branch, or one of the four that change the
frame or the instruction pointer by the stack. -/
theorem kinds (op : VmOp) : op.isPlain = true ∨ op.isBranch = true ∨ op = .opEnter ∨ op = .opLeave ∨
    op = .opCall ∨ op = .opJump := by
  cases op <;> decide

end VmOp

/-- For every instruction: whether it belongs to the body of a function, the
size of the function's frame, and the height of the operand stack before it. -/
structure Layout where
  body : Nat → Bool
  locals : Nat → Word
  height : Nat → Int

/-- The instruction belongs to a body with this frame size, at this height. -/
def Layout.At (layout : Layout) (i : Nat) (n : Word) (height : Int) : Prop :=
  layout.body i = true ∧ layout.locals i = n ∧ layout.height i = height

instance (layout : Layout) (i : Nat) (n : Word) (height : Int) : Decidable (layout.At i n height) :=
  inferInstanceAs (Decidable (_ ∧ _))

/-- Every function is `ENTER n`, a body and `LEAVE n`: the body begins with an
empty operand stack of its own, is balanced on every edge, and is left with one
word on it, the value of the call. -/
structure WellShaped (program : VmProgram) (layout : Layout) : Prop where
  entry : ∃ n, program[0]? = some (.opEnter, n)
  enter : ∀ i n, program[i]? = some (.opEnter, n) → layout.At (i + 1) n 0
  instruction : ∀ i, layout.body i = true → ∃ op param,
    program[i]? = some (op, param) ∧ op ≠ .opEnter
  leave : ∀ i n, layout.body i = true → program[i]? = some (.opLeave, n) →
    layout.locals i = n ∧ layout.height i = 1
  next : ∀ i op param, layout.body i = true → program[i]? = some (op, param) →
    op ≠ .opLeave → op ≠ .opJump → layout.At (i + 1) (layout.locals i) (layout.height i + op.effect)
  branch : ∀ i op param, layout.body i = true → program[i]? = some (op, param) → op.isBranch = true →
    layout.At param.toNat (layout.locals i) (layout.height i + op.effect)

/-- Where the `i`-th instruction is, as `GOTO` computes it. -/
def instr (vm : Vm) (i : Nat) : Word := vm.codeSegment + BitVec.ofNat 32 i * 8

/-- The `i`-th instruction in memory. -/
def fetch (vm : Vm) (mem : Memory) (i : Nat) : Option (VmOp × Word) :=
  (VmOp.ofInt? (readWord mem (instr vm i)).toInt).map fun op => (op, readWord mem (instr vm i + 4))

/-- The code segment holds the program. -/
def CodeHolds (program : VmProgram) (vm : Vm) (mem : Memory) : Prop :=
  ∀ i, i < program.length → fetch vm mem i = program[i]?

instance (program : VmProgram) (vm : Vm) (mem : Memory) : Decidable (CodeHolds program vm mem) :=
  inferInstanceAs (Decidable (∀ i, i < program.length → _))

/-- Where the operands of the `i`-th instruction decide where to go on, they
stay with the functions: a `CALL` into the VM goes to an `ENTER`, a `JUMP` stays
in its body. -/
def StaysAt (program : VmProgram) (layout : Layout) (s : RunState) (i : Nat) : Prop :=
  ((program[i]?).map Prod.fst = some .opJump →
    layout.At (s.top 0).toNat (layout.locals i) (layout.height i + VmOp.opJump.effect)) ∧
  ((program[i]?).map Prod.fst = some .opCall → 0 ≤ (s.top 0).toInt →
    (s.top 0).toInt < s.vm.memorySize.toInt →
      (program[(s.top 0).toNat]?).map Prod.fst = some .opEnter)

instance (program : VmProgram) (layout : Layout) (s : RunState) (i : Nat) :
    Decidable (StaysAt program layout s i) :=
  inferInstanceAs (Decidable (_ ∧ _))

/-- The instruction of a body that is about to be executed stays with the
functions. -/
def ControlStays (program : VmProgram) (layout : Layout) (s : RunState) : Prop :=
  ∀ i, i < program.length → s.opPointer = instr s.vm i → layout.body i = true →
    StaysAt program layout s i

instance (program : VmProgram) (layout : Layout) (s : RunState) :
    Decidable (ControlStays program layout s) :=
  inferInstanceAs (Decidable (∀ i, i < program.length → _))

section Addresses

variable {vm : Vm}

/-- Instructions are eight bytes apart: the opcode's word and the parameter's. -/
theorem instr_succ (i : Nat) : instr vm (i + 1) = instr vm i + 8 := by
  rw [instr, instr]
  bv_omega

theorem instr_zero : instr vm 0 = vm.codeSegment := by simp [instr]

/-- `Goto` puts the instruction pointer on the instruction with the given index. -/
theorem goto_opPointer (s : RunState) (x : Word) : (s.goto x).opPointer = instr s.vm x.toNat := by
  simp [RunState.goto, instr]

/-- A height changed by `change` words moves the operand pointer by four times
as many bytes, downwards. -/
theorem height_add (operands : Word) (height change : Int) :
    operands - 4 * BitVec.ofInt 32 (height + change) =
      operands - 4 * BitVec.ofInt 32 height - 4 * BitVec.ofInt 32 change := by
  rw [BitVec.ofInt_add]
  bv_omega

/-- `opStack += n` takes the height down by `n`. -/
theorem pop_height (operands : Word) (n : Nat) :
    operands + BitVec.ofNat 32 (4 * n) = operands - 4 * BitVec.ofInt 32 (-n) := by
  rw [BitVec.ofInt_neg, BitVec.ofInt_natCast, BitVec.mul_neg, BitVec.sub_neg, BitVec.ofNat_mul]
  rfl

end Addresses

section Opcodes

variable {fpu : FloatUnit} {s : RunState} {op : VmOp} {param : Word} {outcome : OpOutcome}

/-- A pass at an instruction of the program executes it with the pointer behind
it. -/
theorem runPass_fetch {i : Nat} (at_ : s.opPointer = instr s.vm i)
    (fetched : fetch s.vm s.mem i = some (op, param)) :
    runPass fpu s = runOpcode fpu op param { s with opPointer := instr s.vm (i + 1) } := by
  obtain ⟨op', known, same⟩ := Option.map_eq_some_iff.mp fetched
  obtain ⟨rfl, rfl⟩ := Prod.mk.inj same
  rw [instr_succ, ← at_] at *
  exact runPass_at ⟨known, rfl⟩

/-- The registers after an opcode that goes on to the next instruction. -/
theorem runOpcode_plain (plain : op.isPlain = true) (ran : runOpcode fpu op param s = some outcome) :
    ∃ t, outcome = .next t ∧ t.vm = s.vm ∧ t.opPointer = s.opPointer ∧
      t.opStack = s.opStack - 4 * BitVec.ofInt 32 op.effect := by
  have up : s.opStack - 4 = s.opStack - 4 * BitVec.ofInt 32 1 := rfl
  have stay : s.opStack = s.opStack - 4 * BitVec.ofInt 32 0 := by simp
  have down := pop_height s.opStack 1
  have downTwo := pop_height s.opStack 2
  cases op
  case opDivi | opDivu | opModi | opModu =>
    simp only [runOpcode] at ran
    split at ran <;> cases ran
    exact ⟨_, rfl, rfl, rfl, down⟩
  case opEnter | opLeave | opCall | opJump => exact absurd plain (by decide)
  case opUndef | opNop | opBreak | opLoad1 | opLoad2 | opLoad4 | opSex8 | opSex16 | opNegi | opBcom
    | opNegf | opCvif | opCvfi =>
    cases ran
    exact ⟨_, rfl, rfl, rfl, stay⟩
  case opPush | opConst | opLocal =>
    cases ran
    exact ⟨_, rfl, rfl, rfl, up⟩
  case opStore1 | opStore2 | opStore4 | opBlockCopy =>
    cases ran
    exact ⟨_, rfl, rfl, rfl, downTwo⟩
  case opPop | opArg | opAdd | opSub | opMuli | opMulu | opBand | opBor | opBxor | opLsh | opRshi
    | opRshu | opAddf | opSubf | opDivf | opMulf =>
    cases ran
    exact ⟨_, rfl, rfl, rfl, down⟩
  all_goals exact absurd plain (by decide)

/-- A conditional branch pops its operands and either falls through or goes to the
instruction its parameter names. It leaves the VM's record alone. -/
theorem runOpcode_branch (branches : op.isBranch = true)
    (ran : runOpcode fpu op param s = some outcome) :
    ∃ t, outcome = .next t ∧ t.vm = s.vm ∧
      (t.opPointer = s.opPointer ∨ t.opPointer = instr s.vm param.toNat) ∧
      t.opStack = s.opStack - 4 * BitVec.ofInt 32 op.effect := by
  have branch (condition : Word → Word → Bool) : ∃ t,
      OpOutcome.next (s.branch condition param) = .next t ∧
      t.vm = s.vm ∧ (t.opPointer = s.opPointer ∨ t.opPointer = instr s.vm param.toNat) ∧
      t.opStack = s.opStack - 4 * BitVec.ofInt 32 (-2) := by
    have downTwo := pop_height s.opStack 2
    refine ⟨_, rfl, ?_⟩
    rw [RunState.branch]
    split
    · exact ⟨rfl, .inr (goto_opPointer s param), downTwo⟩
    · exact ⟨rfl, .inl rfl, downTwo⟩
  cases op
  case opEq | opNe | opLti | opLei | opGti | opGei | opLtu | opLeu | opGtu | opGeu | opEqf | opNef
    | opLtf | opLef | opGtf | opGef =>
    cases ran
    exact branch _
  all_goals exact absurd branches (by decide)

end Opcodes

end Q3df.Client
