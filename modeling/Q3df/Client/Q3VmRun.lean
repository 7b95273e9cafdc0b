/-
Module: Q3df.Client.Q3VmRun
Layer: Client
Purpose: `Q3Vm::Run` and `Q3Vm::Exec`, the interpreter of a loaded VM: the effect of each opcode on
  the registers, the operand stack and the memory, the traps and host functions a `CALL` leaves the
  interpreter for, and the `Exec`s in progress, which nest when the engine calls the VM again from a
  trap. Memory is the whole memory of the process; float operations are a parameter.
Imports: Q3df.Library.Memory, Q3df.Library.Transition, Q3df.Client.Vm
Trusted boundary: human-reviewed transcription of client/Q3Vm.cc, lines 64-451. Shift counts are
  taken modulo 32 and a division by zero or of the smallest integer by -1 faults, as the processor
  does it.
Main exports: FloatUnit, RunState, OpOutcome, runOpcode, callReturn, AtInstruction, Activation,
  VmProcess, VmAction, VmProcess.exec, VmProcess.step
Open obligations: none
-/
import Q3df.Library.Memory
import Q3df.Library.Transition
import Q3df.Client.Vm

namespace Q3df.Client

open ByteMemory

/-- The float operations of the processor, on the patterns of their operands. -/
structure FloatUnit where
  eq : Word → Word → Bool
  lt : Word → Word → Bool
  le : Word → Word → Bool
  neg : Word → Word
  add : Word → Word → Word
  sub : Word → Word → Word
  div : Word → Word → Word
  mul : Word → Word → Word
  ofInt : Word → Word
  toInt : Word → Word

/-- A unit for programs without floats. -/
def noFloats : FloatUnit :=
  { eq := fun _ _ => false, lt := fun _ _ => false, le := fun _ _ => false, neg := fun x => x
    add := fun x _ => x, sub := fun x _ => x, div := fun x _ => x, mul := fun x _ => x
    ofInt := fun x => x, toInt := fun x => x }

/-- What the interpreter asks the engine to print or to abort with. -/
inductive VmMessage where
  | printError (text : String)
  | error (text : String)
deriving Repr, DecidableEq

/-- `vm_`, the memory of the process, the texts printed so far, and the two
local registers of `Run`. -/
structure RunState where
  vm : Vm
  mem : Memory
  messages : List VmMessage
  opStack : Word
  opPointer : Word

/-- `(int)(p - q)` for pointers to ints. -/
def intsBetween (p q : Word) : Word := (p - q).sshiftRight 2

namespace RunState

variable (s : RunState)

/-- `opStack[i]`. -/
def top (i : Nat) : Word := readWord s.mem (s.opStack + BitVec.ofNat 32 (4 * i))

/-- `opStack[i] = value`. -/
def setTop (i : Nat) (value : Word) : RunState :=
  { s with mem := writeWord s.mem (s.opStack + BitVec.ofNat 32 (4 * i)) value }

/-- `opStack += n`. -/
def pop (n : Nat) : RunState := { s with opStack := s.opStack + BitVec.ofNat 32 (4 * n) }

/-- `opStack--; opStack[0] = value`. -/
def push (value : Word) : RunState := { s with opStack := s.opStack - 4 }.setTop 0 value

/-- `GOTO(x)`. -/
def goto (x : Word) : RunState := { s with opPointer := s.vm.codeSegment + x * 8 }

/-- The second word of the current frame, where `ENTER` keeps the return address. -/
def savedPc : Word := s.vm.dataSegment + s.vm.opBase + 4

/-- `&dataSegment[address & dataSegmentMask]`. -/
def dataPointer (address : Word) : Word := s.vm.dataSegment + (address &&& s.vm.dataSegmentMask)

/-- Where a load or store goes: addresses from `memorySize` on are real pointers. -/
def accessPointer (address : Word) : Word :=
  if s.vm.memorySize.toInt ≤ address.toInt then address else s.dataPointer address

/-- The load opcodes, by the read they make. -/
def load (read : Memory → Word → Word) : RunState :=
  s.setTop 0 (read s.mem (s.accessPointer (s.top 0)))

/-- The store opcodes, by their width. -/
def store (length : Nat) : RunState :=
  { s with mem := write s.mem (s.accessPointer (s.top 1)) length (s.top 0) }.pop 2

/-- The conditional branches: compare `opStack[1]` with `opStack[0]`, then pop
both. -/
def branch (condition : Word → Word → Bool) (param : Word) : RunState :=
  (if condition (s.top 1) (s.top 0) then s.goto param else s).pop 2

/-- `opStack[1] operation opStack[0]; opStack++`. -/
def binary (operation : Word → Word → Word) : RunState :=
  (s.setTop 1 (operation (s.top 1) (s.top 0))).pop 1

/-- `opStack[0] = operation opStack[0]`. -/
def unary (operation : Word → Word) : RunState := s.setTop 0 (operation (s.top 0))

/-- The `do` loop of `BLOCK_COPY`: one word, and `rounds` more. -/
def copyWords : Nat → Word → Word → Memory → Memory
  | 0, src, dst, mem => writeWord mem dst (readWord mem src)
  | rounds + 1, src, dst, mem => copyWords rounds (src + 4) (dst + 4) (writeWord mem dst (readWord mem src))

/-- `BLOCK_COPY`. The loop counts `param >> 2` down to zero after the first word. -/
def blockCopy (param : Word) : RunState :=
  let messages :=
    if param &&& 3 ≠ 0 then
      s.messages ++ [.error "VM_Run: OP_BLOCK_COPY not dword aligned"]
    else s.messages
  let rounds := (param.sshiftRight 2 - 1).toNat
  { s with
    mem := copyWords rounds (s.dataPointer (s.top 0)) (s.dataPointer (s.top 1)) s.mem
    messages := messages }.pop 2

end RunState

/-- How one opcode ends: the loop goes on, or a `CALL` leaves the interpreter
for the trap or host function with that address. -/
inductive OpOutcome where
  | next (s : RunState)
  | calls (param : Word) (s : RunState)

/-- `CALL`. A negative address is a trap, one from `memorySize` on a host
function. -/
def RunState.call (s : RunState) : OpOutcome :=
  let param := s.top 0
  if param.toInt < 0 ∨ s.vm.memorySize.toInt ≤ param.toInt then
    .calls param
      { s with vm := { s.vm with opStack := s.opStack, opPointer := s.opPointer, hookRealfunc := 0 } }
  else
    .next ((s.setTop 0 (intsBetween s.opPointer s.vm.codeSegment)).goto param)

/-- The rest of a `CALL` once the trap or host function has returned. -/
def callReturn (param ret : Word) (s : RunState) : RunState :=
  let s := { s with opStack := s.vm.opStack, opPointer := s.vm.opPointer }
  if s.vm.hookRealfunc ≠ 0 ∧ s.vm.memorySize.toInt ≤ param.toInt then
    (s.setTop 0 (intsBetween s.opPointer s.vm.codeSegment)).goto s.vm.hookRealfunc
  else s.setTop 0 ret

/-- Signed division and remainder fault on these operands. -/
def divisionFaults (x y : Word) : Bool := y == 0 || (x == BitVec.intMin 32 && y == -1)

/-- The `switch` of `Run`, for an opcode of the header; `opPointer` is behind
the instruction already and `none` is a fault of the processor. -/
def runOpcode (fpu : FloatUnit) (op : VmOp) (param : Word) (s : RunState) : Option OpOutcome :=
  match op with
  | .opUndef | .opNop | .opBreak =>
      some (.next { s with messages := s.messages ++
        [.printError ("VM_Run: Unhandled opcode(" ++ toString op.toInt ++ ")")] })
  | .opEnter =>
      let s' := { s with vm := { s.vm with opBase := s.vm.opBase - param } }
      some (.next ({ s' with mem := writeWord s.mem s'.savedPc (s.top 0) }.pop 1))
  | .opLeave =>
      some (.next { s with
        opPointer := s.vm.codeSegment + readWord s.mem s.savedPc * 4
        vm := { s.vm with opBase := s.vm.opBase + param } })
  | .opCall => some s.call
  | .opPush => some (.next (s.push 0))
  | .opPop => some (.next (s.pop 1))
  | .opConst => some (.next (s.push param))
  | .opLocal => some (.next (s.push (param + s.vm.opBase)))
  | .opJump => some (.next ((s.goto (s.top 0)).pop 1))
  | .opEq => some (.next (s.branch (fun x y => x == y) param))
  | .opNe => some (.next (s.branch (fun x y => x != y) param))
  | .opLti => some (.next (s.branch (fun x y => decide (x.toInt < y.toInt)) param))
  | .opLei => some (.next (s.branch (fun x y => decide (x.toInt ≤ y.toInt)) param))
  | .opGti => some (.next (s.branch (fun x y => decide (x.toInt > y.toInt)) param))
  | .opGei => some (.next (s.branch (fun x y => decide (x.toInt ≥ y.toInt)) param))
  | .opLtu => some (.next (s.branch (fun x y => decide (x.toNat < y.toNat)) param))
  | .opLeu => some (.next (s.branch (fun x y => decide (x.toNat ≤ y.toNat)) param))
  | .opGtu => some (.next (s.branch (fun x y => decide (x.toNat > y.toNat)) param))
  | .opGeu => some (.next (s.branch (fun x y => decide (x.toNat ≥ y.toNat)) param))
  | .opEqf => some (.next (s.branch fpu.eq param))
  | .opNef => some (.next (s.branch (fun x y => !fpu.eq x y) param))
  | .opLtf => some (.next (s.branch fpu.lt param))
  | .opLef => some (.next (s.branch fpu.le param))
  | .opGtf => some (.next (s.branch (fun x y => fpu.lt y x) param))
  | .opGef => some (.next (s.branch (fun x y => fpu.le y x) param))
  | .opLoad1 => some (.next (s.load fun mem pointer => (mem pointer).setWidth 32))
  | .opLoad2 => some (.next (s.load fun mem pointer => (readHalf mem pointer).setWidth 32))
  | .opLoad4 => some (.next (s.load readWord))
  | .opStore1 => some (.next (s.store 1))
  | .opStore2 => some (.next (s.store 2))
  | .opStore4 => some (.next (s.store 4))
  | .opArg =>
      some (.next ({ s with
        mem := writeWord s.mem (s.dataPointer (param + s.vm.opBase)) (s.top 0) }.pop 1))
  | .opBlockCopy => some (.next (s.blockCopy param))
  | .opSex8 => some (.next (s.unary fun x => if x &&& 0x80 ≠ 0 then x ||| 0xFFFFFF00 else x))
  | .opSex16 => some (.next (s.unary fun x => if x &&& 0x8000 ≠ 0 then x ||| 0xFFFF0000 else x))
  | .opNegi => some (.next (s.unary fun x => -x))
  | .opAdd => some (.next (s.binary fun x y => x + y))
  | .opSub => some (.next (s.binary fun x y => x - y))
  | .opDivi =>
      if divisionFaults (s.top 1) (s.top 0) then none else some (.next (s.binary BitVec.sdiv))
  | .opDivu => if s.top 0 = 0 then none else some (.next (s.binary BitVec.udiv))
  | .opModi =>
      if divisionFaults (s.top 1) (s.top 0) then none else some (.next (s.binary BitVec.srem))
  | .opModu => if s.top 0 = 0 then none else some (.next (s.binary BitVec.umod))
  | .opMuli | .opMulu => some (.next (s.binary fun x y => x * y))
  | .opBand => some (.next (s.binary fun x y => x &&& y))
  | .opBor => some (.next (s.binary fun x y => x ||| y))
  | .opBxor => some (.next (s.binary fun x y => x ^^^ y))
  | .opBcom => some (.next (s.unary fun x => ~~~x))
  | .opLsh => some (.next (s.binary fun x y => x <<< (y.toNat % 32)))
  | .opRshi => some (.next (s.binary fun x y => x.sshiftRight (y.toNat % 32)))
  | .opRshu => some (.next (s.binary fun x y => x >>> (y.toNat % 32)))
  | .opNegf => some (.next (s.unary fpu.neg))
  | .opAddf => some (.next (s.binary fpu.add))
  | .opSubf => some (.next (s.binary fpu.sub))
  | .opDivf => some (.next (s.binary fpu.div))
  | .opMulf => some (.next (s.binary fpu.mul))
  | .opCvif => some (.next (s.unary fpu.ofInt))
  | .opCvfi => some (.next (s.unary fpu.toInt))

/-- One pass of the loop: fetch the instruction, move behind it, execute it. -/
def runPass (fpu : FloatUnit) (s : RunState) : Option OpOutcome :=
  let op := readWord s.mem s.opPointer
  let param := readWord s.mem (s.opPointer + 4)
  let s := { s with opPointer := s.opPointer + 8 }
  match VmOp.ofInt? op.toInt with
  | some vmOp => runOpcode fpu vmOp param s
  | none =>
      some (.next { s with messages := s.messages ++
        [.printError ("VM_Run: Unhandled opcode(" ++ toString op.toInt ++ ")")] })

/-- The pointer is at an instruction with this opcode and parameter. -/
structure AtInstruction (s : RunState) (op : VmOp) (param : Word) : Prop where
  op : VmOp.ofInt? (readWord s.mem s.opPointer).toInt = some op
  param : readWord s.mem (s.opPointer + 4) = param

/-- A pass executes it with the pointer behind it. -/
theorem runPass_at {fpu : FloatUnit} {s : RunState} {op : VmOp} {param : Word}
    (at_ : AtInstruction s op param) :
    runPass fpu s = runOpcode fpu op param { s with opPointer := s.opPointer + 8 } := by
  rw [runPass, at_.op, at_.param]

/-!
### Exec, and Execs within Execs

The process is the stack of the calls of `Exec` that have not returned, the
innermost one first. Only that one runs, and a trap or a hook may call `Exec`
again before it returns.
-/

/-- One `Exec` in progress with the `Run` it has called. `pending` is the
function address of a `CALL` whose trap or host function has not returned. -/
structure Activation where
  args : Word
  opStack : Word
  opPointer : Word
  pending : Option Word
deriving Repr, DecidableEq

/-- The VM object in its process: the `Exec`s in progress, the innermost first,
and the results of the finished ones, the latest first. -/
structure VmProcess where
  vm : Vm
  mem : Memory
  messages : List VmMessage
  activations : List Activation
  results : List Word

/-- What can happen next: the proxy or the engine calls `Exec`, the innermost
`Run` makes a pass of its loop, or the trap it waits for returns, leaving the
memory as it likes. -/
inductive VmAction where
  | exec (command : Word) (arg : Vector Word 12)
  | pass
  | callReturns (ret : Word) (mem : Memory)

namespace VmProcess

/-- The words `Exec` lays down, from `args[0]` on. -/
def execWords (vm : Vm) (command : Word) (arg : Vector Word 12) : List Word :=
  0 :: intsBetween vm.opPointer vm.codeSegment :: command :: arg.toList

/-- `Exec` up to its call of `Run`, and the beginning of `Run`. -/
def exec (p : VmProcess) (command : Word) (arg : Vector Word 12) : VmProcess :=
  let opBase := p.vm.opBase - 15 * 4
  let args := p.vm.dataSegment + opBase
  let opStack := p.vm.opStack - 4
  let mem := writeWords p.mem args (execWords p.vm command arg)
  { p with
    vm := { p.vm with opBase := opBase, opStack := opStack, opPointer := p.vm.codeSegment }
    mem := writeWord mem opStack (intsBetween 0 p.vm.codeSegment)
    activations :=
      { args := args, opStack := opStack, opPointer := p.vm.codeSegment, pending := none } ::
        p.activations }

/-- The state the innermost `Run` works on. -/
def runState (p : VmProcess) (a : Activation) : RunState :=
  { vm := p.vm, mem := p.mem, messages := p.messages, opStack := a.opStack, opPointer := a.opPointer }

/-- Store the state of the innermost `Run` back. At the end of its loop `Run`
returns, and `Exec` restores the registers and picks its result from the operand
stack. -/
def loopTest (p : VmProcess) (a : Activation) (outer : List Activation) (s : RunState) : VmProcess :=
  if s.opPointer ≠ 0 then
    { p with
      vm := s.vm
      mem := s.mem
      messages := s.messages
      activations :=
        { a with opStack := s.opStack, opPointer := s.opPointer, pending := none } :: outer }
  else
    { vm := { s.vm with
        opPointer := s.vm.codeSegment + readWord s.mem (a.args + 4) * 4
        opBase := s.vm.opBase + 15 * 4
        opStack := s.opStack + 4 }
      mem := s.mem
      messages := s.messages
      activations := outer
      results := readWord s.mem s.opStack :: p.results }

/-- One action; `none` when it cannot happen now or faults. `Exec` is called
from outside the interpreter only: when no `Run` is active, or from the trap the
innermost one waits for. -/
def step (fpu : FloatUnit) (p : VmProcess) : VmAction → Option VmProcess
  | .exec command arg =>
      match p.activations with
      | [] => some (p.exec command arg)
      | a :: _ => if a.pending.isSome then some (p.exec command arg) else none
  | .pass =>
      match p.activations with
      | [] => none
      | a :: outer =>
          if a.pending.isSome then none
          else
            (runPass fpu (p.runState a)).map fun
              | .next s => p.loopTest a outer s
              | .calls param s =>
                  { p with
                    vm := s.vm
                    messages := s.messages
                    activations :=
                      { a with opStack := s.opStack, opPointer := s.opPointer, pending := some param } ::
                        outer }
  | .callReturns ret mem =>
      match p.activations with
      | [] => none
      | a :: outer =>
          a.pending.map fun param =>
            p.loopTest a outer (callReturn param ret { p.runState a with mem := mem })

end VmProcess

/-!
### The segments never change

Opcodes, traps and `Exec`s move the registers. Everything else in `vm_` stays as
the loader has set it.
-/

/-- `vm_` without its registers. -/
def Vm.segments (vm : Vm) : Vm :=
  { vm with opPointer := 0, opStack := 0, opBase := 0, hookRealfunc := 0 }

/-- The state an opcode leaves, wherever execution goes on. -/
def OpOutcome.state : OpOutcome → RunState
  | next s => s
  | calls _ s => s

section Segments

variable {fpu : FloatUnit} {s : RunState} {p q : VmProcess}

/-- A jump moves the instruction pointer and nothing else in the record. -/
theorem branch_segments (condition : Word → Word → Bool) (param : Word) :
    (OpOutcome.next (s.branch condition param)).state.vm.segments = s.vm.segments := by
  rw [RunState.branch]
  split <;> rfl

theorem call_segments : s.call.state.vm.segments = s.vm.segments := by
  simp only [RunState.call]
  split <;> rfl

/-- An opcode leaves the segments where they are. -/
theorem runOpcode_segments {op : VmOp} {param : Word} {outcome : OpOutcome}
    (ran : runOpcode fpu op param s = some outcome) : outcome.state.vm.segments = s.vm.segments := by
  cases op
  case opCall =>
      cases ran
      exact call_segments
  case opDivi | opDivu | opModi | opModu =>
      simp only [runOpcode] at ran
      split at ran <;> cases ran
      rfl
  all_goals
    cases ran
    first
      | rfl
      | apply branch_segments

/-- A pass leaves the segments where they are. -/
theorem runPass_segments {outcome : OpOutcome} (ran : runPass fpu s = some outcome) :
    outcome.state.vm.segments = s.vm.segments := by
  simp only [runPass] at ran
  split at ran
  · have moved := runOpcode_segments ran
    exact moved
  · cases ran
    rfl

theorem callReturn_segments {param ret : Word} :
    (callReturn param ret s).vm.segments = s.vm.segments := by
  simp only [callReturn]
  split <;> rfl

theorem loopTest_segments {a : Activation} {outer : List Activation} :
    (p.loopTest a outer s).vm.segments = s.vm.segments := by
  unfold VmProcess.loopTest
  split <;> rfl

/-- A step of the process leaves the segments where they are. -/
theorem step_segments {action : VmAction} (stepped : p.step fpu action = some q) :
    q.vm.segments = p.vm.segments := by
  cases action with
  | exec command arg =>
      simp only [VmProcess.step] at stepped
      split at stepped
      · cases stepped
        rfl
      · split at stepped <;> cases stepped
        rfl
  | pass =>
      simp only [VmProcess.step] at stepped
      split at stepped
      · cases stepped
      · split at stepped
        · cases stepped
        · rename_i a outer _ _
          obtain ⟨outcome, ran, rfl⟩ := Option.map_eq_some_iff.mp stepped
          have same := runPass_segments ran
          cases outcome with
          | next s => exact loopTest_segments.trans same
          | calls param s => exact same
  | callReturns ret mem =>
      simp only [VmProcess.step] at stepped
      split at stepped
      · cases stepped
      · obtain ⟨param, -, rfl⟩ := Option.map_eq_some_iff.mp stepped
        exact loopTest_segments.trans callReturn_segments

/-- The segments of `q` are those of `p`. -/
def SameSegments (p q : VmProcess) : Prop := q.vm.segments = p.vm.segments

/-- In every state of every run the segments are those of the start. -/
theorem run_segments {actions : List VmAction}
    (ran : Transition.run (VmProcess.step fpu) p actions = some q) : SameSegments p q := by
  have preserved {r u : VmProcess} {action : VmAction} (same : SameSegments p r)
      (stepped : r.step fpu action = some u) : SameSegments p u :=
    (step_segments stepped).trans same
  have start : SameSegments p p := rfl
  exact Transition.run_invariant preserved start ran

end Segments

end Q3df.Client
