/-
Module: Q3df.Client.VmStacks
Layer: Client
Purpose: The two stacks of a loaded VM, the operand stack and the call frames. Both grow downwards
  in the memory block, and with the stack size the constructor sets they start at the same address.
  The headline `exec_stacks_never_separate` says that no `Exec` on a loaded VM keeps them apart: the
  return address pushed before the first instruction lies on the last argument of the frame.
  `arguments_after_enter` says which of the arguments `vmMain` still reads.
Imports: Q3df.Client.ImageBounds, Q3df.Client.Q3VmRun
Trusted boundary: none
Main exports: operandStart, frameStart, OnOperandStack, OnCallFrames, StacksApart, ArgumentsRead,
  StacksSeparate, exec_not_apart, pass_enter, exec_argument, exec_lastArgument,
  arguments_after_enter, exec_stacks_never_separate
Open obligations: none
-/
import Q3df.Client.ImageBounds
import Q3df.Client.Q3VmRun

namespace Q3df.Client

open ByteMemory

/-- A VM that has just been loaded. -/
def VmProcess.loaded (vm : Vm) (mem : Memory) : VmProcess :=
  { vm := vm, mem := mem, messages := [], activations := [], results := [] }

/-!
### The live parts of the stacks

Both stacks grow downwards, from the starts that `Create` computes out of the
stack size it is given.
-/

/-- Where `Create` starts the operand stack. -/
def operandStart (stacksize : Word) (vm : Vm) : Word := vm.stackSegment + stacksize

/-- Where `Create` starts the call frames. -/
def frameStart (stacksize : Word) (vm : Vm) : Word :=
  vm.dataSegment + (vm.dataSegmentLen + stacksize.sdiv 2)

/-- Bytes from a stack pointer up to the start of its stack; none when it stands
above the start. -/
def liveBytes (pointer start : Word) : Nat := (start - pointer).toInt.toNat

/-- The address belongs to a word of the live operand stack. -/
def OnOperandStack (stacksize : Word) (vm : Vm) (opStack address : Word) : Prop :=
  InRange opStack (liveBytes opStack (operandStart stacksize vm)) address

/-- The address belongs to a word of the live call frames. -/
def OnCallFrames (stacksize : Word) (vm : Vm) (address : Word) : Prop :=
  InRange (vm.dataSegment + vm.opBase)
    (liveBytes (vm.dataSegment + vm.opBase) (frameStart stacksize vm)) address

/-- No byte belongs to both stacks of the innermost `Run`. -/
def StacksApart (stacksize : Word) (p : VmProcess) : Prop :=
  ∀ a ∈ p.activations.head?, ∀ address,
    OnOperandStack stacksize p.vm a.opStack address → ¬OnCallFrames stacksize p.vm address

/-- The `i`-th argument word of the current function, which has `locals` bytes
of its own. -/
def VmProcess.argumentWord (p : VmProcess) (locals : Word) (i : Nat) : Word :=
  readWord p.mem (p.vm.dataSegment + p.vm.opBase + locals + 8 + BitVec.ofNat 32 (4 * i))

/-- The program starts with `ENTER locals`. -/
def EntersWith (p : VmProcess) (locals : Word) : Prop :=
  readWord p.mem p.vm.codeSegment = 3 ∧ readWord p.mem (p.vm.codeSegment + 4) = locals

/-- After `vmMain`'s `ENTER` its argument words are what `Exec` was called with.
`entered` is the state at the beginning of `Run`, `p` the one after the first
instruction. -/
def ArgumentsRead (entered p : VmProcess) (command : Word) (arg : Vector Word 12) : Prop :=
  ∀ locals, EntersWith entered locals →
    ∀ i, i < 13 → (command :: arg.toList)[i]? = some (p.argumentWord locals i)

/-- The stacks are kept separate in every run that begins with one `Exec`,
whatever the program, the engine and nested `Exec`s do. -/
structure StacksSeparate (fpu : FloatUnit) (stacksize : Word) (start : VmProcess) (command : Word)
    (arg : Vector Word 12) : Prop where
  apart : ∀ actions p,
    Transition.run (VmProcess.step fpu) start (.exec command arg :: actions) = some p →
      StacksApart stacksize p
  arguments : ∀ p,
    Transition.run (VmProcess.step fpu) start [.exec command arg, .pass] = some p →
      ArgumentsRead (start.exec command arg) p command arg
  nestedArguments : ∀ actions p nestedCommand nestedArg q,
    Transition.run (VmProcess.step fpu) start (.exec command arg :: actions) = some p →
    Transition.run (VmProcess.step fpu) p [.exec nestedCommand nestedArg, .pass] = some q →
      ArgumentsRead (p.exec nestedCommand nestedArg) q nestedCommand nestedArg

/-!
### The first state of an Exec

With the constructor's stack size of 0 both stacks start at the end of the data
segment, so a word pushed on one is a word of the other.
-/

section Loaded

variable {oldmem : Option Word} {env : LoadEnv} {file : List Byte} {vm : Vm} {mem : Memory}

/-- With the constructor's stack size both stacks of a loaded VM start, empty,
at the end of the data segment. -/
theorem stacks_start_together (created : (create 0 oldmem env file).result = .qtrue vm mem) :
    vm.opStack = operandStart 0 vm ∧ vm.dataSegment + vm.opBase = frameStart 0 vm ∧
      operandStart 0 vm = frameStart 0 vm := by
  obtain ⟨-, mask, memory, -, -, rfl, -⟩ := create_eq_qtrue created
  refine ⟨rfl, rfl, ?_⟩
  have half : (0 : Word).sdiv 2 = 0 := by decide
  rw [operandStart, frameStart, half]
  simp [segmentsOf]

/-- A pointer `n` below the start has `n` live bytes above it. -/
theorem liveBytes_sub (start n : Word) : liveBytes (start - n) start = n.toInt.toNat := by
  have distance : start - (start - n) = n := by bv_omega
  rw [liveBytes, distance]

/-- The word below the start is on both stacks once `Exec` has pushed the return
address. -/
theorem exec_not_apart (created : (create 0 oldmem env file).result = .qtrue vm mem) (command : Word)
    (arg : Vector Word 12) :
    ¬StacksApart 0 ((VmProcess.loaded vm mem).exec command arg) := by
  obtain ⟨operands, frames, together⟩ := stacks_start_together created
  intro apart
  have opStack : vm.opStack - 4 = operandStart 0 vm - 4 := by rw [operands]
  have frame : vm.dataSegment + (vm.opBase - 60) = operandStart 0 vm - 60 := by
    rw [together, ← frames]
    bv_omega
  have onOperands : InRange (vm.opStack - 4) (liveBytes (vm.opStack - 4) (operandStart 0 vm))
      (operandStart 0 vm - 4) := by
    rw [opStack, liveBytes_sub, InRange, BitVec.sub_self]
    decide
  have onFrames : InRange (vm.dataSegment + (vm.opBase - 60))
      (liveBytes (vm.dataSegment + (vm.opBase - 60)) (frameStart 0 vm)) (operandStart 0 vm - 4) := by
    have distance : operandStart 0 vm - 4 - (operandStart 0 vm - 60) = 56 := by bv_omega
    rw [frame, ← together, liveBytes_sub, InRange, distance]
    decide
  exact apart _ rfl _ onOperands onFrames

end Loaded

/-!
### The arguments after ENTER

`Exec` lays the arguments on the program's stack, and the first instruction of a
function opens its frame below them. Each argument but the last is then found
where the compiler expects it. In the place of the last one lies the return
address.
-/

section Arguments

variable {fpu : FloatUnit} {oldmem : Option Word} {env : LoadEnv} {file : List Byte} {vm : Vm}
  {mem : Memory} {command locals : Word} {arg : Vector Word 12} {p q : VmProcess}

/-- While its loop goes on `Run` hands on what the opcode has left. -/
theorem loopTest_running {a : Activation} {outer : List Activation} {s : RunState}
    (running : s.opPointer ≠ 0) :
    (p.loopTest a outer s).vm = s.vm ∧ (p.loopTest a outer s).mem = s.mem := by
  rw [VmProcess.loopTest, if_pos running]
  exact ⟨rfl, rfl⟩

/-- A pass that executes `ENTER locals`. -/
theorem runPass_enter {s : RunState} (opcode : readWord s.mem s.opPointer = 3)
    (param : readWord s.mem (s.opPointer + 4) = locals) :
    ∃ t, runPass fpu s = some (.next t) ∧ t.opPointer = s.opPointer + 8 ∧
      t.vm.dataSegment = s.vm.dataSegment ∧ t.vm.opBase = s.vm.opBase - locals ∧
      t.mem = writeWord s.mem (s.vm.dataSegment + (s.vm.opBase - locals) + 4) (s.top 0) := by
  have enters : VmOp.ofInt? (readWord s.mem s.opPointer).toInt = some .opEnter := by
    rw [opcode]
    decide
  exact ⟨_, runPass_at ⟨enters, param⟩, rfl, rfl, rfl, rfl⟩

/-- A pass that stays in the loop, as a step of the process. -/
theorem step_pass_next {a : Activation} {outer : List Activation} {t : RunState}
    (innermost : p.activations = a :: outer) (free : a.pending = none)
    (passed : runPass fpu (p.runState a) = some (.next t)) :
    p.step fpu .pass = some (p.loopTest a outer t) := by
  simp [VmProcess.step, innermost, free, passed]

/-- What `ENTER` does when it is the first instruction of a `Run`. -/
theorem pass_enter (enters : EntersWith (p.exec command arg) locals)
    (inside : p.vm.codeSegment + 8 ≠ 0) (stepped : (p.exec command arg).step fpu .pass = some q) :
    q.vm.dataSegment = p.vm.dataSegment ∧ q.vm.opBase = p.vm.opBase - 60 - locals ∧
      ∃ pc, q.mem = writeWord (p.exec command arg).mem
        (p.vm.dataSegment + (p.vm.opBase - 60 - locals) + 4) pc := by
  have innermost : (p.exec command arg).activations =
      ⟨p.vm.dataSegment + (p.vm.opBase - 60), p.vm.opStack - 4, p.vm.codeSegment, none⟩ ::
        p.activations := rfl
  obtain ⟨t, passed, opPointer, dataSegment, opBase, mem⟩ :=
    @runPass_enter fpu locals ((p.exec command arg).runState
      ⟨p.vm.dataSegment + (p.vm.opBase - 60), p.vm.opStack - 4, p.vm.codeSegment, none⟩)
      enters.1 enters.2
  rw [step_pass_next innermost rfl passed] at stepped
  obtain rfl := Option.some.inj stepped
  have running : t.opPointer ≠ 0 := by
    rw [opPointer]
    exact inside
  rw [(loopTest_running running).1, (loopTest_running running).2]
  exact ⟨dataSegment, opBase, _, mem⟩

/-- `ENTER` saves the return address below the argument words. -/
theorem argumentWord_after_enter (enters : EntersWith (p.exec command arg) locals)
    (nonneg : 0 ≤ locals.toInt) (inside : p.vm.codeSegment + 8 ≠ 0)
    (stepped : (p.exec command arg).step fpu .pass = some q) {i : Nat} (small : i < 13) :
    q.argumentWord locals i = readWord (p.exec command arg).mem
      (p.vm.dataSegment + (p.vm.opBase - 60) + 8 + BitVec.ofNat 32 (4 * i)) := by
  obtain ⟨dataSegment, opBase, pc, mem⟩ := pass_enter enters inside stepped
  have address : p.vm.dataSegment + (p.vm.opBase - 60 - locals) + locals =
      p.vm.dataSegment + (p.vm.opBase - 60) := by bv_omega
  rw [VmProcess.argumentWord, dataSegment, opBase, mem, address]
  apply readWord_write_of_apart
  intro c inWord inSaved
  rw [InRange] at inWord inSaved
  have bound : locals.toNat < 2 ^ 31 := by
    have toNat := SignedWord.toNat_of_toInt_nonneg nonneg
    have lt : locals.toInt < 2 ^ 31 := BitVec.toInt_lt
    omega
  bv_omega

/-- The memory `Exec` leaves: its words on the frame, then the return address on
the operand stack. -/
theorem exec_mem : (p.exec command arg).mem =
    writeWord (writeWords p.mem (p.vm.dataSegment + (p.vm.opBase - 60))
      (VmProcess.execWords p.vm command arg)) (p.vm.opStack - 4) (intsBetween 0 p.vm.codeSegment) := rfl

theorem execWords_length : (VmProcess.execWords p.vm command arg).length = 15 := by
  simp [VmProcess.execWords]

/-- Where both stacks start together, the return address leaves the first twelve
arguments alone. -/
theorem exec_argument (shared : p.vm.opStack = p.vm.dataSegment + p.vm.opBase) {i : Nat}
    (small : i < 12) :
    (command :: arg.toList)[i]? = some (readWord (p.exec command arg).mem
      (p.vm.dataSegment + (p.vm.opBase - 60) + 8 + BitVec.ofNat 32 (4 * i))) := by
  have length := @execWords_length command arg p
  have bound : i + 2 < (VmProcess.execWords p.vm command arg).length := by omega
  have address : p.vm.dataSegment + (p.vm.opBase - 60) + 8 + BitVec.ofNat 32 (4 * i) =
      p.vm.dataSegment + (p.vm.opBase - 60) + BitVec.ofNat 32 (4 * (i + 2)) := by bv_omega
  have pushed : p.vm.opStack - 4 = p.vm.dataSegment + (p.vm.opBase - 60) + 56 := by
    rw [shared]
    bv_omega
  have apart (c : Word)
      (inWord : InRange (p.vm.dataSegment + (p.vm.opBase - 60) + BitVec.ofNat 32 (4 * (i + 2))) 4 c) :
      ¬InRange (p.vm.dataSegment + (p.vm.opBase - 60) + 56) 4 c := by
    generalize p.vm.dataSegment + (p.vm.opBase - 60) = args at inWord
    intro inPushed
    rw [InRange] at inWord inPushed
    bv_omega
  have word : (VmProcess.execWords p.vm command arg)[i + 2]? = (command :: arg.toList)[i]? := by
    rw [VmProcess.execWords, List.getElem?_cons_succ, List.getElem?_cons_succ]
  rw [exec_mem, address, pushed, writeWord, readWord_write_of_apart apart,
    readWord_writeWords (by omega) bound, ← List.getElem?_eq_getElem bound, word]

/-- Where both stacks start together, the return address takes the place of the
last argument. -/
theorem exec_lastArgument (shared : p.vm.opStack = p.vm.dataSegment + p.vm.opBase) :
    readWord (p.exec command arg).mem
      (p.vm.dataSegment + (p.vm.opBase - 60) + 8 + BitVec.ofNat 32 (4 * 12)) =
        intsBetween 0 p.vm.codeSegment := by
  have address : p.vm.dataSegment + (p.vm.opBase - 60) + 8 + BitVec.ofNat 32 (4 * 12) =
      p.vm.opStack - 4 := by
    rw [shared]
    bv_omega
  rw [exec_mem, address, readWord_writeWord_same]

/-- `vmMain` of a loaded VM reads its first twelve argument words as `Exec`
stored them, and in the place of the last one the return address of the
outermost frame. -/
theorem arguments_after_enter (created : (create 0 oldmem env file).result = .qtrue vm mem)
    (enters : EntersWith ((VmProcess.loaded vm mem).exec command arg) locals)
    (nonneg : 0 ≤ locals.toInt) (inside : vm.codeSegment + 8 ≠ 0)
    (stepped : ((VmProcess.loaded vm mem).exec command arg).step fpu .pass = some q) :
    (∀ i, i < 12 → (command :: arg.toList)[i]? = some (q.argumentWord locals i)) ∧
      q.argumentWord locals 12 = intsBetween 0 vm.codeSegment := by
  obtain ⟨operands, frames, together⟩ := stacks_start_together created
  have shared : vm.opStack = vm.dataSegment + vm.opBase := by rw [operands, frames, together]
  constructor
  · intro i small
    rw [argumentWord_after_enter enters nonneg inside stepped (by omega)]
    exact exec_argument shared small
  · rw [argumentWord_after_enter enters nonneg inside stepped (by decide)]
    exact exec_lastArgument shared

end Arguments

/-!
### The two stacks are never separate

At the start of every Exec the two regions overlap, whatever the program, the
command and the arguments are.
-/

section Separation

variable {oldmem : Option Word} {env : LoadEnv} {file : List Byte} {vm : Vm} {mem : Memory}

/-- No `Exec` on a loaded VM keeps its two stacks apart, whatever the program
and the arguments are: the first state of its `Run` has the return address on
the call frame already. -/
theorem exec_stacks_never_separate (created : (create 0 oldmem env file).result = .qtrue vm mem)
    (fpu : FloatUnit) (command : Word) (arg : Vector Word 12) :
    ¬StacksSeparate fpu 0 (.loaded vm mem) command arg := by
  intro separate
  have ran : Transition.run (VmProcess.step fpu) (.loaded vm mem) [.exec command arg] =
      some ((VmProcess.loaded vm mem).exec command arg) := rfl
  have apart := separate.apart [] _ ran
  exact exec_not_apart created command arg apart

/-- A program of two instructions, `ENTER 8` and `LEAVE 8`, with 100 bytes of
bss. -/
def enterFile : List Byte :=
  [0x44, 0x14, 0x72, 0x12, 2, 0, 0, 0, 32, 0, 0, 0, 10, 0, 0, 0,
    42, 0, 0, 0, 0, 0, 0, 0, 0, 0, 0, 0, 100, 0, 0, 0,
    3, 8, 0, 0, 0, 4, 8, 0, 0, 0]

theorem enterFile_created :
    ∃ vm mem, (create 0 none zeroHeap enterFile).result = .qtrue vm mem := ⟨_, _, rfl⟩

/-- The theorem at a file whose program is one ENTER. -/
theorem exec_stacks_never_separate_enterFile :
    ∃ vm mem, (create 0 none zeroHeap enterFile).result = .qtrue vm mem ∧
      ∀ fpu, ¬StacksSeparate fpu 0 (.loaded vm mem) 0 (Vector.replicate 12 7) := by
  obtain ⟨vm, mem, created⟩ := enterFile_created
  refine ⟨vm, mem, created, ?_⟩
  intro fpu
  exact exec_stacks_never_separate created fpu 0 (Vector.replicate 12 7)

/-- `vmMain` of that program, called with the argument 7 throughout, does not
read its last argument. -/
theorem lastArgument_overwritten :
    ∃ vm mem, (create 0 none zeroHeap enterFile).result = .qtrue vm mem ∧
      ∀ fpu, ∃ p,
        Transition.run (VmProcess.step fpu) (.loaded vm mem) [.exec 0 (Vector.replicate 12 7), .pass] =
          some p ∧
        ¬ArgumentsRead ((VmProcess.loaded vm mem).exec 0 (Vector.replicate 12 7)) p 0
          (Vector.replicate 12 7) := by
  refine ⟨_, _, rfl, fun fpu => ⟨_, rfl, ?_⟩⟩
  intro read
  have last := read 8 ⟨by decide, by decide⟩ 12 (by decide)
  exact absurd last (by decide)

end Separation

end Q3df.Client
