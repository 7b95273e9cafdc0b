/-
Module: Q3df.Client.NestedExec
Layer: Client
Purpose: `Exec`s that the engine calls from a trap of a running `Run`. While a well-shaped program
  runs, its registers are determined by the function calls and the `Exec`s in progress, each of
  which keeps the program counter to return to in one word of the call frames. `InTrap` states this
  for a trace that has begun in a trap; there is one lemma for an `Exec`, one for a trap that
  returns, and one for a pass.
Imports: Q3df.Library.SignedWord, Q3df.Client.CodeShape
Trusted boundary: none
Main exports: SavedCounter, TracedVm, TrapAction, TracedVm.step, Undisturbed, CodeBlock,
  FunctionFrame, ExecEntry, Resumes, Linked, Waits, Chain, Position, InTrap, ReturnsResult,
  inTrap_exec, inTrap_callReturns, inTrap_pass, pass_endsExec
Open obligations: none
-/
import Q3df.Library.SignedWord
import Q3df.Client.CodeShape

namespace Q3df.Client

open ByteMemory

/-!
### The words that hold saved program counters

A program saves its return addresses in its own memory, where it could overwrite
them. The trace keeps a record of these words, so that "undisturbed" is a
condition on the record.
-/

/-- A word of the call frames, and the program counter that was saved in it. -/
structure SavedCounter where
  word : Word
  counter : Word

/-- A process, with the words that hold the saved program counters of the
functions and the `Exec`s that have been entered since the trace began, the
latest first, and what was saved in them. -/
structure TracedVm where
  process : VmProcess
  saved : List SavedCounter

/-- What happens while a trap is in progress: an action of the VM, or the engine
writes into the memory. -/
inductive TrapAction where
  | vm (action : VmAction)
  | engineWrites (mem : Memory)

namespace TracedVm

/-- The words behind a pass of the `Run` of `a` that has executed `op`, where
`q` is the process then: `ENTER` saves a program counter, `LEAVE` takes one
back, and a second one if the `Exec` ends. -/
def savedByOpcode (s : TracedVm) (a : Activation) (outer : List Activation) (q : VmProcess) (op : VmOp)
    (param : Word) : List SavedCounter :=
  match op with
  | .opEnter =>
      ⟨s.process.vm.dataSegment + (s.process.vm.opBase - param) + 4, (s.process.runState a).top 0⟩ ::
        s.saved
  | .opLeave => s.saved.drop (if q.activations.length = outer.length then 2 else 1)
  | _ => s.saved

/-- The words behind an action. -/
def nextSaved (s : TracedVm) (action : VmAction) (q : VmProcess) : List SavedCounter :=
  match action, s.process.activations with
  | .exec _ _, _ =>
      ⟨s.process.vm.dataSegment + (s.process.vm.opBase - 15 * 4) + 4,
        intsBetween s.process.vm.opPointer s.process.vm.codeSegment⟩ :: s.saved
  | .pass, a :: outer =>
      match VmOp.ofInt? (readWord s.process.mem a.opPointer).toInt with
      | some op => s.savedByOpcode a outer q op (readWord s.process.mem (a.opPointer + 4))
      | none => s.saved
  | _, _ => s.saved

/-- One action. The engine writes into the memory from outside the interpreter
only. -/
def step (fpu : FloatUnit) (s : TracedVm) : TrapAction → Option TracedVm
  | .vm action =>
      (s.process.step fpu action).map fun q => { process := q, saved := s.nextSaved action q }
  | .engineWrites mem =>
      if ∀ a ∈ s.process.activations.head?, a.pending.isSome then
        some { s with process := { s.process with mem := mem } }
      else none

end TracedVm

/-- The words still hold what was saved in them. -/
def TracedVm.Intact (s : TracedVm) : Prop :=
  ∀ saved ∈ s.saved, readWord s.process.mem saved.word = saved.counter

instance (s : TracedVm) : Decidable s.Intact :=
  inferInstanceAs (Decidable (∀ saved ∈ s.saved, readWord s.process.mem saved.word = saved.counter))

/-- The program and the saved program counters are as they were, control stays
with the functions, and the trap in which `depth` `Exec`s are in progress does
not return. -/
def Undisturbed (program : VmProgram) (layout : Layout) (depth : Nat) (s : TracedVm)
    (action : TrapAction) : Prop :=
  CodeHolds program s.process.vm s.process.mem ∧ s.Intact ∧
    match action with
    | .vm .pass => ∀ a ∈ s.process.activations.head?, ControlStays program layout (s.process.runState a)
    | .vm (.callReturns _ _) => depth < s.process.activations.length
    | .vm (.exec _ _) | .engineWrites _ => True

instance (program : VmProgram) (layout : Layout) (depth : Nat) (s : TracedVm) :
    ∀ action, Decidable (Undisturbed program layout depth s action)
  | .vm .pass => inferInstanceAs (Decidable (_ ∧ _ ∧ ∀ a ∈ s.process.activations.head?, _))
  | .vm (.callReturns _ _) => inferInstanceAs (Decidable (_ ∧ _ ∧ _ < _))
  | .vm (.exec _ _) => inferInstanceAs (Decidable (_ ∧ _ ∧ True))
  | .engineWrites _ => inferInstanceAs (Decidable (_ ∧ _ ∧ True))

/-- The block of the code segment: it is aligned to words, and does not contain
`NULL`. -/
structure CodeBlock (program : VmProgram) (vm : Vm) : Prop where
  aligned : ∃ k, vm.codeSegment = k * 4
  nonNull : ∀ i, i < program.length → instr vm i ≠ 0

/-!
### What the registers are while functions and Execs are in progress

The functions entered within one `Run` and the Execs below it, each with the
registers it returns to.
-/

/-- A function that has been entered: its frame size, `opBase` and the operand
stack while it runs, and where it returns to. -/
structure FunctionFrame where
  locals : Word
  base : Word
  operands : Word
  returnTo : Word

/-- The registers an `Exec` was called with. -/
structure ExecEntry where
  opStack : Word
  opBase : Word
  opPointer : Word

/-- One `Exec` in progress: the functions its `Run` has entered, the innermost
first. -/
structure RunContext where
  frames : List FunctionFrame
  entry : ExecEntry

section Contexts

variable (program : VmProgram) (layout : Layout) (vm : Vm)

/-- The registers with which a call returns to its callers: in the body of the
innermost one at the height its layout gives, or at the end of the `Run`. -/
def Resumes (callers : List FunctionFrame) (e : ExecEntry) (opStack opBase opPointer : Word) : Prop :=
  match callers with
  | [] => opStack = e.opStack - 4 ∧ opBase = e.opBase - 15 * 4 ∧ opPointer = 0
  | f :: _ =>
      ∃ i, layout.body i = true ∧ layout.locals i = f.locals ∧
        opStack = f.operands - 4 * BitVec.ofInt 32 (layout.height i) ∧ opBase = f.base ∧
        opPointer = instr vm i

/-- Every function returns to its callers, with one word on the operand stack. -/
def Linked : List FunctionFrame → ExecEntry → Prop
  | [], _ => True
  | f :: callers, e =>
      Resumes layout vm callers e (f.operands - 4) (f.base + f.locals) f.returnTo ∧ Linked callers e

/-- The words in which the functions and the `Exec` itself have saved a program
counter. -/
def savedWords (ctx : RunContext) : List SavedCounter :=
  ctx.frames.map (fun f =>
    ⟨vm.dataSegment + f.base + 4, intsBetween f.returnTo vm.codeSegment⟩) ++
  [⟨vm.dataSegment + (ctx.entry.opBase - 15 * 4) + 4, intsBetween ctx.entry.opPointer vm.codeSegment⟩]

/-- The registers of a `Run` that waits in a trap: those of the body it is in,
or those the trace began with. -/
def Waits (start : ExecEntry) (ctxs : List RunContext) (e : ExecEntry) : Prop :=
  match ctxs with
  | [] => e = start
  | ctx :: _ =>
      ctx.frames ≠ [] ∧ Resumes layout vm ctx.frames ctx.entry e.opStack e.opBase e.opPointer

/-- The activations of the contexts. Every `Run` but the innermost waits in the
trap in which the next `Exec` was called. -/
def Chain (start : ExecEntry) : List RunContext → List Activation → Prop
  | [], acts => acts = []
  | ctx :: ctxs, acts =>
      ∃ a as, acts = a :: as ∧ a.args = vm.dataSegment + (ctx.entry.opBase - 15 * 4) ∧
        Linked layout vm ctx.frames ctx.entry ∧ Waits layout vm start ctxs ctx.entry ∧
        (∀ b ∈ as.head?, b.pending.isSome) ∧ Chain start ctxs as

/-- Where the innermost `Run` is: in a body, or at an `ENTER` with the place to
return to pushed. -/
inductive Position (ctx : RunContext) (mem : Memory) (opStack opBase opPointer : Word) : Prop where
  | inBody (inside : ctx.frames ≠ [])
      (resumes : Resumes layout vm ctx.frames ctx.entry opStack opBase opPointer)
  | entering (i : Nat) (n returnTo : Word) (enter : program[i]? = some (.opEnter, n))
      (at_ : opPointer = instr vm i)
      (pushed : readWord mem opStack = intsBetween returnTo vm.codeSegment)
      (resumes : Resumes layout vm ctx.frames ctx.entry opStack opBase returnTo)

end Contexts

/-- The registers of `vm_`. -/
def Vm.registers (vm : Vm) : ExecEntry :=
  { opStack := vm.opStack, opBase := vm.opBase, opPointer := vm.opPointer }

/-- The state of a trace that began in a trap with the registers `start`: the
contexts of the `Exec`s in progress above the activations `outer` determine the
registers and the words saved. -/
structure InTrap (program : VmProgram) (layout : Layout) (vm : Vm) (start : ExecEntry)
    (outer : List Activation) (ctxs : List RunContext) (acts : List Activation) (s : TracedVm) :
    Prop where
  activations : s.process.activations = acts ++ outer
  chain : Chain layout vm start ctxs acts
  saved : s.saved = ctxs.flatMap (savedWords vm)
  segments : s.process.vm.segments = vm.segments
  noHook : s.process.vm.hookRealfunc = 0
  waiting : (∀ a ∈ acts.head?, a.pending.isSome) → Waits layout vm start ctxs s.process.vm.registers
  running : ∀ a ∈ acts.head?, a.pending = none → ∀ ctx ∈ ctxs.head?,
    Position program layout vm ctx s.process.mem a.opStack s.process.vm.opBase a.opPointer

/-!
### Program counters in words

An instruction pointer is stored as an offset into the code segment, in words,
and read back.
-/

section Counters

variable {program : VmProgram} {layout : Layout} {vm : Vm}

/-- The program counter saved for a place is read back as this place if it is a
multiple of a word away from the code. -/
theorem savedPc_back {place : Word} (aligned : ∃ k, place = vm.codeSegment + k * 4) :
    vm.codeSegment + intsBetween place vm.codeSegment * 4 = place := by
  obtain ⟨k, rfl⟩ := aligned
  have four (x : Word) : x <<< 2 = x * 4 := by bv_omega
  have distance : vm.codeSegment + k * 4 - vm.codeSegment = k * 4 := by bv_omega
  have back := SignedWord.sshiftRight_shiftLeft k 2
  rw [four, four] at back
  rw [intsBetween, distance, back]

/-- Instructions start at multiples of four bytes from the code segment. -/
theorem instr_aligned (i : Nat) : ∃ k, instr vm i = vm.codeSegment + k * 4 := by
  refine ⟨BitVec.ofNat 32 i * 2, ?_⟩
  rw [instr]
  bv_omega

/-- Where a function returns to is the start of an instruction. -/
theorem Resumes.aligned {callers : List FunctionFrame} {e : ExecEntry} {opStack opBase opPointer : Word}
    (block : CodeBlock program vm) (resumes : Resumes layout vm callers e opStack opBase opPointer) :
    ∃ k, opPointer = vm.codeSegment + k * 4 := by
  cases callers with
  | nil =>
      obtain ⟨-, -, rfl⟩ := resumes
      obtain ⟨k, aligned⟩ := block.aligned
      refine ⟨-k, ?_⟩
      rw [aligned]
      bv_omega
  | cons f callers =>
      obtain ⟨i, -, -, -, -, rfl⟩ := resumes
      exact instr_aligned i

/-- Where an Exec was called from is the start of an instruction. -/
theorem Waits.aligned {start e : ExecEntry} {ctxs : List RunContext} (block : CodeBlock program vm)
    (startAligned : ∃ k, start.opPointer = vm.codeSegment + k * 4)
    (waits : Waits layout vm start ctxs e) : ∃ k, e.opPointer = vm.codeSegment + k * 4 := by
  cases ctxs with
  | nil =>
      rw [show e = start from waits]
      exact startAligned
  | cons ctx ctxs => exact waits.2.aligned block

theorem instr_congr {vm' : Vm} (same : vm'.segments = vm.segments) (i : Nat) :
    instr vm' i = instr vm i := by
  have code := congrArg Vm.codeSegment same
  rw [Vm.segments, Vm.segments] at code
  rw [instr, instr, code]

end Counters

/-!
### Steps that stay in the innermost Run

The outer activations are frozen while the innermost one runs: the only steps
that count are its passes, a new Exec and the return of a hook.
-/

section Steps

variable {program : VmProgram} {layout : Layout} {vm : Vm} {start : ExecEntry}
  {outer as : List Activation} {ctx : RunContext} {ctxs : List RunContext} {a : Activation}
  {p q : VmProcess} {fpu : FloatUnit}

/-- Execution inside a program is never at address 0, the address that ends
`Run`. -/
theorem Position.nonNull {mem : Memory} {opStack opBase opPointer : Word}
    (well : WellShaped program layout) (block : CodeBlock program vm)
    (position : Position program layout vm ctx mem opStack opBase opPointer) : opPointer ≠ 0 := by
  cases position with
  | inBody inside resumes =>
      obtain ⟨f, callers, frames⟩ := List.exists_cons_of_ne_nil inside
      rw [frames] at resumes
      obtain ⟨i, body, -, -, -, rfl⟩ := resumes
      obtain ⟨op, param, instruction, -⟩ := well.instruction i body
      exact block.nonNull i (List.getElem?_eq_some_iff.mp instruction).1
  | entering i n returnTo enter at_ pushed resumes =>
      rw [at_]
      exact block.nonNull i (List.getElem?_eq_some_iff.mp enter).1

/-- What the chain says of the innermost `Exec`. -/
theorem chain_innermost (chain : Chain layout vm start (ctx :: ctxs) (a :: as)) :
    a.args = vm.dataSegment + (ctx.entry.opBase - 15 * 4) ∧ Linked layout vm ctx.frames ctx.entry ∧
      Waits layout vm start ctxs ctx.entry ∧ (∀ b ∈ as.head?, b.pending.isSome) ∧
      Chain layout vm start ctxs as := by
  obtain ⟨b, bs, same, rest⟩ := chain
  obtain ⟨rfl, rfl⟩ := List.cons.inj same
  exact rest

/-- While its loop goes on, the `Run` keeps its place in the chain. -/
theorem inTrap_running {r : RunState} {saved : List SavedCounter} (well : WellShaped program layout)
    (block : CodeBlock program vm) (chain : Chain layout vm start (ctx :: ctxs) (a :: as))
    (segments : r.vm.segments = vm.segments) (noHook : r.vm.hookRealfunc = 0)
    (position : Position program layout vm ctx r.mem r.opStack r.vm.opBase r.opPointer)
    (savedEq : saved = (ctx :: ctxs).flatMap (savedWords vm)) :
    InTrap program layout vm start outer (ctx :: ctxs)
      ({ a with opStack := r.opStack, opPointer := r.opPointer, pending := none } :: as)
      { process := p.loopTest a (as ++ outer) r, saved := saved } := by
  have goesOn : p.loopTest a (as ++ outer) r =
      { p with
        vm := r.vm
        mem := r.mem
        messages := r.messages
        activations :=
          { a with opStack := r.opStack, opPointer := r.opPointer, pending := none } :: (as ++ outer) } := by
    rw [VmProcess.loopTest, if_pos (position.nonNull well block)]
  rw [goesOn]
  obtain ⟨args, linked, waits, pending, rest⟩ := chain_innermost chain
  refine ⟨rfl, ⟨_, _, rfl, args, linked, waits, pending, rest⟩, savedEq, segments, noHook, ?_, ?_⟩
  · intro waiting
    have never := waiting _ rfl
    cases never
  · rintro b ⟨⟩ - ctx' ⟨⟩
    exact position

theorem segments_code {vm' : Vm} (same : vm'.segments = vm.segments) :
    vm'.codeSegment = vm.codeSegment ∧ vm'.dataSegment = vm.dataSegment := by
  have code := congrArg Vm.codeSegment same
  have data := congrArg Vm.dataSegment same
  rw [Vm.segments, Vm.segments] at code data
  exact ⟨code, data⟩

/-- An `Exec` is entered with the registers of the waiting `Run`, and its `Run`
starts at an `ENTER`. -/
theorem inTrap_exec {s : TracedVm} {acts : List Activation} {command : Word} {arg : Vector Word 12}
    (well : WellShaped program layout) (inv : InTrap program layout vm start outer ctxs acts s)
    (pending : ∀ b ∈ acts.head?, b.pending.isSome) :
    ∃ ctxs' entered, InTrap program layout vm start outer ctxs' (entered :: acts)
      { process := s.process.exec command arg
        saved := s.nextSaved (.exec command arg) (s.process.exec command arg) } := by
  obtain ⟨code, data⟩ := segments_code inv.segments
  obtain ⟨n, entry⟩ := well.entry
  let entered : Activation :=
    { args := s.process.vm.dataSegment + (s.process.vm.opBase - 15 * 4)
      opStack := s.process.vm.opStack - 4, opPointer := s.process.vm.codeSegment, pending := none }
  refine ⟨{ frames := [], entry := s.process.vm.registers } :: ctxs, entered, ?_⟩
  refine ⟨?_, ⟨_, acts, rfl, ?_, trivial, inv.waiting pending, pending, inv.chain⟩, ?_, inv.segments,
    inv.noHook, ?_, ?_⟩
  · rw [VmProcess.exec, inv.activations, List.cons_append]
  · rw [← data]
    rfl
  · rw [TracedVm.nextSaved, inv.saved, List.flatMap_cons, savedWords, code, data]
    rfl
  · intro waiting
    have never := waiting _ rfl
    cases never
  · rintro b ⟨⟩ - ctx ⟨⟩
    refine .entering 0 n 0 entry ?_ ?_ ⟨rfl, rfl, rfl⟩
    · rw [instr_zero]
      exact code
    · rw [← code]
      exact readWord_writeWord_same _

/-- A trap that returns puts its result in the place of the address, and `Run`
takes its registers back. -/
theorem callReturn_noHook (noHook : p.vm.hookRealfunc = 0) (param ret : Word) (mem : Memory) :
    callReturn param ret { p.runState a with mem := mem } =
      { p.runState a with
        mem := writeWord mem p.vm.opStack ret
        opStack := p.vm.opStack
        opPointer := p.vm.opPointer } := by
  simp [callReturn, VmProcess.runState, noHook, RunState.setTop]

/-- The trap an inner `Run` waits for returns: the `Run` is back in its body. -/
theorem inTrap_callReturns {s : TracedVm} {param ret : Word} {mem : Memory}
    (well : WellShaped program layout) (block : CodeBlock program vm)
    (inv : InTrap program layout vm start outer (ctx :: ctxs) (a :: as) s)
    (pending : a.pending = some param) :
    ∃ back, InTrap program layout vm start outer (ctx :: ctxs) (back :: as)
      { process := s.process.loopTest a (as ++ outer)
          (callReturn param ret { s.process.runState a with mem := mem })
        saved := s.saved } := by
  obtain ⟨inside, resumes⟩ : ctx.frames ≠ [] ∧ Resumes layout vm ctx.frames ctx.entry
      s.process.vm.opStack s.process.vm.opBase s.process.vm.opPointer := by
    apply inv.waiting
    rintro b ⟨⟩
    rw [pending]
    rfl
  rw [callReturn_noHook inv.noHook]
  exact ⟨_, inTrap_running well block inv.chain inv.segments inv.noHook (.inBody inside resumes)
    inv.saved⟩

/-- The process behind a pass of the innermost `Run`. -/
def VmProcess.afterPass (p : VmProcess) (a : Activation) (outer : List Activation) :
    OpOutcome → VmProcess
  | .next s => p.loopTest a outer s
  | .calls param s =>
      { p with
        vm := s.vm
        messages := s.messages
        activations :=
          { a with opStack := s.opStack, opPointer := s.opPointer, pending := some param } :: outer }

/-- The innermost `Run` is at the `i`-th instruction, in the body of the
function `f`. -/
structure InBodyAt (layout : Layout) (vm : Vm) (ctx : RunContext) (s : TracedVm) (a : Activation)
    (f : FunctionFrame) (callers : List FunctionFrame) (i : Nat) : Prop where
  frames : ctx.frames = f :: callers
  body : layout.body i = true
  locals : layout.locals i = f.locals
  opStack : a.opStack = f.operands - 4 * BitVec.ofInt 32 (layout.height i)
  opBase : s.process.vm.opBase = f.base
  opPointer : a.opPointer = instr vm i

/-- The `Run` of `a` is at a `LEAVE`, and the result of its `Exec` is the word
its function has left on the operand stack. -/
structure ReturnsResult (program : VmProgram) (vm : Vm) (s : TracedVm) (a : Activation) (q : VmProcess) :
    Prop where
  leave : ∃ i n, program[i]? = some (.opLeave, n) ∧ a.opPointer = instr vm i
  result : q.results = (s.process.runState a).top 0 :: s.process.results

/-- Behind a pass of the innermost `Run` that has executed `op` the process is
still in the trap. If that `Run` has ended, its `Exec` has returned the result
of its function. -/
def PassKeeps (program : VmProgram) (layout : Layout) (vm : Vm) (start : ExecEntry)
    (outer as : List Activation) (s : TracedVm) (a : Activation) (op : VmOp) (param : Word)
    (outcome : OpOutcome) : Prop :=
  let q := s.process.afterPass a (as ++ outer) outcome
  ∃ ctxs acts,
    InTrap program layout vm start outer ctxs acts
      { process := q, saved := s.savedByOpcode a (as ++ outer) q op param } ∧
    (acts = as → ReturnsResult program vm s a q)

/-- A pass of the process is a pass of its innermost activation, if that is not
waiting for a hook. -/
theorem step_pass {rest : List Activation} (innermost : p.activations = a :: rest)
    (free : a.pending = none) :
    p.step fpu .pass = (runPass fpu (p.runState a)).map (p.afterPass a rest) := by
  rw [VmProcess.step, innermost]
  simp only [free, Option.isSome_none, Bool.false_eq_true, if_false]
  congr 1

theorem nextSaved_pass {s : TracedVm} {rest : List Activation} {i : Nat} {op : VmOp} {param : Word}
    (innermost : s.process.activations = a :: rest) (at_ : a.opPointer = instr s.process.vm i)
    (fetched : fetch s.process.vm s.process.mem i = some (op, param)) (q : VmProcess) :
    s.nextSaved .pass q = s.savedByOpcode a rest q op param := by
  obtain ⟨op', known, same⟩ := Option.map_eq_some_iff.mp fetched
  obtain ⟨rfl, parameter⟩ := Prod.mk.inj same
  simp only [TracedVm.nextSaved, innermost, at_, known, parameter]

/-!
### The passes of the innermost Run

One lemma for each kind of opcode. A return from the function that was entered
last, and a return from the Exec itself, are the cases that use the record of
saved counters.
-/

variable {s : TracedVm} {f : FunctionFrame} {callers : List FunctionFrame} {op : VmOp} {param : Word}

/-- A `Run` that goes on has not ended. -/
theorem not_ended {b : Activation} {ended : Prop} (same : b :: as = as) : ended :=
  absurd same (List.cons_ne_self b as)

theorem InBodyAt.inside {i : Nat} (here : InBodyAt layout vm ctx s a f callers i) : ctx.frames ≠ [] := by
  rw [here.frames]
  exact List.cons_ne_nil f callers

/-- The opcodes that change neither the frames nor the saved words. -/
theorem inTrap_next {r : RunState} (well : WellShaped program layout) (block : CodeBlock program vm)
    (inv : InTrap program layout vm start outer (ctx :: ctxs) (a :: as) s)
    (noEnter : op ≠ .opEnter) (noLeave : op ≠ .opLeave) (sameVm : r.vm = s.process.vm)
    (position : Position program layout vm ctx r.mem r.opStack s.process.vm.opBase r.opPointer) :
    PassKeeps program layout vm start outer as s a op param (.next r) := by
  have kept (q : VmProcess) : s.savedByOpcode a (as ++ outer) q op param = s.saved := by
    unfold TracedVm.savedByOpcode
    split
    · exact absurd rfl noEnter
    · exact absurd rfl noLeave
    · rfl
  rw [PassKeeps, kept]
  refine ⟨_, _, inTrap_running well block inv.chain ?_ ?_ ?_ inv.saved, not_ended⟩
  · rw [sameVm]
    exact inv.segments
  · rw [sameVm]
    exact inv.noHook
  · rw [sameVm]
    exact position

/-- `ENTER` makes the frame of the function that has been called. -/
theorem inTrap_enter {i : Nat} {n returnTo : Word} {outcome : OpOutcome}
    (well : WellShaped program layout) (block : CodeBlock program vm)
    (inv : InTrap program layout vm start outer (ctx :: ctxs) (a :: as) s)
    (enter : program[i]? = some (.opEnter, n))
    (pushed : readWord s.process.mem a.opStack = intsBetween returnTo vm.codeSegment)
    (resumes : Resumes layout vm ctx.frames ctx.entry a.opStack s.process.vm.opBase returnTo)
    (ran : runOpcode fpu .opEnter n
      { s.process.runState a with opPointer := instr s.process.vm (i + 1) } = some outcome) :
    PassKeeps program layout vm start outer as s a .opEnter n outcome := by
  obtain ⟨code, data⟩ := segments_code inv.segments
  obtain ⟨body, locals, height⟩ := well.enter i n enter
  have top : (s.process.runState a).top 0 = readWord s.process.mem a.opStack := by
    simp [RunState.top, VmProcess.runState]
  let g : FunctionFrame :=
    { locals := n, base := s.process.vm.opBase - n, operands := a.opStack + 4, returnTo := returnTo }
  have back : Resumes layout vm ctx.frames ctx.entry (g.operands - 4) (g.base + g.locals) g.returnTo := by
    have operands : a.opStack + 4 - 4 = a.opStack := by bv_omega
    have base : s.process.vm.opBase - n + n = s.process.vm.opBase := by bv_omega
    simp only [g, operands, base]
    exact resumes
  cases ran
  obtain ⟨args, linked, waits, pending, rest⟩ := chain_innermost inv.chain
  refine ⟨{ ctx with frames := g :: ctx.frames } :: ctxs, _, inTrap_running well block
    ⟨_, _, rfl, args, ⟨back, linked⟩, waits, pending, rest⟩ inv.segments inv.noHook
    (.inBody (List.cons_ne_nil _ _) ⟨i + 1, body, locals, ?_, rfl, ?_⟩) ?_, not_ended⟩
  · rw [height]
    simp [g, RunState.pop, VmProcess.runState]
  · exact instr_congr inv.segments (i + 1)
  · rw [TracedVm.savedByOpcode, top, pushed, inv.saved, data]
    rfl

/-- The end of a `Run`: its `Exec` returns with the registers it was called with. -/
theorem inTrap_execReturns {r : RunState} (block : CodeBlock program vm)
    (startAligned : ∃ k, start.opPointer = vm.codeSegment + k * 4)
    (chain : Chain layout vm start (ctx :: ctxs) (a :: as)) (segments : r.vm.segments = vm.segments)
    (noHook : r.vm.hookRealfunc = 0) (atEnd : r.opPointer = 0)
    (opStack : r.opStack = ctx.entry.opStack - 4) (opBase : r.vm.opBase = ctx.entry.opBase - 15 * 4)
    (savedPc : readWord r.mem (vm.dataSegment + (ctx.entry.opBase - 15 * 4) + 4) =
      intsBetween ctx.entry.opPointer vm.codeSegment) :
    InTrap program layout vm start outer ctxs as
      { process := s.process.loopTest a (as ++ outer) r, saved := ctxs.flatMap (savedWords vm) } := by
  obtain ⟨code, data⟩ := segments_code segments
  obtain ⟨args, linked, waits, pending, rest⟩ := chain_innermost chain
  have registers : (s.process.loopTest a (as ++ outer) r).vm.registers = ctx.entry := by
    have back : r.vm.codeSegment + readWord r.mem (a.args + 4) * 4 = ctx.entry.opPointer := by
      rw [args, code, savedPc, savedPc_back (waits.aligned block startAligned)]
    have stackBack : ctx.entry.opStack - 4 + 4 = ctx.entry.opStack := by bv_omega
    have baseBack : ctx.entry.opBase - 15 * 4 + 15 * 4 = ctx.entry.opBase := by bv_omega
    rw [VmProcess.loopTest, if_neg (not_not.mpr atEnd)]
    simp only [Vm.registers, back, opStack, opBase, stackBack, baseBack]
  have ended : (s.process.loopTest a (as ++ outer) r).activations = as ++ outer := by
    rw [VmProcess.loopTest, if_neg (not_not.mpr atEnd)]
  refine ⟨ended, rest, rfl, loopTest_segments.trans segments, ?_, ?_, ?_⟩
  · rw [VmProcess.loopTest, if_neg (not_not.mpr atEnd)]
    exact noHook
  · intro _
    rw [registers]
    exact waits
  · intro b innermost free
    have waiting := pending b innermost
    rw [free] at waiting
    cases waiting

/-- The state `LEAVE` leaves in the body of `f`. -/
def leftState (s : TracedVm) (f : FunctionFrame) : RunState :=
  { vm := { s.process.vm with opBase := f.base + f.locals }, mem := s.process.mem
    messages := s.process.messages, opStack := f.operands - 4, opPointer := f.returnTo }

/-- `LEAVE` goes to where the function was called, since its frame still holds
the program counter that `ENTER` has saved. -/
theorem leave_outcome {i : Nat} {n : Word} {outcome : OpOutcome} (well : WellShaped program layout)
    (block : CodeBlock program vm)
    (inv : InTrap program layout vm start outer (ctx :: ctxs) (a :: as) s)
    (here : InBodyAt layout vm ctx s a f callers i) (leave : program[i]? = some (.opLeave, n))
    (intact : s.Intact)
    (ran : runOpcode fpu .opLeave n
      { s.process.runState a with opPointer := instr s.process.vm (i + 1) } = some outcome) :
    outcome = .next (leftState s f) ∧ a.opStack = f.operands - 4 ∧
      Resumes layout vm callers ctx.entry (f.operands - 4) (f.base + f.locals) f.returnTo := by
  obtain ⟨code, data⟩ := segments_code inv.segments
  obtain ⟨frames, body, locals, opStack, opBase, -⟩ := here
  obtain ⟨frameSize, height⟩ := well.leave i n body leave
  obtain ⟨-, linked, -⟩ := chain_innermost inv.chain
  rw [frames] at linked
  obtain ⟨resumes, -⟩ := linked
  have savedPc : readWord s.process.mem (vm.dataSegment + f.base + 4) =
      intsBetween f.returnTo vm.codeSegment := by
    apply intact ⟨vm.dataSegment + f.base + 4, intsBetween f.returnTo vm.codeSegment⟩
    rw [inv.saved, List.flatMap_cons, savedWords, frames]
    exact List.mem_append_left _ (List.mem_append_left _ List.mem_cons_self)
  have returns : s.process.vm.codeSegment +
      readWord s.process.mem (s.process.vm.dataSegment + s.process.vm.opBase + 4) * 4 = f.returnTo := by
    rw [code, data, opBase, savedPc, savedPc_back (resumes.aligned block)]
  have operands : a.opStack = f.operands - 4 := by
    rw [opStack, height]
    rfl
  have base : s.process.vm.opBase + n = f.base + f.locals := by rw [opBase, ← locals, frameSize]
  refine ⟨?_, operands, resumes⟩
  rw [runOpcode] at ran
  rw [← Option.some.inj ran]
  simp only [RunState.savedPc, VmProcess.runState, returns, base, operands, leftState]

/-- `LEAVE` of a function that another one of the same `Run` has called. -/
theorem inTrap_leaveCallee {i : Nat} {n : Word} {g : FunctionFrame} (well : WellShaped program layout)
    (block : CodeBlock program vm)
    (inv : InTrap program layout vm start outer (ctx :: ctxs) (a :: as) s)
    (here : InBodyAt layout vm ctx s a f (g :: callers) i)
    (resumes : Resumes layout vm (g :: callers) ctx.entry (f.operands - 4) (f.base + f.locals)
      f.returnTo) :
    PassKeeps program layout vm start outer as s a .opLeave n (.next (leftState s f)) := by
  have frames := here.frames
  obtain ⟨args, linked, waits, pending, rest⟩ := chain_innermost inv.chain
  rw [frames] at linked
  have position : Position program layout vm { ctx with frames := g :: callers } (leftState s f).mem
      (leftState s f).opStack (leftState s f).vm.opBase (leftState s f).opPointer :=
    .inBody (List.cons_ne_nil _ _) resumes
  refine ⟨{ ctx with frames := g :: callers } :: ctxs, _, inTrap_running well block
    ⟨_, _, rfl, args, linked.2, waits, pending, rest⟩ inv.segments inv.noHook position ?_, not_ended⟩
  have goesOn : (s.process.loopTest a (as ++ outer) (leftState s f)).activations.length ≠
      (as ++ outer).length := by
    rw [VmProcess.loopTest, if_pos (position.nonNull well block)]
    simp
  rw [TracedVm.savedByOpcode, VmProcess.afterPass, if_neg goesOn, inv.saved]
  simp [savedWords, frames]

/-- `LEAVE` of the function that `Exec` has called: the `Exec` returns its
result, with the registers it was called with. -/
theorem inTrap_leaveExec {i : Nat} {n : Word} (block : CodeBlock program vm)
    (startAligned : ∃ k, start.opPointer = vm.codeSegment + k * 4)
    (inv : InTrap program layout vm start outer (ctx :: ctxs) (a :: as) s)
    (here : InBodyAt layout vm ctx s a f [] i) (leave : program[i]? = some (.opLeave, n))
    (intact : s.Intact)
    (operands : a.opStack = f.operands - 4)
    (resumes : Resumes layout vm [] ctx.entry (f.operands - 4) (f.base + f.locals) f.returnTo) :
    let q := s.process.afterPass a (as ++ outer) (.next (leftState s f))
    InTrap program layout vm start outer ctxs as
        { process := q, saved := s.savedByOpcode a (as ++ outer) q .opLeave n } ∧
      ReturnsResult program vm s a q := by
  have frames := here.frames
  obtain ⟨stackBack, baseBack, atEnd⟩ := resumes
  have execPc : readWord s.process.mem (vm.dataSegment + (ctx.entry.opBase - 15 * 4) + 4) =
      intsBetween ctx.entry.opPointer vm.codeSegment := by
    apply intact ⟨vm.dataSegment + (ctx.entry.opBase - 15 * 4) + 4,
      intsBetween ctx.entry.opPointer vm.codeSegment⟩
    rw [inv.saved, List.flatMap_cons, savedWords]
    exact List.mem_append_left _ (List.mem_append_right _ List.mem_cons_self)
  have ended : ¬(leftState s f).opPointer ≠ 0 := not_not.mpr atEnd
  have taken : s.savedByOpcode a (as ++ outer)
      (s.process.afterPass a (as ++ outer) (.next (leftState s f))) .opLeave n =
        ctxs.flatMap (savedWords vm) := by
    have ends : (s.process.loopTest a (as ++ outer) (leftState s f)).activations.length =
        (as ++ outer).length := by
      rw [VmProcess.loopTest, if_neg ended]
    rw [TracedVm.savedByOpcode, VmProcess.afterPass, if_pos ends, inv.saved]
    simp [savedWords, frames]
  have result : (s.process.loopTest a (as ++ outer) (leftState s f)).results =
      (s.process.runState a).top 0 :: s.process.results := by
    rw [VmProcess.loopTest, if_neg ended]
    simp [leftState, RunState.top, VmProcess.runState, operands]
  intro q
  have next := @inTrap_execReturns program layout vm start outer as ctx ctxs a s (leftState s f)
    block startAligned inv.chain inv.segments inv.noHook atEnd stackBack baseBack execPc
  rw [← taken] at next
  exact ⟨next, ⟨i, n, leave, here.opPointer⟩, result⟩

/-- `OP_LEAVE` returns to the caller of the function, or ends the Exec if it was the
outermost one. -/
theorem inTrap_leave {i : Nat} {n : Word} {outcome : OpOutcome} (well : WellShaped program layout)
    (block : CodeBlock program vm) (startAligned : ∃ k, start.opPointer = vm.codeSegment + k * 4)
    (inv : InTrap program layout vm start outer (ctx :: ctxs) (a :: as) s)
    (here : InBodyAt layout vm ctx s a f callers i) (leave : program[i]? = some (.opLeave, n))
    (intact : s.Intact)
    (ran : runOpcode fpu .opLeave n
      { s.process.runState a with opPointer := instr s.process.vm (i + 1) } = some outcome) :
    PassKeeps program layout vm start outer as s a .opLeave n outcome := by
  obtain ⟨rfl, operands, resumes⟩ := leave_outcome well block inv here leave intact ran
  cases callers with
  | cons g callers => exact inTrap_leaveCallee well block inv here resumes
  | nil =>
      obtain ⟨next, returns⟩ :=
        @inTrap_leaveExec program layout vm start outer as ctx ctxs a s f i n block startAligned inv here
          leave intact operands resumes
      exact ⟨ctxs, as, next, fun _ => returns⟩

/-- Another place of the same body, at the height the layout gives there. -/
theorem resumes_moved {i j : Nat} {change : Int} (here : InBodyAt layout vm ctx s a f callers i)
    (at_ : layout.At j (layout.locals i) (layout.height i + change)) :
    Resumes layout vm ctx.frames ctx.entry (a.opStack - 4 * BitVec.ofInt 32 change) s.process.vm.opBase
      (instr vm j) := by
  obtain ⟨body, sameLocals, height⟩ := at_
  rw [here.frames]
  refine ⟨j, body, sameLocals.trans here.locals, ?_, here.opBase, rfl⟩
  rw [height, height_add, here.opStack]

/-- A call of a trap: the activation waits, behind the call. -/
theorem inTrap_callOut {i : Nat} {n : Word}
    (inv : InTrap program layout vm start outer (ctx :: ctxs) (a :: as) s)
    (here : InBodyAt layout vm ctx s a f callers i)
    (behind : Resumes layout vm ctx.frames ctx.entry a.opStack s.process.vm.opBase (instr vm (i + 1)))
    (outside : ((s.process.runState a).top 0).toInt < 0 ∨
      s.process.vm.memorySize.toInt ≤ ((s.process.runState a).top 0).toInt) :
    PassKeeps program layout vm start outer as s a .opCall n
      (RunState.call { s.process.runState a with opPointer := instr s.process.vm (i + 1) }) := by
  obtain ⟨args, linked, waits, pending, rest⟩ := chain_innermost inv.chain
  have called : RunState.call { s.process.runState a with opPointer := instr s.process.vm (i + 1) } =
      .calls ((s.process.runState a).top 0)
        { s.process.runState a with
          vm := { s.process.vm with
            opStack := a.opStack, opPointer := instr s.process.vm (i + 1), hookRealfunc := 0 }
          opPointer := instr s.process.vm (i + 1) } := if_pos outside
  rw [called]
  refine ⟨ctx :: ctxs, _ :: as, ⟨rfl, ⟨_, _, rfl, args, linked, waits, pending, rest⟩, inv.saved,
    inv.segments, rfl, ?_, ?_⟩, ?_⟩
  · intro _
    rw [instr_congr inv.segments]
    exact ⟨here.inside, behind⟩
  · rintro c ⟨⟩ never
    cases never
  · exact not_ended

/-- A call of a body: it is entered, and returns behind the call. -/
theorem inTrap_callBody {i : Nat} {n : Word} (well : WellShaped program layout)
    (block : CodeBlock program vm)
    (inv : InTrap program layout vm start outer (ctx :: ctxs) (a :: as) s)
    (behind : Resumes layout vm ctx.frames ctx.entry a.opStack s.process.vm.opBase (instr vm (i + 1)))
    (call : program[i]? = some (.opCall, n)) (stays : StaysAt program layout (s.process.runState a) i)
    (inside : ¬ (((s.process.runState a).top 0).toInt < 0 ∨
      s.process.vm.memorySize.toInt ≤ ((s.process.runState a).top 0).toInt)) :
    PassKeeps program layout vm start outer as s a .opCall n
      (RunState.call { s.process.runState a with opPointer := instr s.process.vm (i + 1) }) := by
  obtain ⟨code, data⟩ := segments_code inv.segments
  obtain ⟨nonneg, below⟩ := not_or.mp inside
  have gone : RunState.call { s.process.runState a with opPointer := instr s.process.vm (i + 1) } =
      .next ((RunState.setTop { s.process.runState a with opPointer := instr s.process.vm (i + 1) } 0
        (intsBetween (instr s.process.vm (i + 1)) s.process.vm.codeSegment)).goto
          ((s.process.runState a).top 0)) := if_neg inside
  obtain ⟨⟨op, m⟩, target, enter⟩ :=
    Option.map_eq_some_iff.mp (stays.2 (by rw [call]; rfl) (Int.not_lt.mp nonneg) (Int.not_le.mp below))
  obtain rfl : op = .opEnter := enter
  rw [gone]
  apply inTrap_next well block inv (by decide) (by decide) rfl
  refine .entering _ m (instr vm (i + 1)) target ?_ ?_ behind
  · rw [goto_opPointer]
    exact instr_congr inv.segments _
  · rw [← code, ← instr_congr inv.segments]
    have word := @readWord_writeWord_same s.process.mem a.opStack
    simp [RunState.goto, RunState.setTop, VmProcess.runState, word]

/-- `CALL` of a function of the VM goes to its `ENTER`; `CALL` of a trap waits
behind itself. -/
theorem inTrap_call {i : Nat} {n : Word} {outcome : OpOutcome} (well : WellShaped program layout)
    (block : CodeBlock program vm)
    (inv : InTrap program layout vm start outer (ctx :: ctxs) (a :: as) s)
    (here : InBodyAt layout vm ctx s a f callers i) (call : program[i]? = some (.opCall, n))
    (stays : StaysAt program layout (s.process.runState a) i)
    (ran : runOpcode fpu .opCall n
      { s.process.runState a with opPointer := instr s.process.vm (i + 1) } = some outcome) :
    PassKeeps program layout vm start outer as s a .opCall n outcome := by
  have behind : Resumes layout vm ctx.frames ctx.entry a.opStack s.process.vm.opBase
      (instr vm (i + 1)) := by
    have moved := @resumes_moved layout vm ctx a s f callers i (i + 1) VmOp.opCall.effect here
      (well.next i .opCall n here.body call (by decide) (by decide))
    simpa [VmOp.effect] using moved
  rw [runOpcode] at ran
  obtain rfl := Option.some.inj ran
  by_cases outside : ((s.process.runState a).top 0).toInt < 0 ∨
      s.process.vm.memorySize.toInt ≤ ((s.process.runState a).top 0).toInt
  · exact inTrap_callOut inv here behind outside
  · exact inTrap_callBody well block inv behind call stays outside

/-- The opcodes that go to a place of the same body, at the height the layout
gives there. -/
theorem inTrap_moves {i j : Nat} {change : Int} {r : RunState} (well : WellShaped program layout)
    (block : CodeBlock program vm)
    (inv : InTrap program layout vm start outer (ctx :: ctxs) (a :: as) s)
    (here : InBodyAt layout vm ctx s a f callers i)
    (at_ : layout.At j (layout.locals i) (layout.height i + change))
    (noEnter : op ≠ .opEnter) (noLeave : op ≠ .opLeave) (sameVm : r.vm = s.process.vm)
    (opStack : r.opStack = a.opStack - 4 * BitVec.ofInt 32 change)
    (opPointer : r.opPointer = instr s.process.vm j) :
    PassKeeps program layout vm start outer as s a op param (.next r) := by
  apply inTrap_next well block inv noEnter noLeave sameVm
  rw [opStack, opPointer, instr_congr inv.segments]
  exact .inBody here.inside (resumes_moved here at_)

/-- The opcodes of a body. -/
theorem inTrap_body {i : Nat} {outcome : OpOutcome} (well : WellShaped program layout)
    (block : CodeBlock program vm) (startAligned : ∃ k, start.opPointer = vm.codeSegment + k * 4)
    (inv : InTrap program layout vm start outer (ctx :: ctxs) (a :: as) s)
    (here : InBodyAt layout vm ctx s a f callers i) (instruction : program[i]? = some (op, param))
    (noEnter : op ≠ .opEnter) (intact : s.Intact)
    (stays : StaysAt program layout (s.process.runState a) i)
    (ran : runOpcode fpu op param
      { s.process.runState a with opPointer := instr s.process.vm (i + 1) } = some outcome) :
    PassKeeps program layout vm start outer as s a op param outcome := by
  rcases VmOp.kinds op with plain | branches | rfl | rfl | rfl | rfl
  · obtain ⟨r, rfl, sameVm, opPointer, opStack⟩ := runOpcode_plain plain ran
    obtain ⟨noLeave, noJump⟩ := VmOp.ne_leave_jump (.inl plain)
    have next := well.next i op param here.body instruction noLeave noJump
    exact inTrap_moves well block inv here next noEnter noLeave sameVm opStack opPointer
  · obtain ⟨r, rfl, sameVm, opPointer, opStack⟩ := runOpcode_branch branches ran
    obtain ⟨noLeave, noJump⟩ := VmOp.ne_leave_jump (.inr branches)
    rcases opPointer with goesOn | jumps
    · have next := well.next i op param here.body instruction noLeave noJump
      exact inTrap_moves well block inv here next noEnter noLeave sameVm opStack goesOn
    · have target := well.branch i op param here.body instruction branches
      exact inTrap_moves well block inv here target noEnter noLeave sameVm opStack jumps
  · exact absurd rfl noEnter
  · exact inTrap_leave well block startAligned inv here instruction intact ran
  · exact inTrap_call well block inv here instruction stays ran
  · have target := stays.1 (by rw [instruction]; rfl)
    have popped := pop_height a.opStack 1
    obtain rfl := Option.some.inj ran
    exact inTrap_moves well block inv here target noEnter (by decide) rfl popped (goto_opPointer _ _)

/-- A pass executes the instruction of the program. -/
theorem pass_executes {i : Nat} (inv : InTrap program layout vm start outer ctxs (a :: as) s)
    (free : a.pending = none) (holds : CodeHolds program s.process.vm s.process.mem)
    (at_ : a.opPointer = instr vm i) (instruction : program[i]? = some (op, param)) :
    s.process.step fpu .pass =
        (runOpcode fpu op param
          { s.process.runState a with opPointer := instr s.process.vm (i + 1) }).map
            (s.process.afterPass a (as ++ outer)) ∧
      ∀ q, s.nextSaved .pass q = s.savedByOpcode a (as ++ outer) q op param := by
  have innermost : s.process.activations = a :: (as ++ outer) := inv.activations
  have fetched : fetch s.process.vm s.process.mem i = some (op, param) := by
    rw [holds i (List.getElem?_eq_some_iff.mp instruction).1, instruction]
  have place : a.opPointer = instr s.process.vm i := by rw [at_, instr_congr inv.segments]
  have passed := @runPass_fetch fpu (s.process.runState a) op param i place fetched
  rw [step_pass innermost free, passed]
  exact ⟨rfl, nextSaved_pass innermost place fetched⟩

/-- One pass of the innermost `Run`. -/
theorem inTrap_pass {depth : Nat} (well : WellShaped program layout) (block : CodeBlock program vm)
    (startAligned : ∃ k, start.opPointer = vm.codeSegment + k * 4)
    (inv : InTrap program layout vm start outer (ctx :: ctxs) (a :: as) s) (free : a.pending = none)
    (undisturbed : Undisturbed program layout depth s (.vm .pass))
    (stepped : s.process.step fpu .pass = some q) :
    ∃ ctxs' acts', InTrap program layout vm start outer ctxs' acts'
        { process := q, saved := s.nextSaved .pass q } ∧
      (acts' = as → ReturnsResult program vm s a q) := by
  obtain ⟨holds, intact, stays⟩ := undisturbed
  cases inv.running a rfl free ctx rfl with
  | entering i n returnTo enter at_ pushed resumes =>
      obtain ⟨executes, saves⟩ := pass_executes inv free holds at_ enter
      rw [executes] at stepped
      obtain ⟨outcome, ran, rfl⟩ := Option.map_eq_some_iff.mp stepped
      rw [saves]
      exact inTrap_enter well block inv enter pushed resumes ran
  | inBody inside resumes =>
      obtain ⟨f, callers, frames⟩ := List.exists_cons_of_ne_nil inside
      rw [frames] at resumes
      obtain ⟨i, body, locals, opStack, opBase, at_⟩ := resumes
      obtain ⟨op, param, instruction, noEnter⟩ := well.instruction i body
      obtain ⟨executes, saves⟩ := pass_executes inv free holds at_ instruction
      rw [executes] at stepped
      obtain ⟨outcome, ran, rfl⟩ := Option.map_eq_some_iff.mp stepped
      have staysHere : StaysAt program layout (s.process.runState a) i := by
        have bound := (List.getElem?_eq_some_iff.mp instruction).1
        have place : a.opPointer = instr s.process.vm i := by rw [at_, instr_congr inv.segments]
        exact stays a (by rw [inv.activations]; rfl) i bound place body
      rw [saves]
      exact inTrap_body well block startAligned inv ⟨frames, body, locals, opStack, opBase, at_⟩
        instruction noEnter intact staysHere ran

/-- An instruction of the program at the place of the innermost `Run`, unless it
is an `ENTER`, belongs to the body of its innermost function. -/
theorem inBodyAt_of_instruction {i : Nat} (well : WellShaped program layout)
    (inv : InTrap program layout vm start outer (ctx :: ctxs) (a :: as) s) (free : a.pending = none)
    (holds : CodeHolds program s.process.vm s.process.mem) (at_ : a.opPointer = instr vm i)
    (instruction : program[i]? = some (op, param)) (noEnter : op ≠ .opEnter) :
    ∃ f callers j, InBodyAt layout vm ctx s a f callers j ∧ program[j]? = some (op, param) := by
  have same {j : Nat} {other : VmOp × Word} (there : a.opPointer = instr vm j)
      (found : program[j]? = some other) : other = (op, param) := by
    have fetched := holds j (List.getElem?_eq_some_iff.mp found).1
    have fetchedHere := holds i (List.getElem?_eq_some_iff.mp instruction).1
    rw [fetch, instr_congr inv.segments, ← there, at_, found] at fetched
    rw [fetch, instr_congr inv.segments, fetched, instruction] at fetchedHere
    exact Option.some.inj fetchedHere
  cases inv.running a rfl free ctx rfl with
  | entering j n returnTo enter there pushed resumes =>
      have enters := congrArg Prod.fst (same there enter)
      exact absurd enters.symm noEnter
  | inBody inside resumes =>
      obtain ⟨f, callers, frames⟩ := List.exists_cons_of_ne_nil inside
      rw [frames] at resumes
      obtain ⟨j, body, locals, opStack, opBase, there⟩ := resumes
      obtain ⟨other, param', found, -⟩ := well.instruction j body
      rw [same there found] at found
      exact ⟨f, callers, j, ⟨frames, body, locals, opStack, opBase, there⟩, found⟩

/-- At the `LEAVE` of the only function of its `Run`, `Exec` returns with the
next pass. -/
theorem pass_endsExec {depth i : Nat} {n : Word} (well : WellShaped program layout)
    (block : CodeBlock program vm) (startAligned : ∃ k, start.opPointer = vm.codeSegment + k * 4)
    (inv : InTrap program layout vm start outer (ctx :: ctxs) (a :: as) s) (free : a.pending = none)
    (undisturbed : Undisturbed program layout depth s (.vm .pass)) (alone : ctx.frames.length = 1)
    (at_ : a.opPointer = instr vm i) (leave : program[i]? = some (.opLeave, n)) :
    ∃ q, s.process.step fpu .pass = some q ∧ q.activations = as ++ outer := by
  obtain ⟨holds, intact, -⟩ := undisturbed
  obtain ⟨f, callers, j, here, leaves⟩ :=
    inBodyAt_of_instruction well inv free holds at_ leave (by decide)
  obtain rfl : callers = [] := by
    rw [here.frames, List.length_cons] at alone
    exact List.length_eq_zero_iff.mp (by omega)
  obtain ⟨executes, -⟩ := pass_executes inv free holds here.opPointer leaves
  obtain ⟨outcome, ran⟩ : ∃ outcome, runOpcode fpu .opLeave n
      { s.process.runState a with opPointer := instr s.process.vm (j + 1) } = some outcome := ⟨_, rfl⟩
  obtain ⟨rfl, operands, resumes⟩ := leave_outcome well block inv here leaves intact ran
  obtain ⟨next, -⟩ :=
    @inTrap_leaveExec program layout vm start outer as ctx ctxs a s f j n block startAligned inv here
      leaves intact operands resumes
  refine ⟨_, ?_, next.activations⟩
  rw [executes, ran, Option.map_some]

end Steps

end Q3df.Client
