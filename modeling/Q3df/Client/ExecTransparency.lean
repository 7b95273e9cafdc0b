/-
Module: Q3df.Client.ExecTransparency
Layer: Client
Purpose: Nested execution is transparent. A trace that begins when a `Run` leaves the interpreter
  for a trap stays in `InTrap` whatever `Exec`s the engine calls, and when they have all returned
  the registers are those of the beginning. The headline is `nested_exec_transparent`.
Imports: Q3df.Client.VmStacks, Q3df.Client.NestedExec
Trusted boundary: none
Main exports: inTrap_step, inTrap_run, CallsOut, Restored, ExecsTransparent, codeBlock_of_loaded,
  nested_exec_transparent
Open obligations: none
-/
import Q3df.Client.VmStacks
import Q3df.Client.NestedExec

namespace Q3df.Client

open ByteMemory

/-!
### The trace stays in the trap

The activations above the trap are followed step by step. A pass goes on in the
innermost one, opens a nested Exec or closes one, and none of them reaches below
the trap.
-/

section Trace

variable {program : VmProgram} {layout : Layout} {vm : Vm} {start : ExecEntry}
  {outer acts as : List Activation} {ctxs : List RunContext} {a : Activation}
  {p q : VmProcess} {fpu : FloatUnit} {s t : TracedVm}

/-- The innermost activation of a chain has the innermost context. -/
theorem chain_cons (chain : Chain layout vm start ctxs (a :: as)) : ∃ ctx ctxs', ctxs = ctx :: ctxs' := by
  cases ctxs with
  | nil => cases chain
  | cons ctx ctxs => exact ⟨ctx, ctxs, rfl⟩

theorem chain_nil (chain : Chain layout vm start ctxs []) : ctxs = [] := by
  cases ctxs with
  | nil => rfl
  | cons ctx ctxs =>
      obtain ⟨a, as, none, -⟩ := chain
      cases none

theorem head_append {b : Activation} (innermost : b ∈ acts.head?) : b ∈ (acts ++ outer).head? := by
  cases acts with
  | nil => cases innermost
  | cons a as => exact innermost

/-- `Exec` is called from outside the interpreter. -/
theorem step_exec {command : Word} {arg : Vector Word 12}
    (stepped : p.step fpu (.exec command arg) = some q) :
    (∀ b ∈ p.activations.head?, b.pending.isSome) ∧ q = p.exec command arg := by
  rw [VmProcess.step] at stepped
  split at stepped
  · rename_i none
    refine ⟨?_, (Option.some.inj stepped).symm⟩
    intro b innermost
    rw [none] at innermost
    cases innermost
  · rename_i a outer innermost
    split at stepped
    · rename_i pending
      refine ⟨?_, (Option.some.inj stepped).symm⟩
      intro b head
      rw [innermost] at head
      cases head
      exact pending
    · cases stepped

/-- A hook's return is taken up by the innermost activation, with the parameter
it is pending on. -/
theorem step_callReturns {ret : Word} {mem : Memory}
    (innermost : p.activations = a :: outer) (stepped : p.step fpu (.callReturns ret mem) = some q) :
    ∃ param, a.pending = some param ∧
      q = p.loopTest a outer (callReturn param ret { p.runState a with mem := mem }) := by
  rw [VmProcess.step, innermost] at stepped
  obtain ⟨param, pending, rfl⟩ := Option.map_eq_some_iff.mp stepped
  exact ⟨param, pending, rfl⟩

/-- A pass is one of a `Run` that does not wait. -/
theorem step_pass_free (stepped : p.step fpu .pass = some q) :
    ∃ b, p.activations.head? = some b ∧ b.pending = none := by
  rw [VmProcess.step] at stepped
  split at stepped
  · cases stepped
  · rename_i a outer innermost
    split at stepped
    · cases stepped
    · rename_i free
      exact ⟨a, by rw [innermost]; rfl, Option.not_isSome_iff_eq_none.mp free⟩

/-- One action of the trace. -/
theorem inTrap_step {action : TrapAction} (well : WellShaped program layout)
    (block : CodeBlock program vm) (startAligned : ∃ k, start.opPointer = vm.codeSegment + k * 4)
    (outerWaits : ∀ b ∈ outer.head?, b.pending.isSome)
    (inv : InTrap program layout vm start outer ctxs acts s)
    (undisturbed : Undisturbed program layout outer.length s action)
    (stepped : s.step fpu action = some t) :
    ∃ ctxs' acts', InTrap program layout vm start outer ctxs' acts' t ∧
      ∀ a as, acts = a :: as → acts' = as → ReturnsResult program vm s a t.process := by
  cases action with
  | engineWrites mem =>
      rw [TracedVm.step] at stepped
      split at stepped
      · rename_i waits
        obtain rfl := Option.some.inj stepped
        refine ⟨ctxs, acts, ⟨inv.activations, inv.chain, inv.saved, inv.segments, inv.noHook,
          inv.waiting, ?_⟩, ?_⟩
        · intro a innermost free
          have waiting := waits a (by rw [inv.activations]; exact head_append innermost)
          rw [free] at waiting
          cases waiting
        · rintro a as rfl same
          exact not_ended same
      · cases stepped
  | vm action =>
      obtain ⟨q, moved, rfl⟩ := Option.map_eq_some_iff.mp stepped
      cases action with
      | exec command arg =>
          obtain ⟨waits, rfl⟩ := step_exec moved
          have pending : ∀ b ∈ acts.head?, b.pending.isSome := by
            intro b innermost
            apply waits
            rw [inv.activations]
            exact head_append innermost
          obtain ⟨ctxs', entered, next⟩ := inTrap_exec well inv pending
          refine ⟨ctxs', entered :: acts, next, ?_⟩
          rintro a as rfl same
          have length := congrArg List.length same
          simp only [List.length_cons] at length
          omega
      | pass =>
          obtain ⟨b, innermost, free⟩ := step_pass_free moved
          cases acts with
          | nil =>
              rw [inv.activations] at innermost
              have waiting := outerWaits b innermost
              rw [free] at waiting
              cases waiting
          | cons a as =>
              obtain ⟨ctx, ctxs', rfl⟩ := chain_cons inv.chain
              obtain rfl : a = b := by
                rw [inv.activations] at innermost
                exact Option.some.inj innermost
              obtain ⟨ctxs', acts', next, ends⟩ :=
                inTrap_pass well block startAligned inv free undisturbed moved
              refine ⟨ctxs', acts', next, ?_⟩
              rintro _ _ ⟨⟩ same
              exact ends same
      | callReturns ret mem =>
          cases acts with
          | nil =>
              have atBase := undisturbed.2.2
              rw [inv.activations] at atBase
              exact absurd atBase (Nat.lt_irrefl _)
          | cons a as =>
              obtain ⟨ctx, ctxs', rfl⟩ := chain_cons inv.chain
              obtain ⟨param, pending, rfl⟩ := step_callReturns inv.activations moved
              obtain ⟨back, next⟩ := @inTrap_callReturns program layout vm start outer as ctx ctxs' a s
                param ret mem well block inv pending
              refine ⟨ctx :: ctxs', back :: as, next, ?_⟩
              rintro _ _ ⟨⟩ same
              exact not_ended same

/-- Some contexts describe the state. -/
def StillInTrap (program : VmProgram) (layout : Layout) (vm : Vm) (start : ExecEntry)
    (outer : List Activation) (s : TracedVm) : Prop :=
  ∃ ctxs acts, InTrap program layout vm start outer ctxs acts s

/-- The whole trace. -/
theorem inTrap_run {actions : List TrapAction} (well : WellShaped program layout)
    (block : CodeBlock program vm) (startAligned : ∃ k, start.opPointer = vm.codeSegment + k * 4)
    (outerWaits : ∀ b ∈ outer.head?, b.pending.isSome)
    (begins : StillInTrap program layout vm start outer s)
    (meets : Transition.StepsMeet (TracedVm.step fpu) (Undisturbed program layout outer.length) s actions)
    (ran : Transition.run (TracedVm.step fpu) s actions = some t) :
    StillInTrap program layout vm start outer t := by
  have preserved {r u : TracedVm} {action : TrapAction}
      (still : StillInTrap program layout vm start outer r)
      (undisturbed : Undisturbed program layout outer.length r action)
      (stepped : r.step fpu action = some u) : StillInTrap program layout vm start outer u := by
    obtain ⟨ctxs, acts, inv⟩ := still
    obtain ⟨ctxs', acts', next, -⟩ :=
      inTrap_step well block startAligned outerWaits inv undisturbed stepped
    exact ⟨ctxs', acts', next⟩
  exact Transition.run_invariant_of_stepsMeet preserved begins meets ran

end Trace

/-!
### Exec from a trap

A program is waiting in a trap when the trap runs Execs of its own. What the
trap does between the call and its return is any trace that meets the two
provisos.
-/

/-- The `Run` of `a` is at the `i`-th instruction, a `CALL` of a trap or a host
function, and leaves the interpreter. -/
structure CallsOut (program : VmProgram) (layout : Layout) (fpu : FloatUnit) (c : VmProcess)
    (a : Activation) (outer : List Activation) (i : Nat) (p : VmProcess) : Prop where
  holds : CodeHolds program c.vm c.mem
  innermost : c.activations = a :: outer
  running : a.pending = none
  opPointer : a.opPointer = instr c.vm i
  body : layout.body i = true
  call : ∃ n, program[i]? = some (.opCall, n)
  outside : ((c.runState a).top 0).toInt < 0 ∨ c.vm.memorySize.toInt ≤ ((c.runState a).top 0).toInt
  stepped : c.step fpu .pass = some p

/-- `q` has the registers of `p`, the state in which the `CALL` has left the
interpreter, and the trap still returns to the instruction behind the `CALL`,
with its result in the place of the address. -/
structure Restored (fpu : FloatUnit) (c : VmProcess) (a : Activation) (outer : List Activation) (i : Nat)
    (p q : VmProcess) : Prop where
  activations : q.activations = p.activations
  opStack : q.vm.opStack = p.vm.opStack
  opBase : q.vm.opBase = p.vm.opBase
  opPointer : q.vm.opPointer = p.vm.opPointer
  resumes : ∀ ret mem, q.step fpu (.callReturns ret mem) =
    some { q with
      mem := writeWord mem a.opStack ret
      activations := { a with opPointer := instr c.vm (i + 1) } :: outer }

/-- What a trace from the trap `p` shows of the `Exec`s the engine calls there. -/
structure ExecsTransparent (program : VmProgram) (layout : Layout) (fpu : FloatUnit) (c : VmProcess)
    (a : Activation) (outer : List Activation) (i : Nat) (p : VmProcess) (actions : List TrapAction) :
    Prop where
  /-- When no `Exec` is in progress, all registers are those of the beginning. -/
  restored : ∀ t, Transition.run (TracedVm.step fpu) { process := p, saved := [] } actions = some t →
    t.process.activations.length = p.activations.length → Restored fpu c a outer i p t.process
  /-- The `Exec` that the last action has ended has returned the result of its
  function. -/
  result : ∀ before last u b t, actions = before ++ [last] →
    Transition.run (TracedVm.step fpu) { process := p, saved := [] } before = some u →
    u.process.activations = b :: p.activations → u.step fpu last = some t →
    t.process.activations.length = p.activations.length → ReturnsResult program c.vm u b t.process
  /-- At the `LEAVE` of the function it has called, the only one entered, `Exec`
  returns. -/
  returns : ∀ u b j n,
    Transition.run (TracedVm.step fpu) { process := p, saved := [] } actions = some u →
    u.process.activations = b :: p.activations → b.pending = none → u.saved.length = 2 →
    program[j]? = some (.opLeave, n) → b.opPointer = instr c.vm j →
    Undisturbed program layout p.activations.length u (.vm .pass) →
      ∃ q, u.process.step fpu .pass = some q ∧ q.activations = p.activations

section Transparency

variable {program : VmProgram} {layout : Layout} {fpu : FloatUnit} {c p : VmProcess} {a : Activation}
  {outer : List Activation} {i : Nat} {t : TracedVm}

/-- What the `CALL` leaves. -/
theorem callsOut_process (calls : CallsOut program layout fpu c a outer i p) :
    p = { c with
      vm := { c.vm with opStack := a.opStack, opPointer := instr c.vm (i + 1), hookRealfunc := 0 }
      activations :=
        { a with opPointer := instr c.vm (i + 1), pending := some ((c.runState a).top 0) } :: outer } := by
  obtain ⟨n, call⟩ := calls.call
  have fetched : fetch c.vm c.mem i = some (.opCall, n) := by
    rw [calls.holds i (List.getElem?_eq_some_iff.mp call).1, call]
  have passed := @runPass_fetch fpu (c.runState a) .opCall n i calls.opPointer fetched
  have called : RunState.call { c.runState a with opPointer := instr c.vm (i + 1) } =
      .calls ((c.runState a).top 0)
        { c.runState a with
          vm := { c.vm with opStack := a.opStack, opPointer := instr c.vm (i + 1), hookRealfunc := 0 }
          opPointer := instr c.vm (i + 1) } := if_pos calls.outside
  have ran : runPass fpu (c.runState a) =
      some (RunState.call { c.runState a with opPointer := instr c.vm (i + 1) }) := passed
  have stepped := calls.stepped
  rw [step_pass calls.innermost calls.running, ran, called] at stepped
  exact (Option.some.inj stepped).symm

/-- The trace begins in the trap, with no `Exec` in progress above it. -/
theorem inTrap_start (calls : CallsOut program layout fpu c a outer i p) :
    StillInTrap program layout c.vm p.vm.registers p.activations { process := p, saved := [] } := by
  refine ⟨[], [], rfl, rfl, rfl, step_segments calls.stepped, ?_, ?_, ?_⟩
  · rw [callsOut_process calls]
  · intro _
    exact (rfl : p.vm.registers = p.vm.registers)
  · intro b innermost
    cases innermost

/-- When no `Exec` of the trap is in progress any more, the registers are those
of the beginning. -/
theorem restored_of_inTrap (well : WellShaped program layout) (block : CodeBlock program c.vm)
    (calls : CallsOut program layout fpu c a outer i p)
    (still : StillInTrap program layout c.vm p.vm.registers p.activations t)
    (returned : t.process.activations.length = p.activations.length) :
    Restored fpu c a outer i p t.process := by
  obtain ⟨ctxs, acts, inv⟩ := still
  have none : acts = [] := by
    rw [inv.activations, List.length_append] at returned
    exact List.length_eq_zero_iff.mp (by omega)
  subst none
  obtain rfl := chain_nil inv.chain
  have registers : t.process.vm.registers = p.vm.registers := by
    apply inv.waiting
    intro b innermost
    cases innermost
  have activations : t.process.activations = p.activations := inv.activations
  have opStack : t.process.vm.opStack = p.vm.opStack := congrArg ExecEntry.opStack registers
  have opBase : t.process.vm.opBase = p.vm.opBase := congrArg ExecEntry.opBase registers
  have opPointer : t.process.vm.opPointer = p.vm.opPointer := congrArg ExecEntry.opPointer registers
  refine ⟨activations, opStack, opBase, opPointer, ?_⟩
  intro ret mem
  -- The instruction behind the `CALL` belongs to the body.
  obtain ⟨n, call⟩ := calls.call
  have behind := (well.next i .opCall n calls.body call (by decide) (by decide)).1
  obtain ⟨op, param, instruction, -⟩ := well.instruction (i + 1) behind
  have nonNull := block.nonNull (i + 1) (List.getElem?_eq_some_iff.mp instruction).1
  have waiting : t.process.activations =
      { a with opPointer := instr c.vm (i + 1), pending := some ((c.runState a).top 0) } :: outer := by
    rw [activations, callsOut_process calls]
  have opStackBack : t.process.vm.opStack = a.opStack := by rw [opStack, callsOut_process calls]
  have opPointerBack : t.process.vm.opPointer = instr c.vm (i + 1) := by
    rw [opPointer, callsOut_process calls]
  rw [VmProcess.step, waiting]
  simp only [Option.map_some, callReturn_noHook inv.noHook, opStackBack, opPointerBack]
  rw [VmProcess.loopTest, if_pos nonNull]
  simp only [VmProcess.runState, ← calls.running]

/-- An `Exec` that the engine calls from a trap of a running `Run` is
transparent, whatever the program, the engine and the `Exec`s within it do, as
long as the program and the saved program counters stay as they are. -/
theorem nested_exec_transparent {actions : List TrapAction} (well : WellShaped program layout)
    (block : CodeBlock program c.vm) (calls : CallsOut program layout fpu c a outer i p)
    (meets : Transition.StepsMeet (TracedVm.step fpu) (Undisturbed program layout p.activations.length)
      { process := p, saved := [] } actions) :
    ExecsTransparent program layout fpu c a outer i p actions := by
  have startAligned : ∃ k, p.vm.registers.opPointer = c.vm.codeSegment + k * 4 := by
    rw [callsOut_process calls]
    exact instr_aligned (i + 1)
  have waits : ∀ b ∈ p.activations.head?, b.pending.isSome := by
    rw [callsOut_process calls]
    rintro b ⟨⟩
    rfl
  have begins := inTrap_start calls
  constructor
  case restored =>
    intro t ran returned
    have still := inTrap_run well block startAligned waits begins meets ran
    exact restored_of_inTrap well block calls still returned
  case result =>
    rintro before last u b t rfl reached above stepped returned
    obtain ⟨meetsBefore, meetsLast⟩ := Transition.stepsMeet_append.mp meets
    obtain ⟨ctxs, acts, inv⟩ := inTrap_run well block startAligned waits begins meetsBefore reached
    obtain rfl : acts = [b] := List.append_cancel_right (inv.activations.symm.trans above)
    obtain ⟨ctxs', acts', next, ends⟩ :=
      inTrap_step well block startAligned waits inv (meetsLast u reached).1 stepped
    have ended : acts' = [] := by
      rw [next.activations, List.length_append] at returned
      exact List.length_eq_zero_iff.mp (by omega)
    exact ends b [] rfl ended
  case returns =>
    intro u b j n reached above free saved leave at_ undisturbed
    obtain ⟨ctxs, acts, inv⟩ := inTrap_run well block startAligned waits begins meets reached
    obtain rfl : acts = [b] := List.append_cancel_right (inv.activations.symm.trans above)
    obtain ⟨ctx, ctxs', rfl⟩ := chain_cons inv.chain
    obtain ⟨-, -, -, -, rest⟩ := chain_innermost inv.chain
    obtain rfl := chain_nil rest
    have alone : ctx.frames.length = 1 := by
      rw [inv.saved, List.flatMap_singleton, savedWords, List.length_append, List.length_map] at saved
      exact Nat.succ.inj saved
    exact pass_endsExec well block startAligned inv free undisturbed alone at_ leave

end Transparency

/-!
### Loaded programs

A file that encodes a program, loaded by `Create`, holds its code where the
layout says. The trap of the sample program calls Exec twice before it returns.
-/

/-- In every state of a loaded VM the code is where the loader has put it: at
the start of the block, which the allocator has aligned and which does not reach
over the end of the address space. -/
theorem codeBlock_of_loaded {fpu : FloatUnit} {stacksize : Word} {oldmem : Option Word} {env : LoadEnv}
    {file : List Byte} {vm : Vm} {mem : Memory} {program : VmProgram} {actions : List VmAction}
    {c : VmProcess} (created : (create stacksize oldmem env file).result = .qtrue vm mem)
    (aligned : ∃ k, vm.memory = k * 4) (nonNull : 0 < vm.memory.toNat)
    (inside : vm.memory.toNat + 8 * program.length ≤ 2 ^ 32)
    (ran : Transition.run (VmProcess.step fpu) (.loaded vm mem) actions = some c) :
    CodeBlock program c.vm := by
  obtain ⟨-, mask, memory, -, -, rfl, -⟩ := create_eq_qtrue created
  have same : c.vm.segments = (segmentsOf stacksize file (fileImage env.heap file) mask memory).segments :=
    run_segments ran
  obtain ⟨code, -⟩ := segments_code same
  have start : c.vm.codeSegment = memory := code
  refine ⟨by rw [start]; exact aligned, ?_⟩
  intro i small
  have first : 0 < memory.toNat := nonNull
  have last : memory.toNat + 8 * program.length ≤ 2 ^ 32 := inside
  rw [instr, start]
  bv_omega

/-- One function, `ENTER 8`, `CONST -1`, `CALL`, `LEAVE 8`, and 400 bytes of bss. -/
def trapFile : List Byte :=
  [0x44, 0x14, 0x72, 0x12, 4, 0, 0, 0, 32, 0, 0, 0, 16, 0, 0, 0,
    48, 0, 0, 0, 0, 0, 0, 0, 0, 0, 0, 0, 0x90, 1, 0, 0,
    3, 8, 0, 0, 0, 8, 0xFF, 0xFF, 0xFF, 0xFF, 5, 4, 8, 0, 0, 0]

def trapProgram : VmProgram := [(.opEnter, 8), (.opConst, -1), (.opCall, 0), (.opLeave, 8)]

def trapLayout : Layout :=
  { body := fun i => 1 ≤ i && i ≤ 3, locals := fun _ => 8, height := fun i => if i = 1 then 0 else 1 }

/-- The sample program meets the conditions on the shape of code. -/
theorem trapProgram_wellShaped : WellShaped trapProgram trapLayout := by
  have inBody (i : Nat) (body : trapLayout.body i = true) : i = 1 ∨ i = 2 ∨ i = 3 := by
    simp only [trapLayout, Bool.and_eq_true, decide_eq_true_eq] at body
    omega
  constructor
  case entry => exact ⟨8, rfl⟩
  case enter =>
    rintro (_ | _ | _ | _ | i) n enter
    · cases enter
      decide
    all_goals cases enter
  case instruction =>
    intro i body
    rcases inBody i body with rfl | rfl | rfl
    · exact ⟨_, _, rfl, by decide⟩
    · exact ⟨_, _, rfl, by decide⟩
    · exact ⟨_, _, rfl, by decide⟩
  case leave =>
    intro i n body leave
    rcases inBody i body with rfl | rfl | rfl <;> cases leave
    decide
  case next =>
    intro i op param body instruction noLeave noJump
    rcases inBody i body with rfl | rfl | rfl <;> cases instruction
    · decide
    · decide
    · exact absurd rfl noLeave
  case branch =>
    intro i op param body instruction branches
    rcases inBody i body with rfl | rfl | rfl <;> cases instruction <;> cases branches

/-- The process in which `vmMain` of that program is about to call the engine. -/
def trapCaller : Option VmProcess :=
  match (create 0 none zeroHeap trapFile).result with
  | .qtrue vm mem =>
      Transition.run (VmProcess.step noFloats) (.loaded vm mem)
        [.exec 0 (Vector.replicate 12 0), .pass, .pass]
  | _ => none

/-- In the trap the engine calls `vmMain` once more, and answers its trap with 7. -/
def trapActions (mem : Memory) : List TrapAction :=
  [.vm (.exec 0 (Vector.replicate 12 0)), .vm .pass, .vm .pass, .vm .pass, .vm (.callReturns 7 mem),
   .vm .pass]

def trapMemory : Memory :=
  match trapCaller.bind fun c => Transition.run (VmProcess.step noFloats) c
    [.pass, .exec 0 (Vector.replicate 12 0), .pass, .pass, .pass] with
  | some u => u.mem
  | none => fun _ => 0

def trapActivation : Activation :=
  { args := 0x1174, opStack := 0x11AC, opPointer := 0x1010, pending := none }

theorem trapCaller_calls :
    trapCaller.isSome ∧ ∀ c ∈ trapCaller,
      c.activations = [trapActivation] ∧ trapActivation.opPointer = instr c.vm 2 ∧
        CodeHolds trapProgram c.vm c.mem ∧ ((c.runState trapActivation).top 0).toInt < 0 ∧
        (c.step noFloats .pass).isSome := by
  decide +kernel

theorem trapActions_undisturbed :
    ∀ c ∈ trapCaller, ∀ p ∈ c.step noFloats .pass,
      Transition.StepsMeet (TracedVm.step noFloats)
        (Undisturbed trapProgram trapLayout p.activations.length) { process := p, saved := [] }
        (trapActions trapMemory) := by
  decide +kernel

/-- The trace ends with the trap returned and the saved program counters back in
place. -/
theorem trapActions_return :
    ∀ c ∈ trapCaller, ∀ p ∈ c.step noFloats .pass,
      let last := Transition.run (TracedVm.step noFloats) { process := p, saved := [] }
        (trapActions trapMemory)
      last.isSome ∧ ∀ t ∈ last, t.process.results = [7] ∧
        t.process.activations.length = p.activations.length := by
  decide +kernel

theorem nested_exec_transparent_trapFile :
    ∃ vm mem c p t, (create 0 none zeroHeap trapFile).result = .qtrue vm mem ∧
      Transition.run (VmProcess.step noFloats) (.loaded vm mem)
        [.exec 0 (Vector.replicate 12 0), .pass, .pass] = some c ∧
      c.step noFloats .pass = some p ∧
      Transition.run (TracedVm.step noFloats) { process := p, saved := [] } (trapActions trapMemory) =
        some t ∧
      t.process.results = [7] ∧ Restored noFloats c trapActivation [] 2 p t.process := by
  obtain ⟨vm, mem, created⟩ : ∃ vm mem, (create 0 none zeroHeap trapFile).result = .qtrue vm mem :=
    ⟨_, _, rfl⟩
  obtain ⟨called, atCall⟩ := trapCaller_calls
  obtain ⟨c, caller⟩ := Option.isSome_iff_exists.mp called
  obtain ⟨innermost, opPointer, holds, trap, leaves⟩ := atCall c caller
  obtain ⟨p, stepped⟩ := Option.isSome_iff_exists.mp leaves
  obtain ⟨returns, results⟩ := trapActions_return c caller p stepped
  obtain ⟨t, ran⟩ := Option.isSome_iff_exists.mp returns
  obtain ⟨seven, length⟩ := results t ran
  have loaded : Transition.run (VmProcess.step noFloats) (.loaded vm mem)
      [.exec 0 (Vector.replicate 12 0), .pass, .pass] = some c := by
    rw [← caller, trapCaller, created]
  have calls : CallsOut trapProgram trapLayout noFloats c trapActivation [] 2 p :=
    { holds := holds, innermost := innermost, running := rfl, opPointer := opPointer, body := rfl
      call := ⟨0, rfl⟩, outside := .inl trap, stepped := stepped }
  have memory : vm.memory = 0x1000 := by
    obtain ⟨-, mask, memory, -, block, rfl, -⟩ := create_eq_qtrue created
    exact (Option.some.inj block).symm
  have block : CodeBlock trapProgram c.vm := by
    apply codeBlock_of_loaded created _ _ _ loaded
    · exact ⟨0x400, memory⟩
    · rw [memory]
      decide
    · rw [memory]
      decide
  have transparent := nested_exec_transparent trapProgram_wellShaped block calls
    (trapActions_undisturbed c caller p stepped)
  exact ⟨vm, mem, c, p, t, created, loaded, stepped, ran, seven, transparent.restored t ran length⟩

end Q3df.Client
