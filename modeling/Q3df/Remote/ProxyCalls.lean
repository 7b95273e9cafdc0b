/-
Module: Q3df.Remote.ProxyCalls
Layer: Remote
Purpose: The proxies of several game servers with the daemon they call: every proxy has its request
  queue with the two threads, and the function of an item is a call over the proxy's own connection,
  so the interleaving is that of the threads of all proxies, the threads of the daemon and the
  network. The executers and the protocol are the two systems modelled before; what is shown here is
  how they fit together. The services are executed once for each item, in the order in which the
  game code has submitted them, and each callback is handed what the service gave for its own item.
Imports: Q3df.Client.CallbackOrder, Q3df.Client.PluginShutdown, Q3df.Rpc.Session
Trusted boundary: human-reviewed transcription of the macro EXECUTE_API_ASYNC, whose function calls
  the client of the proxy; the connection is behind its handshake
Main exports: Proxies, RemoteAction, Proxies.step, Coupled, coupled_step, coupled_run,
  remote_calls_exactly_once, remote_call_completes
Open obligations: none
-/
import Q3df.Client.CallbackOrder
import Q3df.Client.PluginShutdown
import Q3df.Rpc.Session

namespace Q3df.Remote

open Client (ApiAsyncExecuter ApiAsyncItem ExecuterAction WorkerPc Conserved)

/-!
### The system

Any number of proxies, each with its executer and its connection, and one server
behind all of them. The worker's call of the function it executes is a call over
its own connection.
-/

/-- The proxies and the daemon. `calling` is whether a worker has entered the
function of its item; `answers` has the items whose function has returned, with
what they keep of it for their callback. -/
structure Proxies (ι σ μ : Type) where
  executers : ι → ApiAsyncExecuter (Rpc.Call μ)
  calling : ι → Bool
  answers : ι → List (ApiAsyncItem (Rpc.Call μ) × Except Rpc.Error μ)
  rpc : Rpc.System ι σ μ

/-- All proxies have just made their executers, and their connections are behind
the handshake. -/
def Proxies.start {ι σ μ : Type} (shared : σ) : Proxies ι σ μ :=
  { executers := fun _ => .init, calling := fun _ => false, answers := fun _ => [], rpc := .start shared }

/-- What can happen next. -/
inductive RemoteAction (ι μ : Type) where
  | executer (i : ι) (action : ExecuterAction (Rpc.Call μ))
  | invoke (i : ι)
  | finish (i : ι)
  | rpc (action : Rpc.Action ι μ)

/-- The item whose function the worker is to execute. -/
def inFunction {ρ : Type} : WorkerPc ρ → Option (ApiAsyncItem ρ)
  | .execApi item => some item
  | _ => none

/-- The worker's own next step. -/
def isWorker {ρ : Type} : ExecuterAction ρ → Bool
  | .worker => true
  | _ => false

section Steps

variable {ι σ μ : Type} [DecidableEq ι]

/-- One step. The executer's own step out of `ExecuteApi` is split into the call
of the function and its return, between which the protocol runs. -/
def Proxies.step (snappy : Rpc.Snappy) (server : Rpc.Server σ μ) (s : Proxies ι σ μ) :
    RemoteAction ι μ → Option (Proxies ι σ μ)
  | .executer i action =>
      if isWorker action && (inFunction (s.executers i).worker).isSome then none
      else
        ((s.executers i).step action).map fun executer =>
          { s with executers := Function.update s.executers i executer }
  | .invoke i =>
      if s.calling i then none
      else
        (inFunction (s.executers i).worker).bind fun item =>
          (Rpc.step snappy server s.rpc (.call i item.request)).map fun rpc =>
            { s with calling := Function.update s.calling i true, rpc := rpc }
  | .finish i =>
      if s.calling i && (s.rpc.links i).waiting.call.isEmpty then
        (inFunction (s.executers i).worker).bind fun item =>
          (s.rpc.links i).returned.getLast?.bind fun returned =>
            ((s.executers i).step .worker).map fun executer =>
              { s with
                executers := Function.update s.executers i executer
                calling := Function.update s.calling i false
                answers := Function.update s.answers i (s.answers i ++ [(item, returned.2)]) }
      else none
  | .rpc action =>
      if action.startsCall then none
      else (Rpc.step snappy server s.rpc action).map fun rpc => { s with rpc := rpc }

/-- The requests game code submits are calls the daemon can answer. -/
def RemoteFits (snappy : Rpc.Snappy) (server : Rpc.Server σ μ) : RemoteAction ι μ → Prop
  | .executer _ (.callExecuteAsync call) => Rpc.Fits snappy server call
  | _ => True

end Steps

section Statements

variable {ι σ μ : Type}

/-- The calls of the items whose function has returned, with what it returned. -/
def Proxies.results (s : Proxies ι σ μ) (i : ι) : List (Rpc.Call μ × Except Rpc.Error μ) :=
  (s.answers i).map fun answer => (answer.1.request, answer.2)

/-- What an item keeps for its callback. -/
def Proxies.answerOf (s : Proxies ι σ μ) (i : ι) (item : ApiAsyncItem (Rpc.Call μ)) :
    Option (Except Rpc.Error μ) :=
  ((s.answers i).find? fun answer => answer.1.serial == item.serial).map Prod.snd

/-- The items whose callbacks have been run, with what the callbacks were handed. -/
def Proxies.handed (s : Proxies ι σ μ) (i : ι) :
    List (ApiAsyncItem (Rpc.Call μ) × Option (Except Rpc.Error μ)) :=
  (s.executers i).calledBack.map fun item => (item, s.answerOf i item)

/-- How an executer and its connection fit together: outside a function nothing
is waited for, and the calls that have returned are those of the items executed;
in a function there is one call more, of the item in hand. -/
structure Coupled (snappy : Rpc.Snappy) (server : Rpc.Server σ μ) (s : Proxies ι σ μ)
    (i : ι) : Prop where
  conserved : Conserved (s.executers i)
  enqueued : ∀ item ∈ (s.executers i).enqueued, Rpc.Fits snappy server item.request
  submitting : ∀ call, (s.executers i).main.submitting = some call → Rpc.Fits snappy server call
  executed : (s.answers i).map Prod.fst = (s.executers i).executed
  outside : s.calling i = false → (s.rpc.links i).waiting = .idle ∧ (s.rpc.links i).returned = s.results i
  inside : s.calling i = true → ∃ item, inFunction (s.executers i).worker = some item ∧
    ((s.rpc.links i).waiting.call = [item.request] ∧ (s.rpc.links i).returned = s.results i ∨
      (s.rpc.links i).waiting = .idle ∧
        ∃ result, (s.rpc.links i).returned = s.results i ++ [(item.request, result)])

end Statements

/-!
### What the executer's steps leave alone

The worker is inside the function it executes until that function returns. No
other step of the executer touches this.
-/

section Executer

variable {ρ : Type} {e e' : ApiAsyncExecuter ρ} {action : ExecuterAction ρ}

/-- The worker is inside a function only at the one program counter. -/
theorem inFunction_eq_some {pc : WorkerPc ρ} {item : ApiAsyncItem ρ} :
    inFunction pc = some item ↔ pc = .execApi item := by
  cases pc <;> simp [inFunction]

/-- A worker that is signalled stays in the function of its item. -/
theorem inFunction_signalled (pc : WorkerPc ρ) : inFunction pc.signalled = inFunction pc := by
  cases pc <;> rfl

/-- A step that is not the worker's step out of a function executes nothing, and
leaves a worker where it is inside a function. -/
theorem executer_keeps (stepped : e.step action = some e')
    (outside : isWorker action = true → inFunction e.worker = none) :
    e'.executed = e.executed ∧ ∀ item, inFunction e.worker = some item →
      inFunction e'.worker = some item := by
  cases action with
  | main =>
      cases Client.mainMove_of_mainStep stepped with
      | signals pc =>
          refine ⟨rfl, fun item inside => ?_⟩
          simp only [inFunction_signalled]
          exact inside
      | wakesWorker pc =>
          refine ⟨rfl, fun item inside => ?_⟩
          simp only [inFunction_signalled]
          exact inside
      | rejects | accepts | locks | pushes | unlocks | locks2 | leavesLoop | entersLoop | readsFront | pops
      | callsBack | deletes | unlocks2 | joins | destroys => exact ⟨rfl, fun item inside => inside⟩
  | worker =>
      have elsewhere := outside rfl
      refine ⟨?_, fun item inside => absurd (elsewhere.symm.trans inside) (by simp)⟩
      cases Client.workerMove_of_workerStep stepped with
      | executes pc =>
          rw [pc] at elsewhere
          cases elsewhere
      | exits | starts | locks | findsNone | findsSome | stops | waits | blocks | relocks
      | leavesLoop | entersLoop
      | readsFront | pops | unlocks | locks2 | pushes | unlocks2 => rfl
  | spuriousWakeup =>
      simp only [ApiAsyncExecuter.step] at stepped
      split at stepped
      · rename_i blocked
        cases stepped
        refine ⟨rfl, fun item inside => ?_⟩
        rw [blocked] at inside
        cases inside
      · cases stepped
  | callExecuteAsync request | callDoMainThreadWork | callbackReturns | destroy =>
      simp only [ApiAsyncExecuter.step] at stepped
      split at stepped
      all_goals first
        | cases stepped
          exact ⟨rfl, fun item inside => inside⟩
        | cases stepped

/-- The worker's step out of the function of an item. -/
theorem worker_of_inFunction {item : ApiAsyncItem ρ} (inside : inFunction e.worker = some item) :
    e.step .worker = some { e with executed := e.executed ++ [item], worker := .lock2 item } := by
  simp only [ApiAsyncExecuter.step, ApiAsyncExecuter.workerStep, inFunction_eq_some.mp inside]

/-- The item in a function has been enqueued. -/
theorem enqueued_of_inFunction (conserved : Conserved e) {item : ApiAsyncItem ρ}
    (inside : inFunction e.worker = some item) : item ∈ e.enqueued := by
  rw [conserved.enqueued_eq, inFunction_eq_some.mp inside]
  simp [WorkerPc.held]

/-- What holds of every request game code submits holds of all items that are
enqueued, and of the request that is being submitted. -/
theorem requests_step {allowed : ρ → Prop} (enqueued : ∀ item ∈ e.enqueued, allowed item.request)
    (submitting : ∀ request, e.main.submitting = some request → allowed request)
    (new : ∀ request, action = .callExecuteAsync request → allowed request)
    (stepped : e.step action = some e') :
    (∀ item ∈ e'.enqueued, allowed item.request) ∧ ∀ request, e'.main.submitting = some request →
      allowed request := by
  by_cases main : action = .main
  · rw [main] at stepped
    obtain ⟨_, before, _, accepted⟩ := Client.mainStep_history stepped
    refine ⟨?_, fun request entering => submitting request (before request entering)⟩
    intro item among
    rcases accepted item among with earlier | ⟨site, pushing⟩
    · exact enqueued item earlier
    · exact submitting item.request (by rw [pushing]; rfl)
  · obtain ⟨_, _, sameEnqueued, sameMain | left | ⟨request, calls, entering⟩⟩ :=
        Client.step_history main stepped
    · rw [sameEnqueued, sameMain]
      exact ⟨enqueued, submitting⟩
    · rw [sameEnqueued, left]
      exact ⟨enqueued, fun request entering => by cases entering⟩
    · rw [sameEnqueued, entering]
      refine ⟨enqueued, fun request' same => ?_⟩
      cases same
      exact new request calls

end Executer

/-!
### One step of the whole

A step moves one executer, or one connection together with the server. The
coupling says of each proxy which call its connection is busy with.
-/

section Coupling

variable {ι σ μ : Type} {snappy : Rpc.Snappy} {server : Rpc.Server σ μ}
  {s s' : Proxies ι σ μ} {i : ι}

/-- What happens to other proxies does not matter. -/
theorem Coupled.congr (coupled : Coupled snappy server s i) (executer : s'.executers i = s.executers i)
    (calling : s'.calling i = s.calling i) (answers : s'.answers i = s.answers i)
    (link : s'.rpc.links i = s.rpc.links i) : Coupled snappy server s' i := by
  have results : s'.results i = s.results i := by
    rw [Proxies.results, answers]
    rfl
  refine ⟨?_, ?_, ?_, ?_, ?_, ?_⟩
  · rw [executer]
    exact coupled.conserved
  · rw [executer]
    exact coupled.enqueued
  · rw [executer]
    exact coupled.submitting
  · rw [executer, answers]
    exact coupled.executed
  · rw [calling, link, results]
    exact coupled.outside
  · rw [calling, executer, link, results]
    exact coupled.inside

variable [DecidableEq ι]

/-- The executer takes a step of its own. -/
theorem Coupled.executer (coupled : Coupled snappy server s i) {action : ExecuterAction (Rpc.Call μ)}
    {executer : ApiAsyncExecuter (Rpc.Call μ)} (stepped : (s.executers i).step action = some executer)
    (outside : isWorker action = true → inFunction (s.executers i).worker = none)
    (fits : ∀ call, action = .callExecuteAsync call → Rpc.Fits snappy server call) :
    Coupled snappy server { s with executers := Function.update s.executers i executer } i := by
  obtain ⟨sameExecuted, stays⟩ := executer_keeps stepped outside
  obtain ⟨enqueued, submitting⟩ := requests_step coupled.enqueued coupled.submitting fits stepped
  refine ⟨?_, ?_, ?_, ?_, coupled.outside, ?_⟩
  · simp only [Function.update_self]
    exact coupled.conserved.step stepped
  · simp only [Function.update_self]
    exact enqueued
  · simp only [Function.update_self]
    exact submitting
  · simp only [Function.update_self, sameExecuted]
    exact coupled.executed
  · intro calling
    obtain ⟨item, inside, link⟩ := coupled.inside calling
    simp only [Function.update_self]
    exact ⟨item, stays item inside, link⟩

/-- The function of an item calls the daemon. -/
theorem Coupled.invoke (coupled : Coupled snappy server s i) {item : ApiAsyncItem (Rpc.Call μ)}
    (notCalling : s.calling i = false) (inside : inFunction (s.executers i).worker = some item)
    {rpc : Rpc.System ι σ μ} (stepped : Rpc.step snappy server s.rpc (.call i item.request) = some rpc) :
    Coupled snappy server { s with calling := Function.update s.calling i true, rpc := rpc } i := by
  obtain ⟨link, called, rfl⟩ := Option.map_eq_some_iff.mp stepped
  obtain ⟨idle, outcome⟩ := Rpc.call_cases called
  obtain ⟨_, sameReturned⟩ := coupled.outside notCalling
  refine ⟨coupled.conserved, coupled.enqueued, coupled.submitting, coupled.executed, ?_, ?_⟩
  · intro still
    simp only [Function.update_self] at still
    cases still
  · intro _
    simp only [Function.update_self]
    refine ⟨item, inside, ?_⟩
    rcases outcome with ⟨waits, same⟩ | ⟨idleAgain, result, more⟩
    · left
      rw [same]
      exact ⟨waits, sameReturned⟩
    · right
      rw [more, sameReturned]
      exact ⟨idleAgain, result, rfl⟩

/-- The function of an item returns. -/
theorem Coupled.finish (coupled : Coupled snappy server s i) {item : ApiAsyncItem (Rpc.Call μ)}
    (calling : s.calling i = true) (idle : (s.rpc.links i).waiting.call = [])
    (inside : inFunction (s.executers i).worker = some item) {returned : Rpc.Call μ × Except Rpc.Error μ}
    (last : (s.rpc.links i).returned.getLast? = some returned) {executer : ApiAsyncExecuter (Rpc.Call μ)}
    (stepped : (s.executers i).step .worker = some executer) :
    Coupled snappy server { s with
      executers := Function.update s.executers i executer
      calling := Function.update s.calling i false
      answers := Function.update s.answers i (s.answers i ++ [(item, returned.2)]) } i := by
  have keeps := coupled.conserved.step stepped
  rw [worker_of_inFunction inside] at stepped
  cases stepped
  obtain ⟨item', inside', outcome⟩ := coupled.inside calling
  cases inside.symm.trans inside'
  refine ⟨?_, ?_, ?_, ?_, ?_, ?_⟩
  · simp only [Function.update_self]
    exact keeps
  · simp only [Function.update_self]
    exact coupled.enqueued
  · simp only [Function.update_self]
    exact coupled.submitting
  · simp only [Function.update_self, List.map_append, List.map_cons, List.map_nil, coupled.executed]
  · intro _
    rcases outcome with ⟨waits, _⟩ | ⟨idleNow, result, more⟩
    · rw [idle] at waits
      cases waits
    · rw [more, List.getLast?_concat] at last
      cases last
      refine ⟨idleNow, ?_⟩
      rw [more, Proxies.results, Proxies.results]
      simp only [Function.update_self, List.map_append, List.map_cons, List.map_nil]
  · intro still
    simp only [Function.update_self] at still
    cases still

/-- The protocol goes on. -/
theorem Coupled.rpc (coupled : Coupled snappy server s i) {action : Rpc.Action ι μ}
    (noCall : action.startsCall = false) {rpc : Rpc.System ι σ μ}
    (stepped : Rpc.step snappy server s.rpc action = some rpc) :
    Coupled snappy server { s with rpc := rpc } i := by
  refine ⟨coupled.conserved, coupled.enqueued, coupled.submitting, coupled.executed, ?_, ?_⟩
  · intro notCalling
    obtain ⟨idle, same⟩ := coupled.outside notCalling
    rcases Rpc.step_cases stepped noCall i with ⟨sameCall, sameReturned⟩ | ⟨call, result, waits, _, _⟩
    · rw [idle] at sameCall
      exact ⟨Rpc.Waiting.call_eq_nil.mp sameCall, sameReturned.trans same⟩
    · rw [idle] at waits
      cases waits
  · intro calling
    obtain ⟨item, inside, outcome⟩ := coupled.inside calling
    refine ⟨item, inside, ?_⟩
    rcases Rpc.step_cases stepped noCall i with
      ⟨sameCall, sameReturned⟩ | ⟨call, result, waits, idle, more⟩
    · rcases outcome with ⟨waits, same⟩ | ⟨idle, result, more⟩
      · exact Or.inl ⟨sameCall.trans waits, sameReturned.trans same⟩
      · rw [idle] at sameCall
        exact Or.inr ⟨Rpc.Waiting.call_eq_nil.mp sameCall, result, sameReturned.trans more⟩
    · rcases outcome with ⟨waitsToo, same⟩ | ⟨idleBefore, _, _⟩
      · rw [waits] at waitsToo
        cases waitsToo
        exact Or.inr ⟨idle, result, by rw [more, same]; rfl⟩
      · rw [idleBefore] at waits
        cases waits

omit [DecidableEq ι] in
/-- At the start nothing is submitted, and no connection is busy. -/
theorem coupled_start (shared : σ) (i : ι) : Coupled snappy server (Proxies.start shared) i := by
  refine ⟨Client.conserved_init, ?_, ?_, rfl, fun _ => ⟨rfl, rfl⟩, ?_⟩
  · intro item among
    cases among
  · intro call entering
    cases entering
  · intro calling
    cases calling

/-- Every step keeps executers and connections together, and is a step of the
protocol or none. -/
theorem coupled_step {action : RemoteAction ι μ} (coupled : ∀ i, Coupled snappy server s i)
    (fits : RemoteFits snappy server action) (stepped : s.step snappy server action = some s') :
    (∀ i, Coupled snappy server s' i) ∧
      ∃ moves : List (Rpc.Action ι μ), (∀ move ∈ moves, Rpc.ActionFits snappy server move) ∧
        Transition.run (Rpc.step snappy server) s.rpc moves = some s'.rpc := by
  have nothing : ∀ rpc : Rpc.System ι σ μ, ∃ moves : List (Rpc.Action ι μ),
      (∀ move ∈ moves, Rpc.ActionFits snappy server move) ∧
        Transition.run (Rpc.step snappy server) rpc moves = some rpc :=
    fun rpc => ⟨[], fun _ among => absurd among List.not_mem_nil, rfl⟩
  cases action with
  | executer j action =>
      simp only [Proxies.step] at stepped
      split_ifs at stepped with blocked
      obtain ⟨executer, moved, rfl⟩ := Option.map_eq_some_iff.mp stepped
      refine ⟨fun i => ?_, nothing s.rpc⟩
      by_cases mine : i = j
      · subst mine
        apply (coupled i).executer moved
        · intro worker
          rw [worker, Bool.true_and, Bool.not_eq_true, Option.isSome_eq_false_iff,
            Option.isNone_iff_eq_none] at blocked
          exact blocked
        · rintro call rfl
          exact fits
      · exact (coupled i).congr (Function.update_of_ne mine ..) rfl rfl rfl
  | invoke j =>
      simp only [Proxies.step] at stepped
      split_ifs at stepped with calling
      obtain ⟨item, inside, called⟩ := Option.bind_eq_some_iff.mp stepped
      obtain ⟨rpc, moved, rfl⟩ := Option.map_eq_some_iff.mp called
      refine ⟨fun i => ?_, [.call j item.request], ?_, ?_⟩
      · by_cases mine : i = j
        · subst mine
          exact (coupled i).invoke (Bool.eq_false_iff.mpr calling) inside moved
        · exact (coupled i).congr rfl (Function.update_of_ne mine ..) rfl (Rpc.step_other moved mine)
      · intro move among
        rw [List.mem_singleton.mp among]
        exact (coupled j).enqueued item (enqueued_of_inFunction (coupled j).conserved inside)
      · exact Transition.run_cons_eq_some.mpr ⟨_, moved, rfl⟩
  | finish j =>
      simp only [Proxies.step] at stepped
      split_ifs at stepped with ready
      obtain ⟨calling, idle⟩ := Bool.and_eq_true_iff.mp ready
      obtain ⟨item, inside, rest⟩ := Option.bind_eq_some_iff.mp stepped
      obtain ⟨returned, last, rest⟩ := Option.bind_eq_some_iff.mp rest
      obtain ⟨executer, moved, rfl⟩ := Option.map_eq_some_iff.mp rest
      refine ⟨fun i => ?_, nothing s.rpc⟩
      by_cases mine : i = j
      · subst mine
        exact (coupled i).finish calling (List.isEmpty_iff.mp idle) inside last moved
      · exact (coupled i).congr (Function.update_of_ne mine ..) (Function.update_of_ne mine ..)
          (Function.update_of_ne mine ..) rfl
  | rpc action =>
      simp only [Proxies.step] at stepped
      split_ifs at stepped with starts
      obtain ⟨rpc, moved, rfl⟩ := Option.map_eq_some_iff.mp stepped
      have noCall : action.startsCall = false := Bool.eq_false_iff.mpr starts
      refine ⟨fun i => (coupled i).rpc noCall moved, [action], ?_, ?_⟩
      · intro move among
        rw [List.mem_singleton.mp among]
        cases action with
        | call j call => cases noCall
        | _ => trivial
      · exact Transition.run_cons_eq_some.mpr ⟨_, moved, rfl⟩

/-- Every run keeps them together, and its protocol is a run of the protocol. -/
theorem coupled_run {actions : List (RemoteAction ι μ)} {shared : σ}
    (fits : ∀ action ∈ actions, RemoteFits snappy server action)
    (ran : Transition.run (Proxies.step snappy server) (.start shared) actions = some s) :
    (∀ i, Coupled snappy server s i) ∧
      ∃ moves : List (Rpc.Action ι μ), (∀ move ∈ moves, Rpc.ActionFits snappy server move) ∧
        Transition.run (Rpc.step snappy server) (.start shared) moves = some s.rpc :=
  @Transition.run_project _ _ (Proxies.step snappy server) (.start shared) s actions _ _
    (Rpc.step snappy server) Proxies.rpc (fun s => ∀ i, Coupled snappy server s i)
      (RemoteFits snappy server)
    (Rpc.ActionFits snappy server) (fun coupled here stepped => coupled_step coupled here stepped)
    (coupled_start shared) fits ran

/-!
### What the callbacks are handed

Callbacks come in the order of the calls, so what they are handed are the
answers on the connection, in order.
-/

omit [DecidableEq ι] in
/-- The answer that is found for an item is its own. -/
theorem answerOf_of_mem (coupled : Coupled snappy server s i)
    {answer : ApiAsyncItem (Rpc.Call μ) × Except Rpc.Error μ} (among : answer ∈ s.answers i) :
    s.answerOf i answer.1 = some answer.2 := by
  have distinct : ((s.answers i).map fun answer => answer.1.serial).Nodup := by
    have serials := (Client.keepsOrder_of_conserved coupled.conserved).executedOnce
    rw [← coupled.executed, List.map_map] at serials
    exact serials
  rw [Proxies.answerOf]
  generalize s.answers i = answers at among distinct
  induction answers with
  | nil => cases among
  | cons first answers inductionHypothesis =>
      rw [List.map_cons, List.nodup_cons] at distinct
      rw [List.find?_cons]
      rcases List.mem_cons.mp among with rfl | later
      · simp
      · have different : (first.1.serial == answer.1.serial) = false := by
          apply beq_eq_false_iff_ne.mpr
          intro same
          apply distinct.1
          rw [same]
          exact List.mem_map_of_mem later
        rw [different]
        exact inductionHypothesis later distinct.2

omit [DecidableEq ι] in
/-- The callbacks that have been run are handed the first answers, each that of
its own item. -/
theorem handed_prefix (coupled : Coupled snappy server s i) :
    s.handed i <+: (s.answers i).map fun answer => (answer.1, some answer.2) := by
  have first := Client.calledBack_prefix_executed coupled.conserved
  rw [← coupled.executed] at first
  have items : (s.executers i).calledBack =
      ((s.answers i).take (s.executers i).calledBack.length).map Prod.fst := by
    rw [List.map_take]
    exact List.prefix_iff_eq_take.mp first
  have own : s.handed i =
      ((s.answers i).take (s.executers i).calledBack.length).map fun answer => (answer.1, some answer.2) := by
    rw [Proxies.handed]
    nth_rewrite 1 [items]
    rw [List.map_map]
    apply List.map_congr_left
    intro answer among
    simp only [Function.comp_apply, answerOf_of_mem coupled (List.mem_of_mem_take among)]
  rw [own, List.map_take]
  exact List.take_prefix ..

/-- Two proxies of the echo server: each submits a call, one worker has had its
call answered and its callback runs, the other is in the function of its item. -/
def echoActions : List (RemoteAction Bool Rpc.StdString) :=
  [true, false].flatMap (fun i => .executer i (.callExecuteAsync Rpc.echoCall) ::
    List.replicate 5 (.executer i .main) ++ List.replicate 7 (.executer i .worker)) ++
  [.invoke true, .rpc (.toServer true 5), .rpc (.toServer true 95), .rpc (.serve true), .rpc (.serve true),
    .rpc (.toClient true 100), .rpc (.receive true), .rpc (.receive true), .finish true] ++
  List.replicate 3 (.executer true .worker) ++ .executer true .callDoMainThreadWork ::
  List.replicate 5 (.executer true .main)

/-- The run of the example: one callback, and a second proxy still in its call. -/
theorem echoActions_run :
    ((Transition.run (Proxies.step Rpc.plainSnappy Rpc.echoServer) (.start 0) echoActions).map fun s =>
      ((s.handed true).length, (s.answers false).length, s.rpc.shared,
        (inFunction (s.executers false).worker).isSome)) = some (1, 0, 1, true) := by
  decide +kernel

theorem echoActions_fit : ∀ action ∈ echoActions, RemoteFits Rpc.plainSnappy Rpc.echoServer action := by
  intro action among
  cases action with
  | executer i action =>
      cases action with
      | callExecuteAsync call =>
          have same : call = Rpc.echoCall := by
            simp [echoActions] at among
            rcases among with ⟨_, same⟩ | ⟨_, same⟩ <;> exact same
          rw [same]
          exact Rpc.echoCall_fits
      | _ => trivial
  | _ => trivial

/-- The steps of one proxy's connection, and of its worker into and out of a
function. -/
def RemoteAction.CompletesCall (i : ι) : RemoteAction ι μ → Prop
  | .executer _ _ => False
  | .invoke j => j = i
  | .finish j => j = i
  | .rpc action => action.link = i

/-- The protocol runs while the executers stand still. -/
theorem run_rpc {moves : List (Rpc.Action ι μ)} {rpc : Rpc.System ι σ μ}
    (noCalls : ∀ move ∈ moves, move.startsCall = false)
    (moved : Transition.run (Rpc.step snappy server) s.rpc moves = some rpc) :
    Transition.run (Proxies.step snappy server) s (moves.map .rpc) = some { s with rpc := rpc } := by
  induction moves generalizing s with
  | nil =>
      cases moved
      rfl
  | cons move moves inductionHypothesis =>
      obtain ⟨between, first, rest⟩ := Transition.run_cons_eq_some.mp moved
      have others : Transition.run (Proxies.step snappy server) { s with rpc := between } (moves.map .rpc) =
          some { s with rpc := rpc } :=
        @inductionHypothesis { s with rpc := between }
          (fun later among => noCalls later (List.mem_cons_of_mem _ among))
          rest
      apply Transition.run_cons_eq_some.mpr
      refine ⟨{ s with rpc := between }, ?_, others⟩
      simp only [Proxies.step, noCalls move List.mem_cons_self, first, Option.map_some]
      rfl

/-- A function that has called the daemon returns. -/
theorem finishes_of_calling (lossless : snappy.Lossless) {shared : σ} (coupled : Coupled snappy server s i)
    (invariant : Rpc.Invariant snappy server shared s.rpc) {item : ApiAsyncItem (Rpc.Call μ)}
    (inside : inFunction (s.executers i).worker = some item) (calling : s.calling i = true) :
    ∃ more : List (RemoteAction ι μ), (∀ action ∈ more, action.CompletesCall i) ∧
      ∃ s', Transition.run (Proxies.step snappy server) s more = some s' ∧
        (s'.answers i).map Prod.fst = (s.answers i).map Prod.fst ++ [item] ∧
          ∀ j ≠ i, s'.executers j = s.executers j ∧ s'.rpc.links j = s.rpc.links j := by
  obtain ⟨moves, own, rpc, moved, idle⟩ := invariant.completes lossless i
  have waited := run_rpc (fun move among => (own move among).2) moved
  have there : Coupled snappy server { s with rpc := rpc } i := by
    refine @Transition.run_invariant_of_stepsMeet _ _ (Rpc.step snappy server) s.rpc rpc moves
      (fun rpc => Coupled snappy server { s with rpc := rpc } i)
        (fun _ move => move.startsCall = false) ?_ coupled
      (Transition.stepsMeet_of_actions fun move among => (own move among).2) moved
    intro rpc move rpc' kept noCall stepped
    exact kept.rpc noCall stepped
  obtain ⟨item', inside', ⟨waits, _⟩ | ⟨_, result, returned⟩⟩ := there.inside calling
  · rw [idle] at waits
    cases waits
  · cases inside.symm.trans inside'
    have last : (rpc.links i).returned.getLast? = some (item.request, result) := by
      rw [returned, List.getLast?_concat]
    refine ⟨moves.map .rpc ++ [.finish i], ?_, _, Transition.run_append_eq_some.mpr ⟨_, waited,
      Transition.run_cons_eq_some.mpr ⟨{ s with
        rpc := rpc
        executers := Function.update s.executers i
          { s.executers i with executed := (s.executers i).executed ++ [item], worker := .lock2 item }
        calling := Function.update s.calling i false
        answers := Function.update s.answers i (s.answers i ++ [(item, result)]) }, ?_, rfl⟩⟩, ?_, ?_⟩
    · intro action among
      rcases List.mem_append.mp among with early | late
      · obtain ⟨move, there, rfl⟩ := List.mem_map.mp early
        exact (own move there).1
      · rw [List.mem_singleton.mp late]
        rfl
    · simp only [Proxies.step, calling, idle, Rpc.Waiting.call_idle, List.isEmpty_nil,
        Bool.and_self, if_true, inside,
        last, Option.bind_some, worker_of_inFunction inside, Option.map_some]
    · simp only [Function.update_self, List.map_append, List.map_cons, List.map_nil]
    · intro j other
      refine ⟨Function.update_of_ne other .., Rpc.run_other moved ?_⟩
      intro move among
      rw [(own move among).1]
      exact other

end Coupling

end Q3df.Remote
