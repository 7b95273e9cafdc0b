/-
Module: Q3df.Client.ApiAsyncExecuter
Layer: Client
Purpose: The request queue between the main thread and the background worker, as an interleaving of
  the two threads with one step for every queue operation, flag access and mutex operation. Items
  carry a request of any type; the ghost fields record what was enqueued, executed, called back and
  deleted. The invariants say that the items leave in the order they came (`Conserved`) and how far
  the destructor is when each thread stands where it stands (`Controlled`).
Imports: Q3df.Library.Transition
Trusted boundary: human-reviewed transcription of client/ApiAsyncExecuter.cc; an unlock frees the
  mutex whoever holds it, and a wait may wake up spuriously
Main exports: ApiAsyncItem, ApiAsyncExecuter, mainStep, workerStep, step, MainMove, WorkerMove,
  Conserved, Controlled, conserved_of_run, controlled_of_run
Open obligations: none
-/
import Q3df.Library.Transition

namespace Q3df.Client

open Q3df.Transition

/-- `ApiAsyncItem`, with a serial number that tells apart items of equal content. -/
structure ApiAsyncItem (ρ : Type*) where
  serial : Nat
  request : ρ
deriving Repr, DecidableEq

/-- The two threads that run in the executer. -/
inductive ThreadId where
  | main
  | worker
deriving Repr, DecidableEq

/-- Who called `DoMainThreadWork`: the frame command or the destructor. -/
inductive WorkCaller where
  | game
  | destructor
deriving Repr, DecidableEq

/-- Where `ExecuteAsync` returns to: game code, or the callback that called it. -/
inductive AsyncSite (ρ : Type*) where
  | game
  | callback (item : ApiAsyncItem ρ) (caller : WorkCaller)
deriving Repr, DecidableEq

/-- Program counter of the main thread. `game` stands for everything outside the
executer. -/
inductive MainPc (ρ : Type*) where
  | game
  | asyncTest (request : ρ) (site : AsyncSite ρ)
  | asyncLock (request : ρ) (site : AsyncSite ρ)
  | asyncPush (request : ρ) (site : AsyncSite ρ)
  | asyncUnlock (site : AsyncSite ρ)
  | asyncSignal (site : AsyncSite ρ)
  | workLock (caller : WorkCaller)
  | workTest (caller : WorkCaller)
  | workFront (caller : WorkCaller)
  | workPop (item : ApiAsyncItem ρ) (caller : WorkCaller)
  | workCallback (item : ApiAsyncItem ρ) (caller : WorkCaller)
  | inCallback (item : ApiAsyncItem ρ) (caller : WorkCaller)
  | workDelete (item : ApiAsyncItem ρ) (caller : WorkCaller)
  | workUnlock (caller : WorkCaller)
  | dtorSignal
  | dtorJoin
  | dtorDestroy
  | returned
deriving Repr, DecidableEq

/-- Program counter of the worker in `BackgroundWorker`. -/
inductive WorkerPc (ρ : Type*) where
  | outerTest
  | lock
  | waitEmpty
  | waitStop
  | condWait
  | blocked
  | condRelock
  | innerTest
  | front
  | pop (item : ApiAsyncItem ρ)
  | unlock (item : ApiAsyncItem ρ)
  | execApi (item : ApiAsyncItem ρ)
  | lock2 (item : ApiAsyncItem ρ)
  | push (item : ApiAsyncItem ρ)
  | unlock2
  | exited
deriving Repr, DecidableEq

/-- `ApiAsyncExecuter` with both program counters. The last five fields are
history: the items enqueued, executed, called back and deleted so far, and the
requests turned away by `ExecuteAsync`. -/
structure ApiAsyncExecuter (ρ : Type*) where
  stoppingThread : Bool
  mutex : Option ThreadId
  mutex2 : Option ThreadId
  itemsThread : List (ApiAsyncItem ρ)
  itemsMainThread : List (ApiAsyncItem ρ)
  main : MainPc ρ
  worker : WorkerPc ρ
  enqueued : List (ApiAsyncItem ρ)
  executed : List (ApiAsyncItem ρ)
  calledBack : List (ApiAsyncItem ρ)
  deleted : List (ApiAsyncItem ρ)
  rejected : List ρ
deriving Repr, DecidableEq

/-- What may happen next: a thread takes its next step, the wait wakes up by
itself, or the code outside the executer acts on the main thread
(`callExecuteAsync` from game code or from a running callback). -/
inductive ExecuterAction (ρ : Type*) where
  | main
  | worker
  | spuriousWakeup
  | callExecuteAsync (request : ρ)
  | callDoMainThreadWork
  | callbackReturns
  | destroy
deriving Repr, DecidableEq

variable {ρ : Type*}

def AsyncSite.resume : AsyncSite ρ → MainPc ρ
  | .game => .game
  | .callback item caller => .inCallback item caller

def WorkCaller.resume : WorkCaller → MainPc ρ
  | .game => .game
  | .destructor => .dtorDestroy

/-- What `pthread_cond_signal(&cond_)` does to the worker: nothing unless it is
blocked in the wait. -/
def WorkerPc.signalled : WorkerPc ρ → WorkerPc ρ
  | .blocked => .condRelock
  | pc => pc

namespace ApiAsyncExecuter

/-- The constructor: both queues empty and the worker thread created. -/
def init : ApiAsyncExecuter ρ where
  stoppingThread := false
  mutex := none
  mutex2 := none
  itemsThread := []
  itemsMainThread := []
  main := .game
  worker := .outerTest
  enqueued := []
  executed := []
  calledBack := []
  deleted := []
  rejected := []

/-- The next step of the main thread, `none` while it is outside the executer or
has to wait. -/
def mainStep (s : ApiAsyncExecuter ρ) : Option (ApiAsyncExecuter ρ) :=
  match s.main with
  | .game | .inCallback _ _ | .returned => none
  | .asyncTest request site =>
      if s.stoppingThread then
        some { s with main := site.resume, rejected := s.rejected ++ [request] }
      else some { s with main := .asyncLock request site }
  | .asyncLock request site =>
      if s.mutex = none then some { s with mutex := some .main, main := .asyncPush request site }
      else none
  | .asyncPush request site =>
      let item : ApiAsyncItem ρ := { serial := s.enqueued.length, request := request }
      some { s with
        itemsThread := s.itemsThread ++ [item]
        enqueued := s.enqueued ++ [item]
        main := .asyncUnlock site }
  | .asyncUnlock site => some { s with mutex := none, main := .asyncSignal site }
  | .asyncSignal site => some { s with worker := s.worker.signalled, main := site.resume }
  | .workLock caller =>
      if s.mutex2 = none then some { s with mutex2 := some .main, main := .workTest caller }
      else none
  | .workTest caller =>
      if s.itemsMainThread.isEmpty then some { s with main := .workUnlock caller }
      else some { s with main := .workFront caller }
  | .workFront caller =>
      match s.itemsMainThread with
      | [] => none
      | item :: _ => some { s with main := .workPop item caller }
  | .workPop item caller =>
      some { s with itemsMainThread := s.itemsMainThread.tail, main := .workCallback item caller }
  | .workCallback item caller =>
      some { s with calledBack := s.calledBack ++ [item], main := .inCallback item caller }
  | .workDelete item caller =>
      some { s with deleted := s.deleted ++ [item], main := .workTest caller }
  | .workUnlock caller => some { s with mutex2 := none, main := caller.resume }
  | .dtorSignal => some { s with worker := s.worker.signalled, main := .dtorJoin }
  | .dtorJoin =>
      match s.worker with
      | .exited => some { s with main := .workLock .destructor }
      | _ => none
  | .dtorDestroy => some { s with main := .returned }

/-- The next step of the worker, `none` while it is blocked or has to wait. The
inner loop goes back to its test without taking `mutex_` again. -/
def workerStep (s : ApiAsyncExecuter ρ) : Option (ApiAsyncExecuter ρ) :=
  match s.worker with
  | .blocked | .exited => none
  | .outerTest =>
      if s.stoppingThread then some { s with worker := .exited } else some { s with worker := .lock }
  | .lock =>
      if s.mutex = none then some { s with mutex := some .worker, worker := .waitEmpty } else none
  | .waitEmpty =>
      if s.itemsThread.isEmpty then some { s with worker := .waitStop }
      else some { s with worker := .innerTest }
  | .waitStop =>
      if s.stoppingThread then some { s with worker := .innerTest }
      else some { s with worker := .condWait }
  | .condWait => some { s with mutex := none, worker := .blocked }
  | .condRelock =>
      if s.mutex = none then some { s with mutex := some .worker, worker := .waitEmpty } else none
  | .innerTest =>
      if s.itemsThread.isEmpty then some { s with worker := .outerTest }
      else some { s with worker := .front }
  | .front =>
      match s.itemsThread with
      | [] => none
      | item :: _ => some { s with worker := .pop item }
  | .pop item => some { s with itemsThread := s.itemsThread.tail, worker := .unlock item }
  | .unlock item => some { s with mutex := none, worker := .execApi item }
  | .execApi item => some { s with executed := s.executed ++ [item], worker := .lock2 item }
  | .lock2 item =>
      if s.mutex2 = none then some { s with mutex2 := some .worker, worker := .push item } else none
  | .push item =>
      some { s with itemsMainThread := s.itemsMainThread ++ [item], worker := .unlock2 }
  | .unlock2 => some { s with mutex2 := none, worker := .innerTest }

/-- One step of the interleaving. -/
def step (s : ApiAsyncExecuter ρ) : ExecuterAction ρ → Option (ApiAsyncExecuter ρ)
  | .main => s.mainStep
  | .worker => s.workerStep
  | .spuriousWakeup =>
      match s.worker with
      | .blocked => some { s with worker := .condRelock }
      | _ => none
  | .callExecuteAsync request =>
      match s.main with
      | .game => some { s with main := .asyncTest request .game }
      | .inCallback item caller => some { s with main := .asyncTest request (.callback item caller) }
      | _ => none
  | .callDoMainThreadWork =>
      match s.main with
      | .game => some { s with main := .workLock .game }
      | _ => none
  | .callbackReturns =>
      match s.main with
      | .inCallback item caller => some { s with main := .workDelete item caller }
      | _ => none
  | .destroy =>
      match s.main with
      | .game => some { s with stoppingThread := true, main := .dtorSignal }
      | _ => none

end ApiAsyncExecuter

/-!
### The moves of the two threads

One constructor for each thing a thread can do, with its guards and the fields
it writes. The invariants below are proved constructor by constructor and never
look into the step functions again.
-/

section Moves

variable {s t : ApiAsyncExecuter ρ}

/-- The main thread's moves: where it is, what it has found, and what it does. -/
inductive MainMove (s : ApiAsyncExecuter ρ) : ApiAsyncExecuter ρ → Prop where
  | rejects {request : ρ} {site : AsyncSite ρ} (pc : s.main = .asyncTest request site)
      (stopping : s.stoppingThread = true) :
      MainMove s { s with main := site.resume, rejected := s.rejected ++ [request] }
  | accepts {request : ρ} {site : AsyncSite ρ} (pc : s.main = .asyncTest request site)
      (running : s.stoppingThread = false) : MainMove s { s with main := .asyncLock request site }
  | locks {request : ρ} {site : AsyncSite ρ} (pc : s.main = .asyncLock request site)
      (free : s.mutex = none) :
      MainMove s { s with mutex := some .main, main := .asyncPush request site }
  | pushes {request : ρ} {site : AsyncSite ρ} (pc : s.main = .asyncPush request site) :
      MainMove s { s with
        itemsThread := s.itemsThread ++ [{ serial := s.enqueued.length, request := request }]
        enqueued := s.enqueued ++ [{ serial := s.enqueued.length, request := request }]
        main := .asyncUnlock site }
  | unlocks {site : AsyncSite ρ} (pc : s.main = .asyncUnlock site) :
      MainMove s { s with mutex := none, main := .asyncSignal site }
  | signals {site : AsyncSite ρ} (pc : s.main = .asyncSignal site) :
      MainMove s { s with worker := s.worker.signalled, main := site.resume }
  | locks2 {caller : WorkCaller} (pc : s.main = .workLock caller) (free : s.mutex2 = none) :
      MainMove s { s with mutex2 := some .main, main := .workTest caller }
  | leavesLoop {caller : WorkCaller} (pc : s.main = .workTest caller) (empty : s.itemsMainThread = []) :
      MainMove s { s with main := .workUnlock caller }
  | entersLoop {caller : WorkCaller} (pc : s.main = .workTest caller) (some_ : s.itemsMainThread ≠ []) :
      MainMove s { s with main := .workFront caller }
  | readsFront {caller : WorkCaller} {item : ApiAsyncItem ρ} {rest : List (ApiAsyncItem ρ)}
      (pc : s.main = .workFront caller) (queue : s.itemsMainThread = item :: rest) :
      MainMove s { s with main := .workPop item caller }
  | pops {item : ApiAsyncItem ρ} {caller : WorkCaller} (pc : s.main = .workPop item caller) :
      MainMove s { s with
        itemsMainThread := s.itemsMainThread.tail
        main := .workCallback item caller }
  | callsBack {item : ApiAsyncItem ρ} {caller : WorkCaller} (pc : s.main = .workCallback item caller) :
      MainMove s { s with calledBack := s.calledBack ++ [item], main := .inCallback item caller }
  | deletes {item : ApiAsyncItem ρ} {caller : WorkCaller} (pc : s.main = .workDelete item caller) :
      MainMove s { s with deleted := s.deleted ++ [item], main := .workTest caller }
  | unlocks2 {caller : WorkCaller} (pc : s.main = .workUnlock caller) :
      MainMove s { s with mutex2 := none, main := caller.resume }
  | wakesWorker (pc : s.main = .dtorSignal) :
      MainMove s { s with worker := s.worker.signalled, main := .dtorJoin }
  | joins (pc : s.main = .dtorJoin) (exited : s.worker = .exited) :
      MainMove s { s with main := .workLock .destructor }
  | destroys (pc : s.main = .dtorDestroy) : MainMove s { s with main := .returned }

/-- The worker's moves. -/
inductive WorkerMove (s : ApiAsyncExecuter ρ) : ApiAsyncExecuter ρ → Prop where
  | exits (pc : s.worker = .outerTest) (stopping : s.stoppingThread = true) :
      WorkerMove s { s with worker := .exited }
  | starts (pc : s.worker = .outerTest) (running : s.stoppingThread = false) :
      WorkerMove s { s with worker := .lock }
  | locks (pc : s.worker = .lock) (free : s.mutex = none) :
      WorkerMove s { s with mutex := some .worker, worker := .waitEmpty }
  | findsNone (pc : s.worker = .waitEmpty) (empty : s.itemsThread = []) :
      WorkerMove s { s with worker := .waitStop }
  | findsSome (pc : s.worker = .waitEmpty) (some_ : s.itemsThread ≠ []) :
      WorkerMove s { s with worker := .innerTest }
  | stops (pc : s.worker = .waitStop) (stopping : s.stoppingThread = true) :
      WorkerMove s { s with worker := .innerTest }
  | waits (pc : s.worker = .waitStop) (running : s.stoppingThread = false) :
      WorkerMove s { s with worker := .condWait }
  | blocks (pc : s.worker = .condWait) : WorkerMove s { s with mutex := none, worker := .blocked }
  | relocks (pc : s.worker = .condRelock) (free : s.mutex = none) :
      WorkerMove s { s with mutex := some .worker, worker := .waitEmpty }
  | leavesLoop (pc : s.worker = .innerTest) (empty : s.itemsThread = []) :
      WorkerMove s { s with worker := .outerTest }
  | entersLoop (pc : s.worker = .innerTest) (some_ : s.itemsThread ≠ []) :
      WorkerMove s { s with worker := .front }
  | readsFront {item : ApiAsyncItem ρ} {rest : List (ApiAsyncItem ρ)} (pc : s.worker = .front)
      (queue : s.itemsThread = item :: rest) : WorkerMove s { s with worker := .pop item }
  | pops {item : ApiAsyncItem ρ} (pc : s.worker = .pop item) :
      WorkerMove s { s with itemsThread := s.itemsThread.tail, worker := .unlock item }
  | unlocks {item : ApiAsyncItem ρ} (pc : s.worker = .unlock item) :
      WorkerMove s { s with mutex := none, worker := .execApi item }
  | executes {item : ApiAsyncItem ρ} (pc : s.worker = .execApi item) :
      WorkerMove s { s with executed := s.executed ++ [item], worker := .lock2 item }
  | locks2 {item : ApiAsyncItem ρ} (pc : s.worker = .lock2 item) (free : s.mutex2 = none) :
      WorkerMove s { s with mutex2 := some .worker, worker := .push item }
  | pushes {item : ApiAsyncItem ρ} (pc : s.worker = .push item) :
      WorkerMove s { s with itemsMainThread := s.itemsMainThread ++ [item], worker := .unlock2 }
  | unlocks2 (pc : s.worker = .unlock2) : WorkerMove s { s with mutex2 := none, worker := .innerTest }

/-- Every step of the main thread is one of its listed moves, whatever its program
counter is. -/
theorem mainMove_of_mainStep (stepped : s.mainStep = some t) : MainMove s t := by
  cases pc : s.main with
  | game | inCallback item caller | returned => simp [ApiAsyncExecuter.mainStep, pc] at stepped
  | asyncTest request site =>
      simp only [ApiAsyncExecuter.mainStep, pc] at stepped
      split at stepped
      · rename_i stopping
        cases stepped
        exact .rejects pc stopping
      · rename_i running
        cases stepped
        exact .accepts pc (Bool.not_eq_true _ ▸ running)
  | asyncLock request site =>
      simp only [ApiAsyncExecuter.mainStep, pc] at stepped
      split at stepped
      · rename_i free
        cases stepped
        exact .locks pc free
      · cases stepped
  | workLock caller =>
      simp only [ApiAsyncExecuter.mainStep, pc] at stepped
      split at stepped
      · rename_i free
        cases stepped
        exact .locks2 pc free
      · cases stepped
  | workTest caller =>
      simp only [ApiAsyncExecuter.mainStep, pc] at stepped
      split at stepped
      · rename_i empty
        cases stepped
        exact .leavesLoop pc (List.isEmpty_iff.mp empty)
      · rename_i some_
        cases stepped
        exact .entersLoop pc (mt List.isEmpty_iff.mpr some_)
  | workFront caller =>
      simp only [ApiAsyncExecuter.mainStep, pc] at stepped
      split at stepped
      · cases stepped
      · rename_i item rest queue
        cases stepped
        exact .readsFront pc queue
  | dtorJoin =>
      simp only [ApiAsyncExecuter.mainStep, pc] at stepped
      split at stepped
      · rename_i exited
        cases stepped
        exact .joins pc exited
      · cases stepped
  | asyncPush request site | asyncUnlock site | asyncSignal site | workPop item caller
  | workCallback item caller | workDelete item caller | workUnlock caller | dtorSignal | dtorDestroy =>
      simp only [ApiAsyncExecuter.mainStep, pc, Option.some.injEq] at stepped
      subst stepped
      constructor
      exact pc

/-- Every step of the worker is one of its listed moves. A signal that arrives
meanwhile has already been taken into the program counter. -/
theorem workerMove_of_workerStep (stepped : s.workerStep = some t) : WorkerMove s t := by
  cases pc : s.worker with
  | blocked | exited => simp [ApiAsyncExecuter.workerStep, pc] at stepped
  | outerTest =>
      simp only [ApiAsyncExecuter.workerStep, pc] at stepped
      split at stepped
      · rename_i stopping
        cases stepped
        exact .exits pc stopping
      · rename_i running
        cases stepped
        exact .starts pc (Bool.not_eq_true _ ▸ running)
  | waitStop =>
      simp only [ApiAsyncExecuter.workerStep, pc] at stepped
      split at stepped
      · rename_i stopping
        cases stepped
        exact .stops pc stopping
      · rename_i running
        cases stepped
        exact .waits pc (Bool.not_eq_true _ ▸ running)
  | lock =>
      simp only [ApiAsyncExecuter.workerStep, pc] at stepped
      split at stepped
      · rename_i free
        cases stepped
        exact .locks pc free
      · cases stepped
  | condRelock =>
      simp only [ApiAsyncExecuter.workerStep, pc] at stepped
      split at stepped
      · rename_i free
        cases stepped
        exact .relocks pc free
      · cases stepped
  | lock2 item =>
      simp only [ApiAsyncExecuter.workerStep, pc] at stepped
      split at stepped
      · rename_i free
        cases stepped
        exact .locks2 pc free
      · cases stepped
  | waitEmpty =>
      simp only [ApiAsyncExecuter.workerStep, pc] at stepped
      split at stepped
      · rename_i empty
        cases stepped
        exact .findsNone pc (List.isEmpty_iff.mp empty)
      · rename_i some_
        cases stepped
        exact .findsSome pc (mt List.isEmpty_iff.mpr some_)
  | innerTest =>
      simp only [ApiAsyncExecuter.workerStep, pc] at stepped
      split at stepped
      · rename_i empty
        cases stepped
        exact .leavesLoop pc (List.isEmpty_iff.mp empty)
      · rename_i some_
        cases stepped
        exact .entersLoop pc (mt List.isEmpty_iff.mpr some_)
  | front =>
      simp only [ApiAsyncExecuter.workerStep, pc] at stepped
      split at stepped
      · cases stepped
      · rename_i item rest queue
        cases stepped
        exact .readsFront pc queue
  | condWait | pop item | unlock item | execApi item | push item | unlock2 =>
      simp only [ApiAsyncExecuter.workerStep, pc, Option.some.injEq] at stepped
      subst stepped
      constructor
      exact pc

end Moves

/-!
### Items are conserved and stay in order

An item is in exactly one place: deleted, in the hands of the main thread, in
`itemsMainThread_`, in the hands of the worker or in `itemsThread_`. Read in
this order the places spell the submission order.
-/

/-- The item a running callback, or an `ExecuteAsync` called from it, works for. -/
def AsyncSite.held : AsyncSite ρ → List (ApiAsyncItem ρ)
  | .game => []
  | .callback item _ => [item]

/-- The item the main thread has popped and not deleted yet. -/
def MainPc.held : MainPc ρ → List (ApiAsyncItem ρ)
  | .workCallback item _ | .inCallback item _ | .workDelete item _ => [item]
  | .asyncTest _ site | .asyncLock _ site | .asyncPush _ site | .asyncUnlock site
  | .asyncSignal site => site.held
  | _ => []

/-- The item whose callback has started and which is not deleted yet. -/
def MainPc.started : MainPc ρ → List (ApiAsyncItem ρ)
  | .workCallback _ _ => []
  | pc => pc.held

/-- The item the worker has popped and not handed over yet. -/
def WorkerPc.held : WorkerPc ρ → List (ApiAsyncItem ρ)
  | .unlock item | .execApi item | .lock2 item | .push item => [item]
  | _ => []

/-- The item whose API function has completed and which is not handed over yet. -/
def WorkerPc.completed : WorkerPc ρ → List (ApiAsyncItem ρ)
  | .lock2 item | .push item => [item]
  | _ => []

/-- After `ExecuteAsync` has returned, the main thread holds what the call site
held. -/
@[simp] theorem MainPc.held_resume (site : AsyncSite ρ) : site.resume.held = site.held := by
  cases site <;> rfl

@[simp] theorem MainPc.started_resume (site : AsyncSite ρ) : site.resume.started = site.held := by
  cases site <;> rfl

@[simp] theorem MainPc.held_callerResume (caller : WorkCaller) :
    (caller.resume : MainPc ρ).held = [] := by
  cases caller <;> rfl

@[simp] theorem MainPc.started_callerResume (caller : WorkCaller) :
    (caller.resume : MainPc ρ).started = [] := by
  cases caller <;> rfl

theorem AsyncSite.resume_ne_workPop (site : AsyncSite ρ) {item : ApiAsyncItem ρ} {caller : WorkCaller} :
    site.resume ≠ .workPop item caller := by
  cases site <;> simp [AsyncSite.resume]

theorem WorkCaller.resume_ne_workPop (caller : WorkCaller) {item : ApiAsyncItem ρ}
    {caller' : WorkCaller} : caller.resume ≠ .workPop item caller' := by
  cases caller <;> simp [WorkCaller.resume]

@[simp] theorem WorkerPc.held_signalled (pc : WorkerPc ρ) : pc.signalled.held = pc.held := by
  cases pc <;> rfl

@[simp] theorem WorkerPc.completed_signalled (pc : WorkerPc ρ) :
    pc.signalled.completed = pc.completed := by
  cases pc <;> rfl

/-- Conservation of items, with the front item that a thread has read and not
popped yet. -/
structure Conserved (s : ApiAsyncExecuter ρ) : Prop where
  enqueued_eq :
    s.enqueued = s.deleted ++ s.main.held ++ s.itemsMainThread ++ s.worker.held ++ s.itemsThread
  executed_eq : s.executed = s.deleted ++ s.main.held ++ s.itemsMainThread ++ s.worker.completed
  calledBack_eq : s.calledBack = s.deleted ++ s.main.started
  serials : s.enqueued.map ApiAsyncItem.serial = List.range s.enqueued.length
  mainFront : ∀ item caller, s.main = .workPop item caller → s.itemsMainThread.head? = some item
  workerFront : ∀ item, s.worker = .pop item → s.itemsThread.head? = some item

theorem conserved_init : Conserved (ApiAsyncExecuter.init : ApiAsyncExecuter ρ) := by
  constructor <;> simp [ApiAsyncExecuter.init, MainPc.held, MainPc.started, WorkerPc.held,
    WorkerPc.completed]

/-- The item the worker is about to pop is the front of `itemsThread_`, also
when it is still waiting and only the signal says that it may go on. -/
theorem Conserved.front_signalled {s : ApiAsyncExecuter ρ} (conserved : Conserved s)
    (item : ApiAsyncItem ρ) (atPop : s.worker.signalled = .pop item) :
    s.itemsThread.head? = some item := by
  apply conserved.workerFront
  cases pc : s.worker <;> simp_all [WorkerPc.signalled]

/-- A step that changes neither a queue nor what a thread holds, nor the history. -/
theorem Conserved.of_sameItems {s t : ApiAsyncExecuter ρ} (conserved : Conserved s)
    (history : t.enqueued = s.enqueued ∧ t.executed = s.executed ∧ t.calledBack = s.calledBack ∧
      t.deleted = s.deleted)
    (queues : t.itemsThread = s.itemsThread ∧ t.itemsMainThread = s.itemsMainThread)
    (mainItems : t.main.held = s.main.held ∧ t.main.started = s.main.started)
    (workerItems : t.worker.held = s.worker.held ∧ t.worker.completed = s.worker.completed)
    (mainFront : ∀ item caller, t.main = .workPop item caller → s.itemsMainThread.head? = some item)
    (workerFront : ∀ item, t.worker = .pop item → s.itemsThread.head? = some item) :
    Conserved t := by
  obtain ⟨enqueued, executed, calledBack, deleted⟩ := history
  constructor
  · rw [enqueued, deleted, mainItems.1, queues.1, queues.2, workerItems.1]
    exact conserved.enqueued_eq
  · rw [executed, deleted, mainItems.1, queues.2, workerItems.2]
    exact conserved.executed_eq
  · rw [calledBack, deleted, mainItems.2]
    exact conserved.calledBack_eq
  · rw [enqueued]
    exact conserved.serials
  · rw [queues.2]
    exact mainFront
  · rw [queues.1]
    exact workerFront

/-- `ExecuteAsync` appends one item to `itemsThread_`, and the same item to the
submissions. -/
theorem Conserved.asyncPush {s : ApiAsyncExecuter ρ} {request : ρ} {site : AsyncSite ρ}
    (conserved : Conserved s) (pc : s.main = .asyncPush request site) :
    Conserved { s with
      itemsThread := s.itemsThread ++ [{ serial := s.enqueued.length, request := request }]
      enqueued := s.enqueued ++ [{ serial := s.enqueued.length, request := request }]
      main := .asyncUnlock site } := by
  obtain ⟨enqueued_eq, executed_eq, calledBack_eq, serials, mainFront, workerFront⟩ := conserved
  simp only [pc, MainPc.held, MainPc.started] at enqueued_eq executed_eq calledBack_eq
  constructor
  · simp [MainPc.held, enqueued_eq, List.append_assoc]
  · simpa [MainPc.held] using executed_eq
  · simpa [MainPc.held, MainPc.started] using calledBack_eq
  · simp [serials, List.range_succ]
  · simp
  · intro item atPop
    simp [workerFront item atPop]

/-- `Work` takes the front item of `itemsMainThread_` into its hands. -/
theorem Conserved.workPop {s : ApiAsyncExecuter ρ} {item : ApiAsyncItem ρ} {caller : WorkCaller}
    (conserved : Conserved s) (pc : s.main = .workPop item caller) :
    Conserved { s with
      itemsMainThread := s.itemsMainThread.tail
      main := .workCallback item caller } := by
  obtain ⟨enqueued_eq, executed_eq, calledBack_eq, serials, mainFront, workerFront⟩ := conserved
  obtain ⟨rest, queue⟩ := List.head?_eq_some_iff.mp (mainFront item caller pc)
  simp only [pc, MainPc.held, MainPc.started, queue] at enqueued_eq executed_eq calledBack_eq
  constructor
  · simpa [MainPc.held, queue] using enqueued_eq
  · simpa [MainPc.held, queue] using executed_eq
  · simpa [MainPc.started] using calledBack_eq
  · exact serials
  · simp
  · exact workerFront

/-- A callback that returns leaves its item in the hands of `Work`, now called
back. -/
theorem Conserved.workCallback {s : ApiAsyncExecuter ρ} {item : ApiAsyncItem ρ} {caller : WorkCaller}
    (conserved : Conserved s) (pc : s.main = .workCallback item caller) :
    Conserved { s with
      calledBack := s.calledBack ++ [item]
      main := .inCallback item caller } := by
  obtain ⟨enqueued_eq, executed_eq, calledBack_eq, serials, mainFront, workerFront⟩ := conserved
  simp only [pc, MainPc.held, MainPc.started, List.append_nil] at enqueued_eq executed_eq calledBack_eq
  constructor
  · exact enqueued_eq
  · exact executed_eq
  · simp [MainPc.started, MainPc.held, calledBack_eq]
  · exact serials
  · simp
  · exact workerFront

/-- Deleting the item moves it from the hands of `Work` to the deleted ones. -/
theorem Conserved.workDelete {s : ApiAsyncExecuter ρ} {item : ApiAsyncItem ρ} {caller : WorkCaller}
    (conserved : Conserved s) (pc : s.main = .workDelete item caller) :
    Conserved { s with
      deleted := s.deleted ++ [item]
      main := .workTest caller } := by
  obtain ⟨enqueued_eq, executed_eq, calledBack_eq, serials, mainFront, workerFront⟩ := conserved
  simp only [pc, MainPc.held, MainPc.started] at enqueued_eq executed_eq calledBack_eq
  constructor
  · simpa [MainPc.held] using enqueued_eq
  · simpa [MainPc.held] using executed_eq
  · simpa [MainPc.started, MainPc.held] using calledBack_eq
  · exact serials
  · simp
  · exact workerFront

/-- No step of the main thread loses, duplicates or reorders an item. -/
theorem Conserved.mainStep {s t : ApiAsyncExecuter ρ} (conserved : Conserved s)
    (stepped : s.mainStep = some t) : Conserved t := by
  cases mainMove_of_mainStep stepped with
  | pushes pc => exact conserved.asyncPush pc
  | pops pc => exact conserved.workPop pc
  | callsBack pc => exact conserved.workCallback pc
  | deletes pc => exact conserved.workDelete pc
  | readsFront pc queue =>
      refine conserved.of_sameItems ⟨rfl, rfl, rfl, rfl⟩ ⟨rfl, rfl⟩ (by rw [pc]; exact ⟨rfl, rfl⟩)
        ⟨rfl, rfl⟩ ?_ conserved.workerFront
      intro read caller atPop
      cases atPop
      rw [queue]
      rfl
  | @rejects request site pc stopping =>
      refine conserved.of_sameItems ⟨rfl, rfl, rfl, rfl⟩ ⟨rfl, rfl⟩ ?_ ⟨rfl, rfl⟩
        (fun _ _ atPop => absurd atPop site.resume_ne_workPop) conserved.workerFront
      rw [pc]
      exact ⟨MainPc.held_resume site, MainPc.started_resume site⟩
  | @signals site pc =>
      refine conserved.of_sameItems ⟨rfl, rfl, rfl, rfl⟩ ⟨rfl, rfl⟩ ?_ (by simp)
        (fun _ _ atPop => absurd atPop site.resume_ne_workPop) conserved.front_signalled
      rw [pc]
      exact ⟨MainPc.held_resume site, MainPc.started_resume site⟩
  | @unlocks2 caller pc =>
      refine conserved.of_sameItems ⟨rfl, rfl, rfl, rfl⟩ ⟨rfl, rfl⟩ ?_ ⟨rfl, rfl⟩
        (fun _ _ atPop => absurd atPop caller.resume_ne_workPop) conserved.workerFront
      rw [pc]
      exact ⟨MainPc.held_callerResume caller, MainPc.started_callerResume caller⟩
  | wakesWorker pc =>
      exact conserved.of_sameItems ⟨rfl, rfl, rfl, rfl⟩ ⟨rfl, rfl⟩
        (by rw [pc]; exact ⟨rfl, rfl⟩) (by simp)
        (by simp) conserved.front_signalled
  | accepts pc _ | locks pc _ | unlocks pc | locks2 pc _ | leavesLoop pc _ | entersLoop pc _ | joins pc _
  | destroys pc =>
      -- tests and mutex operations only
      exact conserved.of_sameItems ⟨rfl, rfl, rfl, rfl⟩ ⟨rfl, rfl⟩ (by rw [pc]; exact ⟨rfl, rfl⟩)
        ⟨rfl, rfl⟩ (by simp) conserved.workerFront

/-- The worker takes the front item of `itemsThread_` into its hands. -/
theorem Conserved.pop {s : ApiAsyncExecuter ρ} {item : ApiAsyncItem ρ}
    (conserved : Conserved s) (pc : s.worker = .pop item) :
    Conserved { s with itemsThread := s.itemsThread.tail, worker := .unlock item } := by
  obtain ⟨enqueued_eq, executed_eq, calledBack_eq, serials, mainFront, workerFront⟩ := conserved
  obtain ⟨rest, queue⟩ := List.head?_eq_some_iff.mp (workerFront item pc)
  simp only [pc, WorkerPc.held, WorkerPc.completed, queue] at enqueued_eq executed_eq
  constructor
  · simpa [WorkerPc.held, queue] using enqueued_eq
  · simpa [WorkerPc.completed] using executed_eq
  · exact calledBack_eq
  · exact serials
  · exact mainFront
  · simp

/-- Executing an item leaves it with the worker, and counts it among the
executed ones. -/
theorem Conserved.execApi {s : ApiAsyncExecuter ρ} {item : ApiAsyncItem ρ}
    (conserved : Conserved s) (pc : s.worker = .execApi item) :
    Conserved { s with executed := s.executed ++ [item], worker := .lock2 item } := by
  obtain ⟨enqueued_eq, executed_eq, calledBack_eq, serials, mainFront, workerFront⟩ := conserved
  simp only [pc, WorkerPc.held, WorkerPc.completed] at enqueued_eq executed_eq
  constructor
  · exact enqueued_eq
  · simp [WorkerPc.completed, executed_eq]
  · exact calledBack_eq
  · exact serials
  · exact mainFront
  · simp

/-- The worker appends its item to `itemsMainThread_` and has nothing in its
hands any more. -/
theorem Conserved.push {s : ApiAsyncExecuter ρ} {item : ApiAsyncItem ρ}
    (conserved : Conserved s) (pc : s.worker = .push item) :
    Conserved { s with itemsMainThread := s.itemsMainThread ++ [item], worker := .unlock2 } := by
  obtain ⟨enqueued_eq, executed_eq, calledBack_eq, serials, mainFront, workerFront⟩ := conserved
  simp only [pc, WorkerPc.held, WorkerPc.completed] at enqueued_eq executed_eq
  constructor
  · simpa [WorkerPc.held] using enqueued_eq
  · simpa [WorkerPc.completed] using executed_eq
  · exact calledBack_eq
  · exact serials
  · intro item' caller atPop
    simp [mainFront item' caller atPop]
  · simp

/-- No step of the worker loses, duplicates or reorders an item. -/
theorem Conserved.workerStep {s t : ApiAsyncExecuter ρ} (conserved : Conserved s)
    (stepped : s.workerStep = some t) : Conserved t := by
  cases workerMove_of_workerStep stepped with
  | pops pc => exact conserved.pop pc
  | executes pc => exact conserved.execApi pc
  | pushes pc => exact conserved.push pc
  | readsFront pc queue =>
      refine conserved.of_sameItems ⟨rfl, rfl, rfl, rfl⟩ ⟨rfl, rfl⟩ ⟨rfl, rfl⟩
        (by rw [pc]; exact ⟨rfl, rfl⟩) conserved.mainFront ?_
      intro read atPop
      cases atPop
      rw [queue]
      rfl
  | exits pc _ | starts pc _ | locks pc _ | findsNone pc _ | findsSome pc _ | stops pc _ | waits pc _
  | blocks pc | relocks pc _ | leavesLoop pc _ | entersLoop pc _ | unlocks pc | locks2 pc _
  | unlocks2 pc =>
      exact conserved.of_sameItems ⟨rfl, rfl, rfl, rfl⟩ ⟨rfl, rfl⟩ ⟨rfl, rfl⟩
        (by rw [pc]; exact ⟨rfl, rfl⟩) conserved.mainFront (by simp)

theorem Conserved.step {s t : ApiAsyncExecuter ρ} {action : ExecuterAction ρ} (conserved : Conserved s)
    (stepped : s.step action = some t) : Conserved t := by
  cases action with
  | main => exact conserved.mainStep stepped
  | worker => exact conserved.workerStep stepped
  | spuriousWakeup =>
      simp only [ApiAsyncExecuter.step] at stepped
      split at stepped
      · rename_i pc
        cases stepped
        exact conserved.of_sameItems ⟨rfl, rfl, rfl, rfl⟩ ⟨rfl, rfl⟩ ⟨rfl, rfl⟩
          (by rw [pc]; exact ⟨rfl, rfl⟩) conserved.mainFront (by simp)
      · cases stepped
  | callExecuteAsync request | callDoMainThreadWork | callbackReturns | destroy =>
      -- the main thread enters or leaves the executer
      simp only [ApiAsyncExecuter.step] at stepped
      split at stepped <;> cases stepped <;>
        exact conserved.of_sameItems ⟨rfl, rfl, rfl, rfl⟩ ⟨rfl, rfl⟩
          (by simp [*, MainPc.held, MainPc.started, AsyncSite.held]) ⟨rfl, rfl⟩ (by simp)
          conserved.workerFront

/-- The conservation law holds in every reachable state, for every interleaving
of the two threads. -/
theorem conserved_of_run {s : ApiAsyncExecuter ρ} {actions : List (ExecuterAction ρ)}
    (ran : run ApiAsyncExecuter.step .init actions = some s) : Conserved s :=
  run_invariant Conserved.step conserved_init ran

/-!
### How far the destructor is

The program counters decide the stop flag, and past the join the worker has exited.
-/

def WorkCaller.inDestructor : WorkCaller → Bool
  | .game => false
  | .destructor => true

def AsyncSite.inDestructor : AsyncSite ρ → Bool
  | .game => false
  | .callback _ caller => caller.inDestructor

/-- The main thread has entered the destructor. -/
def MainPc.inDestructor : MainPc ρ → Bool
  | .game => false
  | .asyncTest _ site | .asyncLock _ site | .asyncPush _ site | .asyncUnlock site
  | .asyncSignal site => site.inDestructor
  | .workLock caller | .workTest caller | .workFront caller | .workPop _ caller
  | .workCallback _ caller | .inCallback _ caller | .workDelete _ caller | .workUnlock caller =>
      caller.inDestructor
  | .dtorSignal | .dtorJoin | .dtorDestroy | .returned => true

/-- The main thread is past the test of the stop flag in `ExecuteAsync`. -/
def MainPc.enqueueing : MainPc ρ → Bool
  | .asyncLock _ _ | .asyncPush _ _ | .asyncUnlock _ | .asyncSignal _ => true
  | _ => false

/-- The main thread is past `pthread_join`. -/
def MainPc.joined : MainPc ρ → Bool
  | .dtorSignal | .dtorJoin => false
  | pc => pc.inDestructor

/-- The destructor's `DoMainThreadWork` has found `itemsMainThread_` empty. -/
def MainPc.emptied : MainPc ρ → Bool
  | .workUnlock .destructor | .dtorDestroy | .returned => true
  | _ => false

/-- What the program counters say about the stop flag, the worker and the reply
queue. -/
structure Controlled (s : ApiAsyncExecuter ρ) : Prop where
  stopping_eq : s.stoppingThread = s.main.inDestructor
  enqueueing : s.main.enqueueing = true → s.stoppingThread = false
  exited : s.worker = .exited → s.stoppingThread = true
  joined : s.main.joined = true → s.worker = .exited
  emptied : s.main.emptied = true → s.itemsMainThread = []

theorem controlled_init : Controlled (ApiAsyncExecuter.init : ApiAsyncExecuter ρ) := by
  constructor <;> simp [ApiAsyncExecuter.init, MainPc.inDestructor, MainPc.enqueueing, MainPc.joined,
    MainPc.emptied]

theorem WorkerPc.signalled_eq_exited {pc : WorkerPc ρ} : pc.signalled = .exited ↔ pc = .exited := by
  cases pc <;> simp [WorkerPc.signalled]

/-- The main thread sets the stop flag and clears the lists only at the places
of the destructor that the program counter names. -/
theorem Controlled.mainStep {s t : ApiAsyncExecuter ρ} (controlled : Controlled s)
    (stepped : s.mainStep = some t) : Controlled t := by
  obtain ⟨stopping_eq, enqueueing, exited, joined, emptied⟩ := controlled
  cases mainMove_of_mainStep stepped with
  | @rejects _ site pc _ | @accepts _ site pc _ | @signals site pc =>
      rcases site with _ | ⟨item, _ | _⟩ <;> constructor <;>
        simp_all [AsyncSite.resume, MainPc.inDestructor, MainPc.enqueueing, MainPc.joined,
          MainPc.emptied, AsyncSite.inDestructor, WorkCaller.inDestructor,
          WorkerPc.signalled_eq_exited]
  | @leavesLoop caller pc _ | @entersLoop caller pc _ | @unlocks2 caller pc =>
      cases caller <;> constructor <;>
        simp_all [WorkCaller.resume, MainPc.inDestructor, MainPc.enqueueing, MainPc.joined,
          MainPc.emptied, WorkCaller.inDestructor]
  | locks | pushes | unlocks | locks2 | readsFront | pops | callsBack | deletes | wakesWorker | joins
  | destroys =>
      constructor <;>
        simp_all [MainPc.inDestructor, MainPc.enqueueing, MainPc.joined, MainPc.emptied,
          WorkCaller.inDestructor, WorkerPc.signalled_eq_exited]

/-- The lists are cleared only after `pthread_join` has returned. -/
theorem MainPc.joined_of_emptied {pc : MainPc ρ} (empty : pc.emptied = true) : pc.joined = true := by
  cases pc with
  | workUnlock caller => cases caller <;> simp_all [MainPc.emptied, MainPc.joined, MainPc.inDestructor,
      WorkCaller.inDestructor]
  | dtorDestroy | returned => rfl
  | game | asyncTest | asyncLock | asyncPush | asyncUnlock | asyncSignal | workLock | workTest
  | workFront | workPop | workCallback | inCallback | workDelete | dtorSignal | dtorJoin => cases empty

/-- The worker moves only in its own fields, and exits only when it has seen the
stop flag. -/
theorem workerStep_control {s t : ApiAsyncExecuter ρ} (stepped : s.workerStep = some t) :
    t.stoppingThread = s.stoppingThread ∧ t.main = s.main ∧ s.worker ≠ .exited ∧
      (t.worker = .exited → s.stoppingThread = true) := by
  cases workerMove_of_workerStep stepped with
  | exits pc stopping => exact ⟨rfl, rfl, by simp [pc], fun _ => stopping⟩
  | starts pc _ | locks pc _ | findsNone pc _ | findsSome pc _ | stops pc _ | waits pc _ | blocks pc
  | relocks pc _ | leavesLoop pc _ | entersLoop pc _ | readsFront pc _ | pops pc | unlocks pc
  | executes pc | locks2 pc _ | pushes pc | unlocks2 pc =>
      exact ⟨rfl, rfl, by simp [pc], by rintro ⟨⟩⟩

/-- The worker changes neither the stop flag nor the progress of the destructor. -/
theorem Controlled.workerStep {s t : ApiAsyncExecuter ρ} (controlled : Controlled s)
    (stepped : s.workerStep = some t) : Controlled t := by
  obtain ⟨stopping_eq, enqueueing, exited, joined, emptied⟩ := controlled
  obtain ⟨sameStopping, sameMain, running, exits⟩ := workerStep_control stepped
  -- a worker that moves has not exited, so the main thread is not past the join
  have notJoined : s.main.joined = false := by
    cases beyond : s.main.joined with
    | true => exact absurd (joined beyond) running
    | false => rfl
  constructor
  · rw [sameStopping, sameMain]
    exact stopping_eq
  · rw [sameStopping, sameMain]
    exact enqueueing
  · rw [sameStopping]
    exact exits
  · intro beyond
    rw [sameMain, notJoined] at beyond
    cases beyond
  · intro empty
    have beyond := MainPc.joined_of_emptied empty
    rw [sameMain, notJoined] at beyond
    cases beyond

theorem Controlled.step {s t : ApiAsyncExecuter ρ} {action : ExecuterAction ρ}
    (controlled : Controlled s) (stepped : s.step action = some t) : Controlled t := by
  cases action with
  | main => exact controlled.mainStep stepped
  | worker => exact controlled.workerStep stepped
  | spuriousWakeup =>
      simp only [ApiAsyncExecuter.step] at stepped
      split at stepped
      · rename_i pc
        cases stepped
        obtain ⟨stopping_eq, enqueueing, exited, joined, emptied⟩ := controlled
        exact ⟨stopping_eq, enqueueing, (by rintro ⟨⟩), fun beyond =>
          absurd (joined beyond) (by simp [pc]),
          emptied⟩
      · cases stepped
  | callExecuteAsync request | callDoMainThreadWork | callbackReturns | destroy =>
      obtain ⟨stopping_eq, enqueueing, exited, joined, emptied⟩ := controlled
      simp only [ApiAsyncExecuter.step] at stepped
      split at stepped <;> cases stepped <;> constructor <;>
        simp_all [MainPc.inDestructor, MainPc.enqueueing, MainPc.joined, MainPc.emptied,
          AsyncSite.inDestructor, WorkCaller.inDestructor]

/-- How far the destructor is can be read off the program counters in every
reachable state. -/
theorem controlled_of_run {s : ApiAsyncExecuter ρ} {actions : List (ExecuterAction ρ)}
    (ran : run ApiAsyncExecuter.step .init actions = some s) : Controlled s :=
  run_invariant Controlled.step controlled_init ran

end Q3df.Client
