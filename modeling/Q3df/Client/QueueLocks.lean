/-
Module: Q3df.Client.QueueLocks
Layer: Client
Purpose: Who owns `mutex_` when `itemsThread_` is touched. `ExecuteAsync` locks and unlocks around its
  push; the worker takes the mutex once for its inner loop and gives it back in each round, so it comes
  back to the head of that loop without the mutex after its first item. The headline
  `lockDiscipline_iff_firstRound` says that this is the only way the discipline is broken.
Imports: Q3df.Client.ApiAsyncExecuter
Trusted boundary: none
Main exports: queueAccess?, mutexUnlock?, LockDiscipline, FirstRound, Owned,
  lockDiscipline_iff_firstRound
Open obligations: none
-/
import Q3df.Client.ApiAsyncExecuter

namespace Q3df.Client

open Q3df.Transition

variable {ρ : Type*}

/-- The thread whose next step in `ExecuteAsync` or `BackgroundWorker` reads,
pops or pushes `itemsThread_`. -/
def queueAccess? (s : ApiAsyncExecuter ρ) : ExecuterAction ρ → Option ThreadId
  | .main =>
      match s.main with
      | .asyncPush _ _ => some .main
      | _ => none
  | .worker =>
      match s.worker with
      | .waitEmpty | .innerTest | .front | .pop _ => some .worker
      | _ => none
  | _ => none

/-- The thread whose next step unlocks `mutex_`; the wait on the condition
unlocks it too. -/
def mutexUnlock? (s : ApiAsyncExecuter ρ) : ExecuterAction ρ → Option ThreadId
  | .main =>
      match s.main with
      | .asyncUnlock _ => some .main
      | _ => none
  | .worker =>
      match s.worker with
      | .condWait | .unlock _ => some .worker
      | _ => none
  | _ => none

/-- The step touches the queue, or unlocks the mutex, only as the owner of the
mutex. -/
def LockDiscipline (s : ApiAsyncExecuter ρ) (action : ExecuterAction ρ) : Prop :=
  (∀ thread ∈ queueAccess? s action, s.mutex = some thread) ∧
    ∀ thread ∈ mutexUnlock? s action, s.mutex = some thread

/-- The worker tests its inner loop only before it has executed an item. -/
def FirstRound (s : ApiAsyncExecuter ρ) (action : ExecuterAction ρ) : Prop :=
  action = .worker → s.worker = .innerTest → s.executed = []

/-!
### Ownership by program counter

The program counters say which thread is between a lock and its unlock. The
invariant relates them to the owner of the mutex, and holds until the worker
unlocks what it has not locked.
-/

/-- The main thread is between the lock and the unlock of `ExecuteAsync`. -/
def MainPc.locked : MainPc ρ → Bool
  | .asyncPush _ _ | .asyncUnlock _ => true
  | _ => false

/-- The worker is between a lock and the next unlock, the head of the inner loop
left aside. -/
def WorkerPc.locked : WorkerPc ρ → Bool
  | .waitEmpty | .waitStop | .condWait | .front | .pop _ | .unlock _ => true
  | _ => false

/-- The worker has executed an item and is handing it over. -/
def WorkerPc.handingOver : WorkerPc ρ → Bool
  | .lock2 _ | .push _ | .unlock2 => true
  | _ => false

/-- While the worker is in its first round, who is between lock and unlock owns
the mutex, and the worker does not own it from its first unlock on. -/
structure Owned (s : ApiAsyncExecuter ρ) : Prop where
  main : s.main.locked = true → s.mutex = some .main
  worker : s.worker.locked = true → s.mutex = some .worker
  firstTest : s.worker = .innerTest → s.executed = [] → s.mutex = some .worker
  executed : s.executed ≠ [] → s.worker.handingOver = true ∨ s.worker = .innerTest
  handingOver : s.worker.handingOver = true → s.executed ≠ []
  unlocked : (∃ item, s.worker = .execApi item) ∨ s.executed ≠ [] → s.mutex ≠ some .worker

/-- At first nobody holds the mutex. -/
theorem owned_init : Owned (ApiAsyncExecuter.init : ApiAsyncExecuter ρ) := by
  constructor <;> simp [ApiAsyncExecuter.init, MainPc.locked, WorkerPc.locked, WorkerPc.handingOver]

@[simp] theorem AsyncSite.locked_resume (site : AsyncSite ρ) : site.resume.locked = false := by
  cases site <;> rfl

@[simp] theorem WorkCaller.locked_resume (caller : WorkCaller) :
    (caller.resume : MainPc ρ).locked = false := by
  cases caller <;> rfl

@[simp] theorem WorkerPc.locked_signalled (pc : WorkerPc ρ) : pc.signalled.locked = pc.locked := by
  cases pc <;> rfl

@[simp] theorem WorkerPc.handingOver_signalled (pc : WorkerPc ρ) :
    pc.signalled.handingOver = pc.handingOver := by
  cases pc <;> rfl

@[simp] theorem WorkerPc.signalled_eq_execApi (pc : WorkerPc ρ) (item : ApiAsyncItem ρ) :
    pc.signalled = .execApi item ↔ pc = .execApi item := by
  cases pc <;> simp [WorkerPc.signalled]

@[simp] theorem WorkerPc.signalled_eq_innerTest (pc : WorkerPc ρ) :
    pc.signalled = .innerTest ↔ pc = .innerTest := by
  cases pc <;> simp [WorkerPc.signalled]

/-- A step of the main thread that neither takes nor gives the mutex. -/
theorem Owned.of_sameMutex {s t : ApiAsyncExecuter ρ} (owned : Owned s) (mutex : t.mutex = s.mutex)
    (executed : t.executed = s.executed) (worker : t.worker = s.worker ∨ t.worker = s.worker.signalled)
    (main : t.main.locked = true → s.main.locked = true) : Owned t := by
  have locked : t.worker.locked = s.worker.locked := by rcases worker with same | woken <;> simp [*]
  have atTest : t.worker = .innerTest ↔ s.worker = .innerTest := by
    rcases worker with same | woken <;> simp [*]
  have handingOver : t.worker.handingOver = s.worker.handingOver := by
    rcases worker with same | woken <;> simp [*]
  constructor
  · intro inside
    rw [mutex]
    exact owned.main (main inside)
  · rw [locked, mutex]
    exact owned.worker
  · rw [atTest, executed, mutex]
    exact owned.firstTest
  · rw [executed, handingOver, atTest]
    exact owned.executed
  · rw [executed, handingOver]
    exact owned.handingOver
  · have executing : (∃ item, t.worker = .execApi item) ↔ ∃ item, s.worker = .execApi item := by
      rcases worker with same | woken <;> simp [*]
    rw [executing, executed, mutex]
    exact owned.unlocked

/-- The main thread locks and unlocks in pairs. -/
theorem Owned.mainStep {s t : ApiAsyncExecuter ρ} (owned : Owned s) (stepped : s.mainStep = some t) :
    Owned t := by
  cases mainMove_of_mainStep stepped with
  | locks pc free =>
      -- the mutex is free, so the worker is not between lock and unlock
      obtain ⟨main, worker, firstTest, executed, handingOver, unlocked⟩ := owned
      rw [free] at worker firstTest
      exact ⟨fun _ => rfl, fun inside => absurd (worker inside) (by rintro ⟨⟩),
        fun atTest none => absurd (firstTest atTest none) (by rintro ⟨⟩), executed, handingOver,
        fun _ => by rintro ⟨⟩⟩
  | unlocks pc =>
      -- the main thread owns the mutex it gives back, so again the worker is outside
      obtain ⟨main, worker, firstTest, executed, handingOver, unlocked⟩ := owned
      have own : s.mutex = some .main := main (by rw [pc]; rfl)
      rw [own] at worker firstTest
      refine ⟨?_, fun inside => absurd (worker inside) (by rintro ⟨⟩),
        fun atTest none => absurd (firstTest atTest none) (by rintro ⟨⟩), executed, handingOver, ?_⟩
      · rintro ⟨⟩
      · rintro _ ⟨⟩
  | rejects | unlocks2 => exact owned.of_sameMutex rfl rfl (.inl rfl) (by simp)
  | pushes pc => exact owned.of_sameMutex rfl rfl (.inl rfl) (by rw [pc]; exact id)
  | signals => exact owned.of_sameMutex rfl rfl (.inr rfl) (by simp)
  | wakesWorker => exact owned.of_sameMutex rfl rfl (.inr rfl) (by rintro ⟨⟩)
  | accepts | locks2 | leavesLoop | entersLoop | readsFront | pops | callsBack | deletes | joins
  | destroys => exact owned.of_sameMutex rfl rfl (.inl rfl) (by rintro ⟨⟩)

/-- The worker's step in its first round keeps ownership. -/
theorem Owned.workerStep {s t : ApiAsyncExecuter ρ} (owned : Owned s) (first : FirstRound s .worker)
    (stepped : s.workerStep = some t) : Owned t := by
  obtain ⟨main, worker, firstTest, executed, handingOver, unlocked⟩ := owned
  have none (notHandingOver : s.worker.handingOver = false) : s.executed = [] := by
    by_contra some
    rcases executed some with handingOver | atTest
    · rw [notHandingOver] at handingOver
      cases handingOver
    · exact some (first rfl atTest)
  cases workerMove_of_workerStep stepped
  all_goals constructor
  all_goals simp_all [WorkerPc.locked, WorkerPc.handingOver]

/-- A step in the first round of the inner loop keeps the account of the mutex. -/
theorem Owned.step {s t : ApiAsyncExecuter ρ} {action : ExecuterAction ρ} (owned : Owned s)
    (first : FirstRound s action) (stepped : s.step action = some t) : Owned t := by
  cases action with
  | main => exact owned.mainStep stepped
  | worker => exact owned.workerStep first stepped
  | spuriousWakeup =>
      simp only [ApiAsyncExecuter.step] at stepped
      split at stepped
      · rename_i pc
        cases stepped
        have woken : WorkerPc.condRelock = s.worker.signalled := by rw [pc]; rfl
        exact owned.of_sameMutex rfl rfl (.inr woken) id
      · cases stepped
  | callExecuteAsync request | callDoMainThreadWork | callbackReturns | destroy =>
      simp only [ApiAsyncExecuter.step] at stepped
      split at stepped
      all_goals cases stepped
      all_goals exact owned.of_sameMutex rfl rfl (.inl rfl) (by rintro ⟨⟩)

/-- Where ownership is as it should be, the next step keeps the discipline
exactly when it is not a later round of the inner loop. -/
theorem lockDiscipline_iff_of_owned {s : ApiAsyncExecuter ρ} {action : ExecuterAction ρ}
    (owned : Owned s) : LockDiscipline s action ↔ FirstRound s action := by
  cases action with
  | main =>
      refine iff_of_true ?_ (by rintro ⟨⟩)
      have own := owned.main
      cases pc : s.main <;>
        simp_all [LockDiscipline, queueAccess?, mutexUnlock?, MainPc.locked]
  | worker =>
      have own := owned.worker
      cases pc : s.worker with
      | innerTest =>
          have unlocked : s.executed ≠ [] → s.mutex ≠ some .worker :=
              fun some => owned.unlocked (.inr some)
          have firstTest := owned.firstTest pc
          constructor
          · intro disciplined _ _
            by_contra some
            exact unlocked some (disciplined.1 .worker (by simp [queueAccess?, pc]))
          · intro first
            have own := firstTest (first rfl pc)
            constructor <;> simp [queueAccess?, mutexUnlock?, pc, own]
      | outerTest | lock | waitEmpty | waitStop | condWait | blocked | condRelock | front | pop
      | unlock | execApi | lock2 | push | unlock2 | exited =>
          apply iff_of_true
          · simp_all [LockDiscipline, queueAccess?, mutexUnlock?, WorkerPc.locked]
          · intro _ atTest
            rw [pc] at atTest
            cases atTest
  | spuriousWakeup | callExecuteAsync | callDoMainThreadWork | callbackReturns | destroy =>
      apply iff_of_true
      · constructor <;> rintro _ ⟨⟩
      · rintro ⟨⟩

/-- A run keeps the lock discipline exactly when the worker takes no step at the
head of its inner loop after it has executed an item. -/
theorem lockDiscipline_iff_firstRound (actions : List (ExecuterAction ρ)) :
    StepsMeet ApiAsyncExecuter.step LockDiscipline .init actions ↔
      StepsMeet ApiAsyncExecuter.step FirstRound .init actions :=
  stepsMeet_iff_of_invariant lockDiscipline_iff_of_owned Owned.step owned_init

/-- Two requests are submitted, the worker serves the first and pops the second,
and a third submission has locked the mutex. -/
def lockedByMain : List (ExecuterAction Nat) :=
  .callExecuteAsync 0 :: List.replicate 5 .main ++ .callExecuteAsync 1 :: List.replicate 5 .main ++
    List.replicate 14 .worker ++ [.callExecuteAsync 2, .main, .main]

/-- The worker is about to unlock the mutex the main thread owns. -/
theorem worker_unlocks_mutex_of_main :
    ∃ s, run ApiAsyncExecuter.step .init lockedByMain = some s ∧ s.mutex = some .main ∧
      mutexUnlock? s .worker = some .worker ∧ ¬LockDiscipline s .worker := by
  refine ⟨_, rfl, rfl, rfl, ?_⟩
  intro disciplined
  have own : some ThreadId.main = some ThreadId.worker := disciplined.2 .worker rfl
  cases own

end Q3df.Client
