/-
Module: Q3df.Client.ExecuterShutdown
Layer: Client
Purpose: What `~ApiAsyncExecuter` leaves behind. When the destructor has returned, every place an item
  can be in is empty except `itemsThread_`, so the accepted requests are all served exactly when that
  queue is empty. Whether it is depends on one moment: the worker drains the queue from wherever it
  stands when the stop flag is set, except at the test of its outer loop, where it leaves at once.
Imports: Mathlib.Data.List.Nodup, Q3df.Client.ApiAsyncExecuter
Trusted boundary: none
Main exports: AllServed, allServed_iff_of_returned, allServed_iff_worker_not_at_outerTest
Open obligations: none
-/
import Mathlib.Data.List.Nodup
import Q3df.Client.ApiAsyncExecuter

namespace Q3df.Client

open Q3df.Transition

variable {ρ : Type*}

/-- The two messages an item owns. -/
inductive ItemMessage where
  | replyMsg
  | sentMsg
deriving Repr, DecidableEq

/-- `~ApiAsyncItem`: the messages freed with the item, named by the item's
serial number. -/
def ApiAsyncItem.deletes (item : ApiAsyncItem ρ) : List (Nat × ItemMessage) :=
  [(item.serial, .replyMsg), (item.serial, .sentMsg)]

/-- How often an item occurs in one of the logs. -/
def ApiAsyncItem.timesIn (item : ApiAsyncItem ρ) (log : List (ApiAsyncItem ρ)) : Nat :=
  log.countP fun other => other.serial == item.serial

namespace ApiAsyncExecuter

/-- The messages of enqueued items freed so far. -/
def deletedMessages (s : ApiAsyncExecuter ρ) : List (Nat × ItemMessage) :=
  s.deleted.flatMap ApiAsyncItem.deletes

/-- Every accepted item has had its API function executed once, its callback run
once and each of its two messages deleted once. -/
def AllServed (s : ApiAsyncExecuter ρ) : Prop :=
  ∀ item ∈ s.enqueued,
    item.timesIn s.executed = 1 ∧ item.timesIn s.calledBack = 1 ∧
      ∀ message, s.deletedMessages.count (item.serial, message) = 1

end ApiAsyncExecuter

/-- An item is deleted as often as the log of deletions names it. -/
theorem count_deletes (item : ApiAsyncItem ρ) (message : ItemMessage) (log : List (ApiAsyncItem ρ)) :
    (log.flatMap ApiAsyncItem.deletes).count (item.serial, message) = item.timesIn log := by
  induction log with
  | nil => rfl
  | cons other rest inductionHypothesis =>
      simp only [List.flatMap_cons, List.count_append, inductionHypothesis, ApiAsyncItem.timesIn,
        List.countP_cons]
      by_cases same : other.serial = item.serial
      · cases message <;> simp [ApiAsyncItem.deletes, same, Nat.add_comm]
      · cases message <;> simp [ApiAsyncItem.deletes, same]

/-- With the serial numbers counting up, an item that was enqueued is in the log
of the enqueued items once. -/
theorem timesIn_eq_one {log : List (ApiAsyncItem ρ)} {item : ApiAsyncItem ρ}
    (serials : log.map ApiAsyncItem.serial = List.range log.length) (logged : item ∈ log) :
    item.timesIn log = 1 := by
  have asCount : item.timesIn log = (log.map ApiAsyncItem.serial).count item.serial := by
    rw [List.count_eq_countP, List.countP_map]
    rfl
  rw [asCount]
  apply List.count_eq_one_of_mem
  · rw [serials]
    exact List.nodup_range
  · exact List.mem_map_of_mem logged

theorem timesIn_append (item : ApiAsyncItem ρ) (first second : List (ApiAsyncItem ρ)) :
    item.timesIn (first ++ second) = item.timesIn first + item.timesIn second :=
  List.countP_append

/-- After the destructor the items not deleted are those still in `itemsThread_`. -/
theorem logs_of_returned {s : ApiAsyncExecuter ρ} (conserved : Conserved s) (controlled : Controlled s)
    (returned : s.main = .returned) :
    s.enqueued = s.deleted ++ s.itemsThread ∧ s.executed = s.deleted ∧ s.calledBack = s.deleted := by
  have workerGone : s.worker = .exited := controlled.joined (by simp [returned, MainPc.joined,
    MainPc.inDestructor])
  have drained : s.itemsMainThread = [] := controlled.emptied (by simp [returned, MainPc.emptied])
  have enqueued := conserved.enqueued_eq
  have executed := conserved.executed_eq
  have calledBack := conserved.calledBack_eq
  simp only [returned, workerGone, drained, MainPc.held, MainPc.started, WorkerPc.held,
    WorkerPc.completed, List.append_nil] at enqueued executed calledBack
  exact ⟨enqueued, executed, calledBack⟩

/-- After the destructor every accepted item is served exactly when
`itemsThread_` is empty. -/
theorem allServed_iff_of_returned {s : ApiAsyncExecuter ρ} (conserved : Conserved s)
    (controlled : Controlled s) (returned : s.main = .returned) :
    s.AllServed ↔ s.itemsThread = [] := by
  obtain ⟨enqueued, executed, calledBack⟩ := logs_of_returned conserved controlled returned
  constructor
  · intro served
    rw [List.eq_nil_iff_forall_not_mem]
    intro item left
    have accepted : item ∈ s.enqueued := by simp [enqueued, left]
    -- one occurrence in `deleted`, one in the queue, and only one overall
    have once := timesIn_eq_one conserved.serials accepted
    have inDeleted := (served item accepted).1
    rw [executed] at inDeleted
    have inQueue : 0 < item.timesIn s.itemsThread :=
      List.countP_pos_iff.mpr ⟨item, left, by simp⟩
    rw [enqueued, timesIn_append] at once
    omega
  · intro empty item accepted
    have once := timesIn_eq_one conserved.serials accepted
    rw [empty, List.append_nil] at enqueued
    rw [enqueued] at once
    refine ⟨?_, ?_, fun message => ?_⟩
    · rw [executed, once]
    · rw [calledBack, once]
    · rw [ApiAsyncExecuter.deletedMessages, count_deletes, once]

/-!
### After the stop flag is set

Nothing is enqueued any more. A worker that is inside its outer loop comes back
to the outer test only with an empty queue; a worker that stands at the outer
test leaves the queue as it is.
-/

/-- The worker has not given up on a non-empty queue. -/
def WillDrain (s : ApiAsyncExecuter ρ) : Prop :=
  s.stoppingThread = true ∧
    (s.itemsThread = [] ∨ (s.worker ≠ .outerTest ∧ s.worker ≠ .exited))

/-- The worker has given up on these items. -/
def Abandons (items : List (ApiAsyncItem ρ)) (s : ApiAsyncExecuter ρ) : Prop :=
  s.stoppingThread = true ∧ (s.worker = .outerTest ∨ s.worker = .exited) ∧ s.itemsThread = items

/-- With the stop flag set the main thread leaves the request queue alone and
does not bring the worker to the outer test. -/
theorem mainStep_stopping {s t : ApiAsyncExecuter ρ} (controlled : Controlled s)
    (stopping : s.stoppingThread = true) (stepped : s.mainStep = some t) :
    t.stoppingThread = true ∧ t.itemsThread = s.itemsThread ∧
      (t.worker = s.worker ∨ (s.worker = .blocked ∧ t.worker = .condRelock)) := by
  have notEnqueueing : s.main.enqueueing = false := by
    cases enqueueing : s.main.enqueueing with
    | true =>
        have running := controlled.enqueueing enqueueing
        rw [stopping] at running
        cases running
    | false => rfl
  cases mainMove_of_mainStep stepped with
  | accepts pc running => simp [stopping] at running
  | locks pc _ | pushes pc | unlocks pc | signals pc => simp [pc, MainPc.enqueueing] at notEnqueueing
  | wakesWorker pc =>
      refine ⟨stopping, rfl, ?_⟩
      cases s.worker <;> simp [WorkerPc.signalled]
  | rejects | locks2 | leavesLoop | entersLoop | readsFront | pops | callsBack | deletes | unlocks2
  | joins | destroys => exact ⟨stopping, rfl, .inl rfl⟩

/-- With the stop flag set only the worker takes items from the request queue or
comes to the outer test. -/
theorem step_stopping {s t : ApiAsyncExecuter ρ} {action : ExecuterAction ρ}
    (controlled : Controlled s) (stopping : s.stoppingThread = true) (notWorker : action ≠ .worker)
    (stepped : s.step action = some t) :
    t.stoppingThread = true ∧ t.itemsThread = s.itemsThread ∧
      (t.worker = s.worker ∨ (s.worker = .blocked ∧ t.worker = .condRelock)) := by
  cases action with
  | main => exact mainStep_stopping controlled stopping stepped
  | worker => exact absurd rfl notWorker
  | spuriousWakeup | callExecuteAsync request | callDoMainThreadWork | callbackReturns | destroy =>
      simp only [ApiAsyncExecuter.step] at stepped
      split at stepped <;> cases stepped <;> simp_all

/-- The worker comes to the outer test only with an empty queue, and leaves it
only by exiting. -/
theorem workerStep_stopping {s t : ApiAsyncExecuter ρ} (stopping : s.stoppingThread = true)
    (stepped : s.workerStep = some t) :
    t.stoppingThread = true ∧
      ((t.worker = .outerTest ∧ t.itemsThread = [] ∧ s.worker = .innerTest) ∨
        (t.worker = .exited ∧ t.itemsThread = s.itemsThread ∧ s.worker = .outerTest) ∨
        (t.worker ≠ .outerTest ∧ t.worker ≠ .exited ∧ s.worker ≠ .outerTest ∧
          s.worker ≠ .exited)) := by
  cases workerMove_of_workerStep stepped with
  | exits pc _ => exact ⟨stopping, .inr (.inl ⟨rfl, rfl, pc⟩)⟩
  | starts pc running | waits pc running => simp [stopping] at running
  | leavesLoop pc empty => exact ⟨stopping, .inl ⟨rfl, empty, pc⟩⟩
  | locks pc _ | findsNone pc _ | findsSome pc _ | stops pc _ | blocks pc | relocks pc _ | entersLoop pc _
  | readsFront pc _ | pops pc | unlocks pc | executes pc | locks2 pc _ | pushes pc | unlocks2 pc =>
      exact ⟨stopping, .inr (.inr (by simp [pc]))⟩

/-- A worker that will come back to the outer test serves all items first,
whatever the steps are. -/
theorem WillDrain.step {s t : ApiAsyncExecuter ρ} {action : ExecuterAction ρ}
    (invariant : Controlled s ∧ WillDrain s) (stepped : s.step action = some t) :
    Controlled t ∧ WillDrain t := by
  obtain ⟨controlled, stopping, drains⟩ := invariant
  refine ⟨controlled.step stepped, ?_⟩
  by_cases isWorker : action = .worker
  · subst isWorker
    have queueOrMoves := workerStep_stopping stopping stepped
    obtain ⟨stillStopping, atTest | leaves | inside⟩ := queueOrMoves
    · exact ⟨stillStopping, .inl atTest.2.1⟩
    · obtain ⟨_, sameQueue, fromTest⟩ := leaves
      rcases drains with empty | ⟨notTest, _⟩
      · exact ⟨stillStopping, .inl (sameQueue.trans empty)⟩
      · exact absurd fromTest notTest
    · exact ⟨stillStopping, .inr ⟨inside.1, inside.2.1⟩⟩
  · obtain ⟨stillStopping, sameQueue, worker⟩ := step_stopping controlled stopping isWorker stepped
    refine ⟨stillStopping, ?_⟩
    rw [sameQueue]
    rcases worker with same | ⟨_, woken⟩
    · rw [same]
      exact drains
    · exact .inr (by simp [woken])

/-- A worker past its last outer test never takes another item, so those queued
at that moment stay. -/
theorem Abandons.step {items : List (ApiAsyncItem ρ)} {s t : ApiAsyncExecuter ρ}
    {action : ExecuterAction ρ}
    (invariant : Controlled s ∧ Abandons items s) (stepped : s.step action = some t) :
    Controlled t ∧ Abandons items t := by
  obtain ⟨controlled, stopping, gone, left⟩ := invariant
  refine ⟨controlled.step stepped, ?_⟩
  by_cases isWorker : action = .worker
  · subst isWorker
    obtain ⟨stillStopping, atTest | leaves | inside⟩ := workerStep_stopping stopping stepped
    · rw [atTest.2.2] at gone
      simp at gone
    · exact ⟨stillStopping, .inr leaves.1, leaves.2.1.trans left⟩
    · rcases gone with atTest | exited
      · exact absurd atTest inside.2.2.1
      · exact absurd exited inside.2.2.2
  · obtain ⟨stillStopping, sameQueue, worker⟩ := step_stopping controlled stopping isWorker stepped
    refine ⟨stillStopping, ?_, sameQueue.trans left⟩
    rcases worker with same | ⟨blocked, _⟩
    · rw [same]
      exact gone
    · rw [blocked] at gone
      simp at gone

/-- The destructor's first statement, taken from game code. -/
theorem destroy_eq_some {s t : ApiAsyncExecuter ρ} (stepped : s.step .destroy = some t) :
    s.main = .game ∧ t = { s with stoppingThread := true, main := .dtorSignal } := by
  simp only [ApiAsyncExecuter.step] at stepped
  split at stepped
  · rename_i pc
    cases stepped
    exact ⟨pc, rfl⟩
  · cases stepped

/-- In a run that destroys the executer and returns from the destructor, every
accepted request has been served exactly when, at the moment the stop flag was
set, the request queue was empty or the worker was not at the test of its outer
loop. -/
theorem allServed_iff_worker_not_at_outerTest {before after : List (ExecuterAction ρ)}
    {s t : ApiAsyncExecuter ρ} (ran : run ApiAsyncExecuter.step .init before = some s)
    (destroyed : run ApiAsyncExecuter.step s (.destroy :: after) = some t)
    (returned : t.main = .returned) :
    t.AllServed ↔ s.itemsThread = [] ∨ s.worker ≠ .outerTest := by
  have controlled := controlled_of_run ran
  have finalRun : run ApiAsyncExecuter.step .init (before ++ .destroy :: after) = some t :=
    run_append_eq_some.mpr ⟨s, ran, destroyed⟩
  rw [allServed_iff_of_returned (conserved_of_run finalRun) (controlled_of_run finalRun) returned]
  obtain ⟨u, stopped, rest⟩ := run_cons_eq_some.mp destroyed
  have controlledStop := controlled.step stopped
  obtain ⟨inGame, rfl⟩ := destroy_eq_some stopped
  constructor
  · intro drained
    by_contra lost
    obtain ⟨notEmpty, atTest⟩ := not_or.mp lost
    have abandons : Abandons s.itemsThread { s with stoppingThread := true, main := .dtorSignal } :=
      ⟨rfl, .inl (not_not.mp atTest), rfl⟩
    have atEnd := run_invariant Abandons.step ⟨controlledStop, abandons⟩ rest
    exact notEmpty (atEnd.2.2.2.symm.trans drained)
  · intro drains
    have notExited : s.worker ≠ .exited := by
      intro exited
      have stopping := controlled.exited exited
      rw [controlled.stopping_eq, inGame] at stopping
      cases stopping
    have willDrain : WillDrain { s with stoppingThread := true, main := .dtorSignal } :=
      ⟨rfl, drains.imp id fun notTest => ⟨notTest, notExited⟩⟩
    have atEnd := run_invariant WillDrain.step ⟨controlledStop, willDrain⟩ rest
    rcases atEnd.2.2 with empty | ⟨_, notExited⟩
    · exact empty
    · have workerGone : t.worker = .exited := atEnd.1.joined (by simp [returned, MainPc.joined,
        MainPc.inDestructor])
      exact absurd workerGone notExited

/-!
### One request and two schedules

The same request is served or lost by the moment at which the destructor sets
the stop flag.
-/

/-- Game code submits one request, with the worker not scheduled. -/
def submitOne : List (ExecuterAction Unit) :=
  .callExecuteAsync () :: List.replicate 5 .main

/-- The worker serves one request from its outer test, and goes back to the
outer test. -/
def serveOne : List (ExecuterAction Unit) := List.replicate 12 .worker

/-- The destructor after the stop flag is set, with a worker at its outer test
and one answered item to call back. -/
def returnWithOneReply : List (ExecuterAction Unit) :=
  [.main, .worker, .main, .main, .main, .main, .main, .main, .callbackReturns, .main, .main, .main,
    .main]

/-- The same destructor with nothing to call back. -/
def returnWithoutReply : List (ExecuterAction Unit) :=
  [.main, .worker, .main, .main, .main, .main, .main]

/-- The executer after one served request, whose reply waits for the main thread. -/
def repliedOne : ApiAsyncExecuter Unit :=
  { ApiAsyncExecuter.init with
    itemsMainThread := [⟨0, ()⟩], enqueued := [⟨0, ()⟩], executed := [⟨0, ()⟩] }

/-- The executer after the destructor has run on it. -/
def returnedOne : ApiAsyncExecuter Unit :=
  { repliedOne with
    stoppingThread := true, itemsMainThread := [], main := .returned, worker := .exited
    calledBack := [⟨0, ()⟩], deleted := [⟨0, ()⟩] }

/-- One request, served before the destructor runs. -/
theorem allServed_returnedOne :
    run ApiAsyncExecuter.step .init (submitOne ++ serveOne) = some repliedOne ∧
      run ApiAsyncExecuter.step repliedOne (.destroy :: returnWithOneReply) = some returnedOne ∧
        returnedOne.AllServed := by
  have served : run ApiAsyncExecuter.step .init (submitOne ++ serveOne) = some repliedOne := by decide
  have destroyed : run ApiAsyncExecuter.step repliedOne (.destroy :: returnWithOneReply) =
      some returnedOne := by decide
  exact ⟨served, destroyed, (allServed_iff_worker_not_at_outerTest served destroyed rfl).mpr (.inl rfl)⟩

/-- The executer after one request that the worker has not seen. -/
def submittedOne : ApiAsyncExecuter Unit :=
  { ApiAsyncExecuter.init with itemsThread := [⟨0, ()⟩], enqueued := [⟨0, ()⟩] }

/-- The executer after the destructor has run on it. -/
def lostOne : ApiAsyncExecuter Unit :=
  { submittedOne with stoppingThread := true, main := .returned, worker := .exited }

/-- One request submitted while the worker has not yet tested the stop flag: the
destructor returns with the request unserved. -/
theorem not_allServed_lostOne :
    run ApiAsyncExecuter.step .init (submitOne ++ .destroy :: returnWithoutReply) = some lostOne ∧
      lostOne.main = .returned ∧ ¬lostOne.AllServed := by
  refine ⟨by decide, rfl, ?_⟩
  intro served
  have executedOnce : (0 : Nat) = 1 := (served ⟨0, ()⟩ (List.mem_singleton.mpr rfl)).1
  cases executedOnce

end Q3df.Client
