/-
Module: Q3df.Client.CallbackOrder
Layer: Client
Purpose: The order in which the request queue serves its items. Items travel through two queues and
  two threads, and a running callback may submit new ones; the conservation law of the executer says
  that the places an item can be in, read in one order, spell the submission order. So the callbacks
  run so far are the first items submitted, and no item is served twice.
Imports: Mathlib.Data.List.Nodup, Q3df.Client.ApiAsyncExecuter
Trusted boundary: none
Main exports: KeepsOrder, keepsOrder_of_conserved, callbacks_keep_submission_order
Open obligations: none
-/
import Mathlib.Data.List.Nodup
import Q3df.Client.ApiAsyncExecuter

namespace Q3df.Client

open Q3df.Transition

variable {ρ : Type*}

/-- The callbacks run so far are the first items enqueued, in that order; the
API function of an item has completed before its callback is started and when it
has run; nothing is executed or called back twice. -/
structure KeepsOrder (s : ApiAsyncExecuter ρ) : Prop where
  submissionOrder : s.calledBack <+: s.enqueued
  completedBefore : ∀ item caller, s.main = .workCallback item caller → item ∈ s.executed
  completed : ∀ item ∈ s.calledBack, item ∈ s.executed
  executedOnce : (s.executed.map ApiAsyncItem.serial).Nodup
  calledBackOnce : (s.calledBack.map ApiAsyncItem.serial).Nodup

/-- An item whose callback has started is in the hands of the main thread, at their
front. -/
theorem MainPc.started_prefix_held (pc : MainPc ρ) : pc.started <+: pc.held := by
  cases pc with
  | workCallback item caller => apply List.nil_prefix
  | game | asyncTest | asyncLock | asyncPush | asyncUnlock | asyncSignal | workLock | workTest
  | workFront | workPop | inCallback | workDelete | workUnlock | dtorSignal | dtorJoin | dtorDestroy
  | returned => apply List.prefix_rfl

/-- An item the worker has executed and not yet handed over is the one in its
hands. -/
theorem WorkerPc.completed_prefix_held (pc : WorkerPc ρ) : pc.completed <+: pc.held := by
  cases pc with
  | unlock | execApi => apply List.nil_prefix
  | outerTest | lock | waitEmpty | waitStop | condWait | blocked | condRelock | innerTest | front | pop
  | lock2 | push | unlock2 | exited => apply List.prefix_rfl

section Order

variable {s : ApiAsyncExecuter ρ}

/-- What has been called back is the front part of what has been executed. -/
theorem calledBack_prefix_executed (conserved : Conserved s) : s.calledBack <+: s.executed := by
  have started : s.deleted ++ s.main.started <+: s.deleted ++ s.main.held :=
    (List.prefix_append_right_inj s.deleted).mpr s.main.started_prefix_held
  rw [conserved.calledBack_eq, conserved.executed_eq]
  apply started.trans
  rw [List.append_assoc]
  apply List.prefix_append

/-- What has been executed is the front part of what has been enqueued. -/
theorem executed_prefix_enqueued (conserved : Conserved s) : s.executed <+: s.enqueued := by
  have handedOver : s.deleted ++ s.main.held ++ s.itemsMainThread ++ s.worker.completed <+:
      s.deleted ++ s.main.held ++ s.itemsMainThread ++ s.worker.held :=
    (List.prefix_append_right_inj _).mpr s.worker.completed_prefix_held
  rw [conserved.executed_eq, conserved.enqueued_eq]
  apply handedOver.trans
  apply List.prefix_append

/-- The serial numbers count up, so no item occurs twice in a front part of the
submissions. -/
theorem serials_nodup (conserved : Conserved s) {log : List (ApiAsyncItem ρ)} (first : log <+: s.enqueued) :
    (log.map ApiAsyncItem.serial).Nodup := by
  have allDifferent : (s.enqueued.map ApiAsyncItem.serial).Nodup := by
    rw [conserved.serials]
    apply List.nodup_range
  apply List.Nodup.sublist _ allDifferent
  exact first.sublist.map ApiAsyncItem.serial

/-- The three orders follow from the conservation law alone: callbacks come in
the order of executions, and executions in the order of submissions. -/
theorem keepsOrder_of_conserved (conserved : Conserved s) : KeepsOrder s := by
  have calledBack := calledBack_prefix_executed conserved
  have executed := executed_prefix_enqueued conserved
  constructor
  · exact calledBack.trans executed
  · intro item caller pc
    have inHand : item ∈ s.main.held := by simp [pc, MainPc.held]
    rw [conserved.executed_eq]
    simp [inHand]
  · intro item served
    exact calledBack.subset served
  · exact serials_nodup conserved executed
  · exact serials_nodup conserved (calledBack.trans executed)

end Order

/-- In every state of every interleaving of the two threads, with callbacks that
submit items of their own, the callbacks keep the submission order. -/
theorem callbacks_keep_submission_order {s : ApiAsyncExecuter ρ} {actions : List (ExecuterAction ρ)}
    (ran : run ApiAsyncExecuter.step .init actions = some s) : KeepsOrder s :=
  keepsOrder_of_conserved (conserved_of_run ran)

/-- Two requests are submitted, the worker hands over the first one, and its
callback submits a third. -/
def submitFromCallback : List (ExecuterAction Nat) :=
  .callExecuteAsync 0 :: List.replicate 5 .main ++ .callExecuteAsync 1 :: List.replicate 5 .main ++
    List.replicate 11 .worker ++ .callDoMainThreadWork :: List.replicate 5 .main ++
      .callExecuteAsync 2 :: List.replicate 5 .main

/-- While the first callback runs, the third request is behind the second. -/
theorem callbacks_keep_submission_order_nested :
    ∃ s, run ApiAsyncExecuter.step .init submitFromCallback = some s ∧ s.calledBack = [⟨0, 0⟩] ∧
      s.enqueued = [⟨0, 0⟩, ⟨1, 1⟩, ⟨2, 2⟩] ∧ KeepsOrder s := by
  obtain ⟨s, ran, calledBack, enqueued⟩ : ∃ s,
      run ApiAsyncExecuter.step .init submitFromCallback = some s ∧ s.calledBack = [⟨0, 0⟩] ∧
        s.enqueued = [⟨0, 0⟩, ⟨1, 1⟩, ⟨2, 2⟩] := ⟨_, rfl, rfl, rfl⟩
  exact ⟨s, ran, calledBack, enqueued, callbacks_keep_submission_order ran⟩

end Q3df.Client
