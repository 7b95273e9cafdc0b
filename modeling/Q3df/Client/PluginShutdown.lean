/-
Module: Q3df.Client.PluginShutdown
Layer: Client
Purpose: The plugins next to the request queue, over the calls of `VmMain` from `GAME_INIT` to
  `GAME_SHUTDOWN`. A request may carry a callback that is bound to a plugin object. The shutdown
  branch deletes the plugins first and the executer second, whose destructor runs the callbacks of
  the replies that are left, so a callback runs on a deleted plugin unless no request bound to a
  plugin is outstanding when the plugin is deleted.
Imports: Mathlib.Data.List.Nodup, Q3df.Client.Quake3, Q3df.Client.ApiAsyncExecuter
Trusted boundary: human-reviewed transcription of client/Recordsystem.cc, lines 106-284; every
  plugin's Destroy has an empty body
Main exports: PluginRequest, ProxyLife, ProxyLife.step, NoOutstandingBound,
  callbacks_run_on_live_plugins
Open obligations: none
-/
import Mathlib.Data.List.Nodup
import Q3df.Client.Quake3
import Q3df.Client.ApiAsyncExecuter

namespace Q3df.Client

open Q3df.Transition

/-- A plugin object, named by the order of creation. -/
abbrev PluginId := Nat

/-- A request, and the plugin object its callback is bound to, if any. -/
structure PluginRequest (ρ : Type*) where
  boundTo : Option PluginId
  request : ρ
deriving Repr, DecidableEq

/-- Where the proxy is in its calls of `VmMain`. `GAME_RUN_FRAME` is split at
`DoMainThreadWork`, and `GAME_SHUTDOWN` at the plugin loop and at the deletion
of the executer. -/
inductive VmMainPhase where
  | idle
  | gameInit
  | beforeFrameWork
  | afterFrameWork
  | otherCommand
  | gameShutdown
  | deletingPlugins
  | deletingExecuter
deriving Repr, DecidableEq

/-- `pluginList_` and `asyncExec_` of `Recordsystem`. `created` counts the
plugin objects, and `dangling` collects the items whose callback was run on a
plugin that had been deleted. -/
structure ProxyLife (ρ : Type*) where
  phase : VmMainPhase
  pluginList : List PluginId
  created : Nat
  executer : ApiAsyncExecuter (PluginRequest ρ)
  dangling : List (ApiAsyncItem (PluginRequest ρ))
deriving Repr, DecidableEq

/-- What may happen next: the engine calls, the code of the running command
acts, or one of the two threads takes a step inside the executer. -/
inductive ProxyLifeAction (ρ : Type*) where
  | vmMain (command : GameExport)
  | vmMainReturns
  | createPlugin
  | callExecuteAsync (request : PluginRequest ρ)
  | frameWork
  | startDeleting
  | deletePlugin
  | deleteExecuter
  | mainThread
  | worker
  | spuriousWakeup
  | callbackReturns
deriving Repr, DecidableEq

variable {ρ : Type*}

/-- The phase a command begins in. -/
def VmMainPhase.ofCommand : GameExport → VmMainPhase
  | .gameInit => .gameInit
  | .gameRunFrame => .beforeFrameWork
  | .gameShutdown => .gameShutdown
  | .gameClientConnect | .gameClientBegin | .gameClientUserinfoChanged | .gameClientDisconnect
  | .gameClientCommand | .gameClientThink | .gameConsoleCommand | .botaiStartFrame => .otherCommand

/-- The phases that run handlers, the VM or callbacks, any of which may submit
requests. -/
def VmMainPhase.runsCode : VmMainPhase → Bool
  | .idle | .deletingPlugins => false
  | .gameInit | .beforeFrameWork | .afterFrameWork | .otherCommand | .gameShutdown
  | .deletingExecuter => true

namespace ProxyLife

/-- The plugin a request is bound to has not been deleted. -/
def Alive (s : ProxyLife ρ) (request : PluginRequest ρ) : Prop :=
  ∀ plugin, request.boundTo = some plugin → plugin ∈ s.pluginList

instance (s : ProxyLife ρ) (request : PluginRequest ρ) : Decidable (s.Alive request) :=
  match bound : request.boundTo with
  | none => isTrue (by simp [Alive, bound])
  | some plugin => decidable_of_iff (plugin ∈ s.pluginList) (by simp [Alive, bound])

/-- A new proxy, before `GAME_INIT`. -/
def init : ProxyLife ρ where
  phase := .idle
  pluginList := []
  created := 0
  executer := .init
  dangling := []

/-- The item whose callback the main thread is about to run on a deleted plugin. -/
def danglingCallback (s : ProxyLife ρ) : List (ApiAsyncItem (PluginRequest ρ)) :=
  match s.executer.main with
  | .workCallback item _ => if s.Alive item.request then [] else [item]
  | _ => []

/-- One step. Only a plugin's own code binds a callback to it, so a request is
bound to a plugin that is still there, except where `ExecuteAsync` is going to
turn it away. -/
def step (s : ProxyLife ρ) : ProxyLifeAction ρ → Option (ProxyLife ρ)
  | .vmMain command =>
      match s.phase with
      | .idle => some { s with phase := .ofCommand command }
      | _ => none
  | .vmMainReturns =>
      match s.phase, s.executer.main with
      | .gameInit, .game | .afterFrameWork, .game | .otherCommand, .game =>
          some { s with phase := .idle }
      | _, _ => none
  | .createPlugin =>
      match s.phase with
      | .gameInit =>
          some { s with pluginList := s.pluginList ++ [s.created], created := s.created + 1 }
      | _ => none
  | .callExecuteAsync request =>
      if s.phase.runsCode = true ∧ (s.executer.stoppingThread = true ∨ s.Alive request) then
        (s.executer.step (.callExecuteAsync request)).map fun executer => { s with executer := executer }
      else none
  | .frameWork =>
      match s.phase with
      | .beforeFrameWork =>
          (s.executer.step .callDoMainThreadWork).map fun executer =>
            { s with phase := .afterFrameWork, executer := executer }
      | _ => none
  | .startDeleting =>
      match s.phase, s.executer.main with
      | .gameShutdown, .game => some { s with phase := .deletingPlugins }
      | _, _ => none
  | .deletePlugin =>
      match s.phase, s.executer.main, s.pluginList with
      | .deletingPlugins, .game, _ :: _ => some { s with pluginList := s.pluginList.dropLast }
      | _, _, _ => none
  | .deleteExecuter =>
      match s.phase, s.pluginList with
      | .deletingPlugins, [] =>
          (s.executer.step .destroy).map fun executer =>
            { s with phase := .deletingExecuter, executer := executer }
      | _, _ => none
  | .mainThread =>
      (s.executer.step .main).map fun executer =>
        { s with executer := executer, dangling := s.dangling ++ s.danglingCallback }
  | .worker => (s.executer.step .worker).map fun executer => { s with executer := executer }
  | .spuriousWakeup =>
      (s.executer.step .spuriousWakeup).map fun executer => { s with executer := executer }
  | .callbackReturns =>
      (s.executer.step .callbackReturns).map fun executer => { s with executer := executer }

end ProxyLife

/-- The item was accepted and its callback has not been run. -/
def ApiAsyncExecuter.Outstanding {τ : Type*} (e : ApiAsyncExecuter τ) (item : ApiAsyncItem τ) : Prop :=
  item ∈ e.enqueued ∧ item ∉ e.calledBack

/-- The request that `ExecuteAsync` is working on and has not enqueued or turned
away yet. -/
def MainPc.submitting {τ : Type*} : MainPc τ → Option τ
  | .asyncTest request _ | .asyncLock request _ | .asyncPush request _ => some request
  | _ => none

/-- The condition on a step: a plugin is deleted only when no outstanding
request is bound to it. -/
def NoOutstandingBound (s : ProxyLife ρ) (action : ProxyLifeAction ρ) : Prop :=
  match action with
  | .deletePlugin =>
      ∀ item ∈ s.executer.enqueued, item ∉ s.executer.calledBack →
        item.request.boundTo = none ∨ item.request.boundTo ≠ s.pluginList.getLast?
  | _ => True

instance [DecidableEq ρ] (s : ProxyLife ρ) (action : ProxyLifeAction ρ) :
    Decidable (NoOutstandingBound s action) := by
  cases action <;> unfold NoOutstandingBound <;> infer_instance

/-!
### What the executer's steps do to the outstanding requests

A request is outstanding from its submission until its callback has run. Only a
step of the main thread adds one, and only a callback takes one away.
-/

section Executer

variable {τ : Type*} {e e' : ApiAsyncExecuter τ}

/-- What a step of the main thread adds to the submissions and to the callbacks. -/
theorem mainStep_history (stepped : e.mainStep = some e') :
    e'.stoppingThread = e.stoppingThread ∧
      (∀ request, e'.main.submitting = some request → e.main.submitting = some request) ∧
      (∀ item ∈ e.calledBack, item ∈ e'.calledBack) ∧
      ∀ item ∈ e'.enqueued, item ∈ e.enqueued ∨ ∃ site, e.main = .asyncPush item.request site := by
  cases mainMove_of_mainStep stepped with
  | @rejects _ site | @signals site =>
      cases site <;> simp_all [AsyncSite.resume, MainPc.submitting]
  | @unlocks2 caller => cases caller <;> simp_all [WorkCaller.resume, MainPc.submitting]
  | @pushes request site pc =>
      refine ⟨rfl, by simp [MainPc.submitting], by simp, ?_⟩
      intro item accepted
      rcases List.mem_append.mp accepted with before | new
      · exact .inl before
      · rw [List.mem_singleton.mp new]
        exact .inr ⟨site, pc⟩
  | accepts | locks | unlocks | locks2 | leavesLoop | entersLoop | readsFront | pops | callsBack | deletes
  | wakesWorker | joins | destroys => simp_all [MainPc.submitting]

/-- The worker neither submits requests nor runs callbacks. -/
theorem workerStep_history (stepped : e.workerStep = some e') :
    e'.stoppingThread = e.stoppingThread ∧ e'.main = e.main ∧ e'.calledBack = e.calledBack ∧
      e'.enqueued = e.enqueued := by
  cases workerMove_of_workerStep stepped
  all_goals exact ⟨rfl, rfl, rfl, rfl⟩

/-- The item the main thread is about to call back is outstanding. -/
theorem outstanding_of_workCallback {item : ApiAsyncItem τ} {caller : WorkCaller}
    (conserved : Conserved e) (pc : e.main = .workCallback item caller) : e.Outstanding item := by
  have enqueued := conserved.enqueued_eq
  have calledBack := conserved.calledBack_eq
  simp only [pc, MainPc.held, MainPc.started, List.append_nil] at enqueued calledBack
  have distinct : e.enqueued.Nodup := by
    apply List.Nodup.of_map ApiAsyncItem.serial
    rw [conserved.serials]
    exact List.nodup_range
  constructor
  · simp [enqueued]
  · -- it would be in the log twice, once deleted and once in hand
    intro started
    rw [calledBack] at started
    rw [enqueued] at distinct
    simp only [List.append_assoc, List.nodup_append, List.mem_append, List.mem_singleton] at distinct
    exact distinct.2.2 item started item (.inl rfl) rfl

end Executer

/-!
### The invariant

Every outstanding request is bound to a plugin that is still in the list.
Plugins are deleted from the back, and only once the proviso holds.
-/

/-- The requests that may still call back are bound to plugins that are still
there, and no callback has run on a deleted plugin. -/
structure BoundToLive (s : ProxyLife ρ) : Prop where
  conserved : Conserved s.executer
  controlled : Controlled s.executer
  outstanding : ∀ item, s.executer.Outstanding item → s.Alive item.request
  submitting : ∀ request, s.executer.main.submitting = some request →
    s.executer.stoppingThread = true ∨ s.Alive request
  clean : s.dangling = []

theorem boundToLive_init : BoundToLive (ProxyLife.init : ProxyLife ρ) where
  conserved := conserved_init
  controlled := controlled_init
  outstanding := by simp [ProxyLife.init, ApiAsyncExecuter.init, ApiAsyncExecuter.Outstanding]
  submitting := by simp [ProxyLife.init, ApiAsyncExecuter.init, MainPc.submitting]
  clean := rfl

theorem BoundToLive.danglingCallback_eq_nil {s : ProxyLife ρ} (bound : BoundToLive s) :
    s.danglingCallback = [] := by
  unfold ProxyLife.danglingCallback
  split
  · rename_i item caller pc
    rw [if_pos (bound.outstanding item (outstanding_of_workCallback bound.conserved pc))]
  · rfl

/-- A step of the executer that submits nothing new. -/
theorem BoundToLive.of_executerStep {s : ProxyLife ρ} (bound : BoundToLive s)
    {action : ExecuterAction (PluginRequest ρ)} {e' : ApiAsyncExecuter (PluginRequest ρ)}
    (phase : VmMainPhase) (stepped : s.executer.step action = some e')
    (stopping : s.executer.stoppingThread = true → e'.stoppingThread = true)
    (submitting : ∀ request, e'.main.submitting = some request →
      s.executer.main.submitting = some request ∨ e'.stoppingThread = true ∨ s.Alive request)
    (calledBack : ∀ item ∈ s.executer.calledBack, item ∈ e'.calledBack)
    (enqueued : ∀ item ∈ e'.enqueued,
      item ∈ s.executer.enqueued ∨ ∃ site, s.executer.main = .asyncPush item.request site) :
    BoundToLive { s with phase := phase, executer := e' } where
  conserved := bound.conserved.step stepped
  controlled := bound.controlled.step stepped
  outstanding := by
    rintro item ⟨accepted, notCalledBack⟩
    rcases enqueued item accepted with before | ⟨site, pushing⟩
    · exact bound.outstanding item ⟨before, fun started => notCalledBack (calledBack item started)⟩
    · -- past the test of the stop flag, so the submitter was alive
      have running := bound.controlled.enqueueing (by rw [pushing]; rfl)
      rcases bound.submitting item.request (by rw [pushing]; rfl) with stopped | alive
      · rw [running] at stopped
        cases stopped
      · exact alive
  submitting := by
    intro request entering
    rcases submitting request entering with before | allowed
    · exact (bound.submitting request before).imp stopping id
    · exact allowed
  clean := bound.clean

/-- Deleting the last plugin of the list keeps the invariant, if no request is
bound to it. -/
theorem BoundToLive.deletePlugin {s : ProxyLife ρ} (bound : BoundToLive s)
    (guard : NoOutstandingBound s .deletePlugin) (inGame : s.executer.main.submitting = none) :
    BoundToLive { s with pluginList := s.pluginList.dropLast } where
  conserved := bound.conserved
  controlled := bound.controlled
  outstanding := by
    rintro item ⟨accepted, notCalledBack⟩ plugin boundTo
    have alive := bound.outstanding item ⟨accepted, notCalledBack⟩ plugin boundTo
    rcases guard item accepted notCalledBack with unbound | other
    · rw [unbound] at boundTo
      cases boundTo
    · rw [boundTo] at other
      have notEmpty : s.pluginList ≠ [] := List.ne_nil_of_mem alive
      rw [List.getLast?_eq_some_getLast notEmpty] at other
      rw [← List.dropLast_append_getLast notEmpty] at alive
      rcases List.mem_append.mp alive with kept | last
      · exact kept
      · exact absurd (congrArg some (List.mem_singleton.mp last)) other
  submitting := by
    intro request entering
    simp [inGame] at entering
  clean := bound.clean

/-- What the steps taken from outside the two threads' own code do to the
executer. -/
theorem step_history {τ : Type*} {e e' : ApiAsyncExecuter τ} {action : ExecuterAction τ}
    (notMain : action ≠ .main) (stepped : e.step action = some e') :
    (e.stoppingThread = true → e'.stoppingThread = true) ∧ e'.calledBack = e.calledBack ∧
      e'.enqueued = e.enqueued ∧
      (e'.main = e.main ∨ e'.main.submitting = none ∨
        ∃ request, action = .callExecuteAsync request ∧ e'.main.submitting = some request) := by
  cases action with
  | main => exact absurd rfl notMain
  | worker =>
      obtain ⟨stopping, sameMain, sameCalledBack, sameEnqueued⟩ := workerStep_history stepped
      exact ⟨fun stopped => stopping.trans stopped, sameCalledBack, sameEnqueued, .inl sameMain⟩
  | spuriousWakeup | callExecuteAsync request | callDoMainThreadWork | callbackReturns | destroy =>
      simp only [ApiAsyncExecuter.step] at stepped
      split at stepped <;> cases stepped <;> simp [MainPc.submitting]

theorem BoundToLive.of_otherStep {s : ProxyLife ρ} (bound : BoundToLive s)
    {action : ExecuterAction (PluginRequest ρ)} {e' : ApiAsyncExecuter (PluginRequest ρ)}
    (phase : VmMainPhase) (notMain : action ≠ .main) (stepped : s.executer.step action = some e')
    (allowed : ∀ request, action = .callExecuteAsync request →
      s.executer.stoppingThread = true ∨ s.Alive request) :
    BoundToLive { s with phase := phase, executer := e' } := by
  obtain ⟨stopping, sameCalledBack, sameEnqueued, main⟩ := step_history notMain stepped
  apply bound.of_executerStep phase stepped stopping
  · intro request entering
    rcases main with same | leaves | ⟨request', rfl, enters⟩
    · exact .inl (same ▸ entering)
    · simp [leaves] at entering
    · rw [enters] at entering
      cases entering
      exact .inr ((allowed _ rfl).imp stopping id)
  · intro item started
    rw [sameCalledBack]
    exact started
  · intro item accepted
    exact .inl (sameEnqueued ▸ accepted)

/-- A step inside the executer runs a callback of a live plugin, or none. -/
theorem BoundToLive.mainThread {s t : ProxyLife ρ} (bound : BoundToLive s)
    (stepped : s.step .mainThread = some t) : BoundToLive t := by
  simp only [ProxyLife.step, Option.map_eq_some_iff] at stepped
  obtain ⟨e', moved, rfl⟩ := stepped
  obtain ⟨stopping, submitting, calledBack, enqueued⟩ := mainStep_history moved
  rw [bound.danglingCallback_eq_nil, List.append_nil]
  exact bound.of_executerStep s.phase moved (fun stopped => stopping.trans stopped)
    (fun request entering => .inl (submitting request entering)) calledBack enqueued

/-- Every step that meets the proviso keeps the requests bound to live plugins. -/
theorem BoundToLive.step {s t : ProxyLife ρ} {action : ProxyLifeAction ρ} (bound : BoundToLive s)
    (guard : NoOutstandingBound s action) (stepped : s.step action = some t) : BoundToLive t := by
  cases action with
  | mainThread => exact bound.mainThread stepped
  | vmMain command | vmMainReturns | startDeleting =>
      simp only [ProxyLife.step] at stepped
      split at stepped <;> cases stepped <;>
        exact ⟨bound.conserved, bound.controlled, bound.outstanding, bound.submitting, bound.clean⟩
  | createPlugin =>
      simp only [ProxyLife.step] at stepped
      split at stepped <;> cases stepped
      have kept : ∀ request, s.Alive request → ∀ plugin, request.boundTo = some plugin →
          plugin ∈ s.pluginList ++ [s.created] :=
        fun request alive plugin boundTo => List.mem_append_left _ (alive plugin boundTo)
      exact ⟨bound.conserved, bound.controlled,
        fun item waits => kept _ (bound.outstanding item waits),
        fun request entering => (bound.submitting request entering).imp id (kept request), bound.clean⟩
  | deletePlugin =>
      simp only [ProxyLife.step] at stepped
      split at stepped <;> cases stepped
      rename_i inGame _
      exact bound.deletePlugin guard (by rw [inGame]; rfl)
  | callExecuteAsync request =>
      simp only [ProxyLife.step] at stepped
      split at stepped
      · rename_i allowed
        obtain ⟨e', moved, rfl⟩ := Option.map_eq_some_iff.mp stepped
        refine bound.of_otherStep s.phase (by simp) moved ?_
        intro request' same
        cases same
        exact allowed.2
      · cases stepped
  | frameWork | deleteExecuter =>
      simp only [ProxyLife.step] at stepped
      split at stepped
      · obtain ⟨e', moved, rfl⟩ := Option.map_eq_some_iff.mp stepped
        exact bound.of_otherStep _ (by simp) moved (by simp)
      · cases stepped
  | worker | spuriousWakeup | callbackReturns =>
      obtain ⟨e', moved, rfl⟩ := Option.map_eq_some_iff.mp stepped
      exact bound.of_otherStep s.phase (by simp) moved (by simp)

/-- In a run of `VmMain` commands and thread steps in which a plugin is only
deleted while no outstanding request is bound to it, no callback ever runs on a
deleted plugin. -/
theorem callbacks_run_on_live_plugins {actions : List (ProxyLifeAction ρ)} {s : ProxyLife ρ}
    (ran : run ProxyLife.step .init actions = some s)
    (guarded : StepsMeet ProxyLife.step NoOutstandingBound .init actions) : s.dangling = [] :=
  (run_invariant_of_stepsMeet BoundToLive.step boundToLive_init guarded ran).clean

/-!
### A command of a player, answered in time and too late

In the first run the reply is delivered before `GAME_SHUTDOWN`. In the second
the executer's destructor delivers it after its plugin has been deleted.
-/

/-- `GAME_INIT` with one plugin, then a command whose callback is bound to that
plugin. -/
def submitBound : List (ProxyLifeAction Unit) :=
  [.vmMain .gameInit, .createPlugin, .vmMainReturns, .vmMain .gameClientCommand,
    .callExecuteAsync ⟨some 0, ()⟩, .mainThread, .mainThread, .mainThread, .mainThread, .mainThread,
    .vmMainReturns] ++ List.replicate 12 .worker

/-- A frame that runs the callback of the one reply. -/
def frameWithReply : List (ProxyLifeAction Unit) :=
  [.vmMain .gameRunFrame, .frameWork, .mainThread, .mainThread, .mainThread, .mainThread, .mainThread,
    .callbackReturns, .mainThread, .mainThread, .mainThread, .vmMainReturns]

/-- `GAME_SHUTDOWN` with one plugin, up to the executer's own `DoMainThreadWork`. -/
def shutdownOnePlugin : List (ProxyLifeAction Unit) :=
  [.vmMain .gameShutdown, .startDeleting, .deletePlugin, .deleteExecuter, .mainThread, .worker,
    .mainThread, .mainThread]

/-- The reply arrives before a frame and the frame runs its callback: the plugin
is deleted later. -/
theorem callbacks_run_on_live_plugins_answeredInTime :
    (run ProxyLife.step .init (submitBound ++ frameWithReply ++ shutdownOnePlugin)).map
      ProxyLife.dangling = some [] := by
  have guarded : StepsMeet ProxyLife.step NoOutstandingBound .init
      (submitBound ++ frameWithReply ++ shutdownOnePlugin) := by decide
  cases ran : run ProxyLife.step .init (submitBound ++ frameWithReply ++ shutdownOnePlugin) with
  | none => exact absurd ran (by decide)
  | some s => exact congrArg some (callbacks_run_on_live_plugins ran guarded)

/-- No frame comes between the reply and the shutdown: the executer's destructor
runs the callback on the deleted plugin. -/
theorem callback_runs_on_deleted_plugin :
    (run ProxyLife.step .init
        (submitBound ++ shutdownOnePlugin ++ [.mainThread, .mainThread, .mainThread, .mainThread])).map
      ProxyLife.dangling = some [⟨0, ⟨some 0, ()⟩⟩] := by
  decide

end Q3df.Client
