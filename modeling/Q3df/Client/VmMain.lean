/-
Module: Q3df.Client.VmMain
Layer: Client
Purpose: `Recordsystem::VmMain`, the entry point the engine calls. One call dispatches the command's
  event, forwards the command to the game VM and dispatches the event again. The collaborators the
  function calls are fields over a world of any type, so that the dispatch is stated once and every
  world of the proxy can be run through it. The headline is `vmMain_dispatches_iff`: a call that reaches
  the VM runs the BEFORE handlers once before and the AFTER handlers once after it exactly for the
  commands the source lists as void functions; the return functions run their BEFORE handlers twice and
  their AFTER handlers never, which only goes unnoticed when no handler is registered.
Imports: Mathlib.Tactic.SplitIfs, Q3df.Client.Quake3, Q3df.Client.Q3Event
Trusted boundary: human-reviewed transcription of client/Recordsystem.cc, lines 106-284
Main exports: Recordsystem, ProxyState, vmMain, Recordsystem.logged, vmMain_logged, vmMainLog,
  DispatchesOnce, vmMain_dispatches_iff
Open obligations: none
-/
import Mathlib.Tactic.SplitIfs
import Q3df.Client.Quake3
import Q3df.Client.Q3Event

namespace Q3df.Client

variable {σ : Type*}

/-- What `VmMain` calls. `gameInit` returns the handlers that plugins and
`GameInit` itself register on the way; `startClients` is the block after the VM
call of `GAME_INIT`; `checkForUpdates` and `tearDown` are the beginning and the
end of the shutdown branch. -/
structure Recordsystem (σ : Type*) where
  gameInit : Int → Int → Int → σ → Bool × List (Q3EventHandler σ) × σ
  updateQuake3Cvars : σ → σ
  doMainThreadWork : σ → σ
  isInitilized : σ → Bool
  exec : Int → Vector Int 12 → σ → Int × σ
  explicitArgPtr : Int → σ → Int
  startClients : σ → σ
  checkForUpdates : σ → σ
  tearDown : σ → σ

/-- The registered handlers and the world they act on. -/
structure ProxyState (σ : Type*) where
  eventList : List (Q3EventHandler σ)
  world : σ

/-- Outcome of the first `switch`: the call returns early, or goes on to the VM. -/
inductive BeforeResult (σ : Type*) where
  | returns (ret : Int) (state : ProxyState σ)
  | forwards (ret : Int) (eventItem : Option Bool) (state : ProxyState σ)

/-- The `GAME_SHUTDOWN` branch. -/
def shutdownBranch (rs : Recordsystem σ) (command : Int) (arg : Vector Int 12) (state : ProxyState σ) :
    Int × ProxyState σ :=
  let event := executeEventVoid state.eventList command .executeTypeBefore arg none
    (rs.checkForUpdates state.world)
  let vm := if rs.isInitilized event.world then rs.exec command arg event.world else (0, event.world)
  (vm.1, { eventList := [], world := rs.tearDown vm.2 })

/-- `arg0`, the player number of the commands about one player. -/
def arg0 (arg : Vector Int 12) : Int := arg[0]

/-- `arg1`. -/
def arg1 (arg : Vector Int 12) : Int := arg[1]

/-- The first `switch` of `VmMain`. -/
def beforeForward (rs : Recordsystem σ) (command : Int) (arg : Vector Int 12) (state : ProxyState σ) :
    BeforeResult σ :=
  match GameExport.ofInt? command with
  | some .gameInit =>
      let init := rs.gameInit arg[0] arg[1] arg[2] state.world
      let eventList := state.eventList ++ init.2.1
      if init.1 then
        let event := executeEventVoid eventList command .executeTypeBefore arg none init.2.2
        .forwards 0 event.eventItem { eventList := eventList, world := event.world }
      else
        .returns 0 { eventList := eventList, world := init.2.2 }
  | some .gameRunFrame =>
      let event := executeEventVoid state.eventList command .executeTypeBefore arg none
        (rs.updateQuake3Cvars state.world)
      .forwards 0 event.eventItem { state with world := rs.doMainThreadWork event.world }
  | some .gameShutdown =>
      let done := shutdownBranch rs command arg state
      .returns done.1 done.2
  | some .gameClientConnect | some .botaiStartFrame =>
      let event := executeEventReturnArg state.eventList command .executeTypeBefore 0 arg none
        state.world
      if event.returnValue ≠ 0 then
        .returns event.returnValue { state with world := event.world }
      else
        .forwards event.returnValue event.eventItem { state with world := event.world }
  | some .gameClientThink | some .gameClientUserinfoChanged | some .gameClientDisconnect
  | some .gameClientBegin | some .gameClientCommand | some .gameConsoleCommand =>
      let event := executeEventVoid state.eventList command .executeTypeBefore arg none state.world
      if command = GameExport.gameClientCommand.toInt ∧ event.eventItem = some true then
        .returns 0 { state with world := event.world }
      else
        .forwards 0 event.eventItem { state with world := event.world }
  | none => .forwards 0 none state

/-- Forward to the VM, and for `GAME_INIT` the block that follows. -/
def forwardToVm (rs : Recordsystem σ) (command : Int) (arg : Vector Int 12) (ret : Int) (world : σ) :
    Int × σ :=
  let vm :=
    if rs.isInitilized world then
      let run := rs.exec command arg world
      if command = GameExport.gameClientConnect.toInt then (rs.explicitArgPtr run.1 run.2, run.2)
      else run
    else (ret, world)
  if command = GameExport.gameInit.toInt then (vm.1, rs.startClients vm.2) else vm

/-- The second `switch` of `VmMain`. The return functions are dispatched with
the BEFORE constant here too, where the void functions use the AFTER constant. -/
def afterForward (command : Int) (arg : Vector Int 12) (ret : Int) (eventItem : Option Bool)
    (state : ProxyState σ) : Int × ProxyState σ :=
  match GameExport.ofInt? command with
  | some .gameClientConnect | some .botaiStartFrame =>
      let event := executeEventReturnArg state.eventList command .executeTypeBefore ret arg eventItem
        state.world
      (event.returnValue, { state with world := event.world })
  | some .gameInit | some .gameRunFrame | some .gameClientThink | some .gameClientUserinfoChanged
  | some .gameClientDisconnect | some .gameClientBegin | some .gameClientCommand
  | some .gameConsoleCommand =>
      let event := executeEventVoid state.eventList command .executeTypeAfter arg eventItem state.world
      (ret, { state with world := event.world })
  | some .gameShutdown | none => (ret, state)

/-- `Recordsystem::VmMain`. -/
def vmMain (rs : Recordsystem σ) (command : Int) (arg : Vector Int 12) (state : ProxyState σ) :
    Int × ProxyState σ :=
  match beforeForward rs command arg state with
  | .returns ret state => (ret, state)
  | .forwards ret eventItem state =>
      let vm := forwardToVm rs command arg ret state.world
      afterForward command arg vm.1 eventItem { state with world := vm.2 }

/-!
### Instrumentation

Handlers and the VM call write to the log; everything else passes it on.
-/

/-- The collaborators over a world with a log. -/
def Recordsystem.logged (rs : Recordsystem σ) : Recordsystem (Logged σ) where
  gameInit := fun levelTime randomSeed restart w =>
    let init := rs.gameInit levelTime randomSeed restart w.1
    (init.1, init.2.1.map .logged, init.2.2, w.2)
  updateQuake3Cvars := fun w => (rs.updateQuake3Cvars w.1, w.2)
  doMainThreadWork := fun w => (rs.doMainThreadWork w.1, w.2)
  isInitilized := fun w => rs.isInitilized w.1
  exec := fun command arg w =>
    let run := rs.exec command arg w.1
    (run.1, run.2, w.2 ++ [.exec])
  explicitArgPtr := fun intValue w => rs.explicitArgPtr intValue w.1
  startClients := fun w => (rs.startClients w.1, w.2)
  checkForUpdates := fun w => (rs.checkForUpdates w.1, w.2)
  tearDown := fun w => (rs.tearDown w.1, w.2)

/-- The same state with instrumented handlers and a log. -/
def ProxyState.withLog (state : ProxyState σ) (log : List (LogEntry σ)) : ProxyState (Logged σ) :=
  { eventList := state.eventList.map .logged, world := (state.world, log) }

/-- The same outcome of the first `switch` with a log. -/
def BeforeResult.withLog (log : List (LogEntry σ)) : BeforeResult σ → BeforeResult (Logged σ)
  | .returns ret state => .returns ret (state.withLog log)
  | .forwards ret eventItem state => .forwards ret eventItem (state.withLog log)

/-- The handlers registered when the call dispatches its event: `GAME_INIT`
registers more on the way. -/
def dispatchList (rs : Recordsystem σ) (command : Int) (arg : Vector Int 12) (state : ProxyState σ) :
    List (Q3EventHandler σ) :=
  if command = GameExport.gameInit.toInt then
    state.eventList ++ (rs.gameInit arg[0] arg[1] arg[2] state.world).2.1
  else
    state.eventList

/-- What the first `switch` logs. -/
def beforeEntries (rs : Recordsystem σ) (command : Int) (arg : Vector Int 12) (state : ProxyState σ) :
    List (LogEntry σ) :=
  match GameExport.ofInt? command with
  | none => []
  | some .gameInit =>
      if (rs.gameInit arg[0] arg[1] arg[2] state.world).1 then
        handlerEntries (dispatchList rs command arg state) command .executeTypeBefore
      else []
  | some _ => handlerEntries state.eventList command .executeTypeBefore

/-- What the second `switch` logs. -/
def afterEntries (command : Int) (eventList : List (Q3EventHandler σ)) : List (LogEntry σ) :=
  match GameExport.ofInt? command with
  | none | some .gameShutdown => []
  | some .gameClientConnect | some .botaiStartFrame =>
      handlerEntries eventList command .executeTypeBefore
  | some _ => handlerEntries eventList command .executeTypeAfter

/-- What one call logs. -/
def vmMainEntries (rs : Recordsystem σ) (command : Int) (arg : Vector Int 12) (state : ProxyState σ) :
    List (LogEntry σ) :=
  beforeEntries rs command arg state ++
    match beforeForward rs command arg state with
    | .returns _ _ => []
    | .forwards _ _ next =>
        (if rs.isInitilized next.world then [.exec] else []) ++ afterEntries command next.eventList

theorem ofInt?_eq_some {command : Int} {export_ : GameExport}
    (selected : GameExport.ofInt? command = some export_) : command = export_.toInt := by
  unfold GameExport.ofInt? at selected
  split at selected <;> first | (cases selected; rfl) | cases selected

/-- The part before the VM call logs the handlers of its dispatch. -/
theorem beforeForward_logged (rs : Recordsystem σ) {command : Int}
    (noShutdown : command ≠ GameExport.gameShutdown.toInt) (arg : Vector Int 12) (state : ProxyState σ)
    (log : List (LogEntry σ)) :
    beforeForward rs.logged command arg (state.withLog log) =
      (beforeForward rs command arg state).withLog (log ++ beforeEntries rs command arg state) := by
  cases selected : GameExport.ofInt? command with
  | none => simp [beforeForward, beforeEntries, selected, BeforeResult.withLog]
  | some export_ =>
      have commandEq := ofInt?_eq_some selected
      subst commandEq
      cases export_ with
      | gameInit =>
          simp only [beforeForward, beforeEntries, selected, dispatchList, if_true,
            ProxyState.withLog, Recordsystem.logged, ← List.map_append, executeEventVoid_logged]
          split <;> simp [BeforeResult.withLog, ProxyState.withLog]
      | gameShutdown => exact absurd rfl noShutdown
      | gameRunFrame =>
          simp [beforeForward, beforeEntries, selected, ProxyState.withLog, Recordsystem.logged,
            executeEventVoid_logged, BeforeResult.withLog]
      | gameClientConnect | botaiStartFrame =>
          simp only [beforeForward, beforeEntries, selected, ProxyState.withLog,
            executeEventReturnArg_logged, withLog_returnValue, withLog_eventItem, withLog_world]
          split <;> simp [BeforeResult.withLog, ProxyState.withLog]
      | gameClientBegin | gameClientUserinfoChanged | gameClientDisconnect | gameClientCommand
      | gameClientThink | gameConsoleCommand =>
          simp only [beforeForward, beforeEntries, selected, ProxyState.withLog,
            executeEventVoid_logged, withLog_eventItem, withLog_world]
          split <;> simp [BeforeResult.withLog, ProxyState.withLog]

/-- The VM call is logged if there is a VM. -/
theorem forwardToVm_logged (rs : Recordsystem σ) (command : Int) (arg : Vector Int 12) (ret : Int)
    (world : σ) (log : List (LogEntry σ)) :
    forwardToVm rs.logged command arg ret (world, log) =
      ((forwardToVm rs command arg ret world).1, (forwardToVm rs command arg ret world).2,
        log ++ if rs.isInitilized world then [.exec] else []) := by
  by_cases initilized : rs.isInitilized world
  · have loggedInitilized : rs.logged.isInitilized (world, log) = true := initilized
    simp only [forwardToVm, initilized, loggedInitilized, if_true]
    split_ifs <;> rfl
  · have loggedInitilized : ¬rs.logged.isInitilized (world, log) := initilized
    simp only [forwardToVm, initilized, loggedInitilized, Bool.false_eq_true, if_false,
      List.append_nil]
    split_ifs <;> rfl

/-- The part after the VM call logs the handlers of its dispatch, whichever kind
they are. -/
theorem afterForward_logged (command : Int) (arg : Vector Int 12) (ret : Int)
    (eventItem : Option Bool) (state : ProxyState σ) (log : List (LogEntry σ)) :
    afterForward command arg ret eventItem (state.withLog log) =
      ((afterForward command arg ret eventItem state).1,
        (afterForward command arg ret eventItem state).2.withLog
          (log ++ afterEntries command state.eventList)) := by
  cases selected : GameExport.ofInt? command with
  | none => simp [afterForward, afterEntries, selected]
  | some export_ =>
      cases export_ <;>
        simp [afterForward, afterEntries, selected, ProxyState.withLog, executeEventVoid_logged,
          executeEventReturnArg_logged]

/-- A call over instrumented handlers returns what the call returned, does to
the world what the call did, and appends `vmMainEntries` to the log. -/
theorem vmMain_logged (rs : Recordsystem σ) {command : Int}
    (noShutdown : command ≠ GameExport.gameShutdown.toInt) (arg : Vector Int 12) (state : ProxyState σ)
    (log : List (LogEntry σ)) :
    vmMain rs.logged command arg (state.withLog log) =
      ((vmMain rs command arg state).1,
        (vmMain rs command arg state).2.withLog (log ++ vmMainEntries rs command arg state)) := by
  simp only [vmMain, vmMainEntries, beforeForward_logged rs noShutdown]
  cases before : beforeForward rs command arg state with
  | returns ret next => simp [BeforeResult.withLog]
  | forwards ret eventItem next =>
      have vm := forwardToVm_logged rs command arg ret next.world
        (log ++ beforeEntries rs command arg state)
      have after := afterForward_logged command arg
        (forwardToVm rs command arg ret next.world).1 eventItem
        { next with world := (forwardToVm rs command arg ret next.world).2 }
        (log ++ beforeEntries rs command arg state ++
          if rs.isInitilized next.world then [.exec] else [])
      simp only [BeforeResult.withLog, ProxyState.withLog] at after ⊢
      rw [vm]
      simpa [List.append_assoc] using after

/-!
### Each handler once, on its side of the VM call

What the log of a call should be, compared with the log it has, for every
command that is not `GAME_SHUTDOWN`.
-/

/-- The log of one call: which handlers it ran, in which order, and where the VM
call stood. -/
def vmMainLog (rs : Recordsystem σ) (command : Int) (arg : Vector Int 12) (state : ProxyState σ) :
    List (LogEntry σ) :=
  (vmMain rs.logged command arg (state.withLog [])).2.world.2

/-- The call ran the BEFORE handlers of the command once each, then the VM once,
then the AFTER handlers once each, the handlers in registration order, and
nothing else. -/
def DispatchesOnce (rs : Recordsystem σ) (command : Int) (arg : Vector Int 12) (state : ProxyState σ) :
    Prop :=
  vmMainLog rs command arg state =
    handlerEntries (dispatchList rs command arg state) command .executeTypeBefore ++
      .exec :: handlerEntries (dispatchList rs command arg state) command .executeTypeAfter

/-- The commands under "void functions!" in the second `switch`. -/
def isVoidFunction : GameExport → Bool
  | .gameInit | .gameRunFrame | .gameClientThink | .gameClientUserinfoChanged
  | .gameClientDisconnect | .gameClientBegin | .gameClientCommand | .gameConsoleCommand => true
  | .gameShutdown | .gameClientConnect | .botaiStartFrame => false

/-- No handler of the command is registered, in either phase. -/
def NoHandlerOf (command : Int) (eventList : List (Q3EventHandler σ)) : Prop :=
  ∀ handler ∈ eventList, handler.eventType ≠ command

/-- The log of an instrumented call is the list of entries computed from the handler
lists. -/
theorem vmMainLog_eq (rs : Recordsystem σ) {command : Int}
    (noShutdown : command ≠ GameExport.gameShutdown.toInt) (arg : Vector Int 12)
    (state : ProxyState σ) :
    vmMainLog rs command arg state = vmMainEntries rs command arg state := by
  rw [vmMainLog, vmMain_logged rs noShutdown]
  rfl

theorem exec_not_mem_handlerEntries (eventList : List (Q3EventHandler σ)) (command : Int)
    (executeType : Q3EventExecuteType) :
    LogEntry.exec ∉ handlerEntries eventList command executeType := by
  simp [handlerEntries]

theorem exec_not_mem_beforeEntries (rs : Recordsystem σ) (command : Int) (arg : Vector Int 12)
    (state : ProxyState σ) : LogEntry.exec ∉ beforeEntries rs command arg state := by
  unfold beforeEntries
  split
  · simp
  · split
    · exact exec_not_mem_handlerEntries _ _ _
    · simp
  · exact exec_not_mem_handlerEntries _ _ _

theorem handlerEntries_eq_nil_of_noHandlerOf {command : Int} {eventList : List (Q3EventHandler σ)}
    (unhooked : NoHandlerOf command eventList) (executeType : Q3EventExecuteType) :
    handlerEntries eventList command executeType = [] := by
  simp only [handlerEntries, matching, List.map_eq_nil_iff, List.filter_eq_nil_iff]
  intro handler registered
  simp [Q3EventHandler.matches?, unhooked handler registered]

theorem noHandlerOf_of_handlerEntries_eq_nil {command : Int} {eventList : List (Q3EventHandler σ)}
    (before : handlerEntries eventList command .executeTypeBefore = [])
    (after : handlerEntries eventList command .executeTypeAfter = []) :
    NoHandlerOf command eventList := by
  simp only [handlerEntries, matching, List.map_eq_nil_iff, List.filter_eq_nil_iff] at before after
  intro handler registered hooked
  cases phase : handler.executeType with
  | executeTypeBefore => exact before handler registered (by simp [Q3EventHandler.matches?, hooked, phase])
  | executeTypeAfter => exact after handler registered (by simp [Q3EventHandler.matches?, hooked, phase])

/-- Handlers of the two phases are different handlers, so the two lists only
agree when both are empty. -/
theorem handlerEntries_before_eq_after {command : Int} {eventList : List (Q3EventHandler σ)}
    (same : handlerEntries eventList command .executeTypeBefore =
      handlerEntries eventList command .executeTypeAfter) :
    NoHandlerOf command eventList := by
  have empty : handlerEntries eventList command .executeTypeBefore = [] := by
    rw [List.eq_nil_iff_forall_not_mem]
    intro entry inBefore
    have inAfter := same ▸ inBefore
    simp only [handlerEntries, matching, Q3EventHandler.matches?, List.mem_map, List.mem_filter,
      Bool.and_eq_true, beq_iff_eq] at inBefore inAfter
    obtain ⟨handler, ⟨_, _, isBefore⟩, rfl⟩ := inBefore
    obtain ⟨handler', ⟨_, _, isAfter⟩, sameHandler⟩ := inAfter
    cases sameHandler
    rw [isBefore] at isAfter
    cases isAfter
  exact noHandlerOf_of_handlerEntries_eq_nil empty (same ▸ empty)

/-- Where the first `switch` goes on to the VM, the registered handlers are the
ones it dispatched. -/
theorem eventList_of_forwards {rs : Recordsystem σ} {command : Int} {arg : Vector Int 12}
    {state next : ProxyState σ} {ret : Int} {eventItem : Option Bool}
    (forwarded : beforeForward rs command arg state = .forwards ret eventItem next) :
    next.eventList = dispatchList rs command arg state := by
  unfold beforeForward at forwarded
  split at forwarded
  case h_1 selected =>
    have commandEq := ofInt?_eq_some selected
    simp only at forwarded
    split at forwarded
    · cases forwarded
      simp [dispatchList, commandEq]
    · cases forwarded
  case h_3 selected => cases forwarded
  all_goals
    rename_i selected
    have other : command ≠ GameExport.gameInit.toInt := by
      rintro rfl
      simp at selected
    simp only [dispatchList, other, if_false]
    first
      | (cases forwarded; rfl)
      | (dsimp only at forwarded; split at forwarded <;> cases forwarded; rfl)

/-- The log of a call that reaches the VM. -/
theorem vmMainEntries_of_exec_mem {rs : Recordsystem σ} {command : Int} {arg : Vector Int 12}
    {state : ProxyState σ} (reached : LogEntry.exec ∈ vmMainEntries rs command arg state) :
    vmMainEntries rs command arg state =
      beforeEntries rs command arg state ++
        .exec :: afterEntries command (dispatchList rs command arg state) := by
  unfold vmMainEntries at reached ⊢
  cases before : beforeForward rs command arg state with
  | returns ret next =>
      simp only [before, List.append_nil] at reached
      exact absurd reached (exec_not_mem_beforeEntries rs command arg state)
  | forwards ret eventItem next =>
      have noExecAfter : LogEntry.exec ∉ afterEntries command next.eventList := by
        unfold afterEntries
        split <;> first | simp | exact exec_not_mem_handlerEntries _ _ _
      simp only [before, List.mem_append, noExecAfter, or_false] at reached
      rcases reached with inBefore | inVm
      · exact absurd inBefore (exec_not_mem_beforeEntries rs command arg state)
      · by_cases initilized : rs.isInitilized next.world
        · simp [initilized, eventList_of_forwards before]
        · simp [initilized] at inVm

/-- A call that reaches the VM has dispatched its command's BEFORE handlers. -/
theorem beforeEntries_of_exec_mem {rs : Recordsystem σ} {command : GameExport} {arg : Vector Int 12}
    {state : ProxyState σ} (reached : LogEntry.exec ∈ vmMainEntries rs command.toInt arg state) :
    beforeEntries rs command.toInt arg state =
      handlerEntries (dispatchList rs command.toInt arg state) command.toInt .executeTypeBefore := by
  cases command with
  | gameInit =>
      by_cases initOk : (rs.gameInit arg[0] arg[1] arg[2] state.world).1
      · simp [beforeEntries, initOk]
      · simp [vmMainEntries, beforeForward, beforeEntries, initOk] at reached
  | gameShutdown | gameClientConnect | gameClientBegin | gameClientUserinfoChanged
  | gameClientDisconnect | gameClientCommand | gameClientThink | gameRunFrame | gameConsoleCommand
  | botaiStartFrame =>
      simp only [beforeEntries, GameExport.ofInt?_toInt]
      rfl

/-- A command that returns a value is dispatched over the handlers as they are
at the start. -/
theorem dispatchList_of_not_void {rs : Recordsystem σ} {command : GameExport} {arg : Vector Int 12}
    {state : ProxyState σ} (returning : isVoidFunction command = false) :
    dispatchList rs command.toInt arg state = state.eventList := by
  cases command <;> first | rfl | cases returning

/-- For a call that reaches the VM, dispatching every handler once and on its
side of the VM call is the same as being a void function, or having no handler
to dispatch. -/
theorem vmMain_dispatches_iff (rs : Recordsystem σ) {command : Int}
    (noShutdown : command ≠ GameExport.gameShutdown.toInt) (arg : Vector Int 12)
    (state : ProxyState σ) (reached : LogEntry.exec ∈ vmMainLog rs command arg state) :
    DispatchesOnce rs command arg state ↔
      (∃ function, GameExport.ofInt? command = some function ∧ isVoidFunction function) ∨
        NoHandlerOf command state.eventList := by
  rw [vmMainLog_eq rs noShutdown] at reached
  rw [DispatchesOnce, vmMainLog_eq rs noShutdown, vmMainEntries_of_exec_mem reached]
  cases selected : GameExport.ofInt? command with
  | none =>
      -- outside the enumeration neither `switch` has a case, so nothing is dispatched at all
      have sameList : dispatchList rs command arg state = state.eventList := by
        have other : command ≠ GameExport.gameInit.toInt := by
          rintro rfl
          simp at selected
        simp [dispatchList, other]
      simp only [beforeEntries, afterEntries, selected, sameList, List.nil_append]
      constructor
      · intro dispatched
        have lengths := congrArg List.length dispatched
        simp only [List.length_cons, List.length_append, List.length_nil] at lengths
        exact .inr (noHandlerOf_of_handlerEntries_eq_nil
          (List.length_eq_zero_iff.mp (by omega)) (List.length_eq_zero_iff.mp (by omega)))
      · rintro (⟨function, impossible, _⟩ | unhooked)
        · cases impossible
        · simp [handlerEntries_eq_nil_of_noHandlerOf unhooked]
  | some function =>
      have commandEq := ofInt?_eq_some selected
      subst commandEq
      rw [beforeEntries_of_exec_mem reached]
      cases kind : isVoidFunction function with
      | true =>
          have after : afterEntries function.toInt (dispatchList rs function.toInt arg state) =
              handlerEntries (dispatchList rs function.toInt arg state) function.toInt
                .executeTypeAfter := by
            cases function <;> first | rfl | cases kind
          simp [after, kind]
      | false =>
          -- the second `switch` runs the BEFORE handlers again
          have after : afterEntries function.toInt (dispatchList rs function.toInt arg state) =
              handlerEntries (dispatchList rs function.toInt arg state) function.toInt
                .executeTypeBefore := by
            cases function <;> first | exact absurd rfl noShutdown | rfl | cases kind
          rw [after, dispatchList_of_not_void kind]
          simp only [Option.some.injEq, exists_eq_left', kind, Bool.false_eq_true, false_or,
            List.append_cancel_left_eq, List.cons.injEq, true_and]
          constructor
          · exact handlerEntries_before_eq_after
          · intro unhooked
            simp [handlerEntries_eq_nil_of_noHandlerOf unhooked]

/-!
### The two `switch` statements on one concrete proxy

A proxy with one handler before the VM call and none after it.
`GAME_CLIENT_THINK` runs the handler once, `GAME_CLIENT_CONNECT` twice.
-/

/-- A proxy with an initialised VM that returns 0 and collaborators that change
nothing. -/
def idleRecordsystem : Recordsystem Unit where
  gameInit := fun _ _ _ w => (true, [], w)
  updateQuake3Cvars := id
  doMainThreadWork := id
  isInitilized := fun _ => true
  exec := fun _ _ w => (0, w)
  explicitArgPtr := fun intValue _ => intValue
  startClients := id
  checkForUpdates := id
  tearDown := id

/-- The handler `UserManagementPlugin` registers for connecting clients, with a
body that returns 0. -/
def connectHandler : Q3EventHandler Unit where
  eventType := GameExport.gameClientConnect.toInt
  executeType := .executeTypeBefore
  callback := fun e w => (e, w)

/-- A thinking player: one handler before the VM, and nothing after it. -/
theorem vmMain_dispatches_iff_clientThink :
    let command := GameExport.gameClientThink.toInt
    let state : ProxyState Unit :=
      { eventList := [{ connectHandler with eventType := command }], world := () }
    DispatchesOnce idleRecordsystem command (Vector.replicate 12 0) state := by
  intro command state
  have log : vmMainLog idleRecordsystem command (Vector.replicate 12 0) state =
      [.handler { connectHandler with eventType := command }, .exec] := rfl
  refine (vmMain_dispatches_iff idleRecordsystem (by decide) _ _ ?_).mpr
    (.inl ⟨.gameClientThink, rfl, rfl⟩)
  simp [log]

/-- One connecting player runs the connect handler twice, before and after the
VM. -/
theorem vmMain_connect_runs_before_handler_twice :
    LogEntry.exec ∈ vmMainLog idleRecordsystem GameExport.gameClientConnect.toInt (Vector.replicate 12 0)
        { eventList := [connectHandler], world := () } ∧
      ¬DispatchesOnce idleRecordsystem GameExport.gameClientConnect.toInt (Vector.replicate 12 0)
        { eventList := [connectHandler], world := () } := by
  have log : vmMainLog idleRecordsystem GameExport.gameClientConnect.toInt (Vector.replicate 12 0)
      { eventList := [connectHandler], world := () } =
        [.handler connectHandler, .exec, .handler connectHandler] := rfl
  constructor
  · simp [log]
  · intro dispatched
    -- three entries in the log where the hooks allow two
    have lengths : 3 = 2 := congrArg List.length dispatched
    cases lengths

end Q3df.Client
