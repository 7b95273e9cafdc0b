/-
Module: Q3df.Client.SlotEvents
Layer: Client
Purpose: The proxy simulates one small machine for each slot. Every step of a run makes the moves
  `slotEvents` lists, which depend on the command, its arguments and the refusing cvar only: a
  connect that is let through moves its slot before the VM and again behind it.
Imports: Mathlib.Tactic.SplitIfs, Q3df.Client.StepWorlds
Trusted boundary: none
Main exports: slotEvents, view_step, slotHistory, view_run
Open obligations: none
-/
import Mathlib.Tactic.SplitIfs
import Q3df.Client.StepWorlds

namespace Q3df.Client

open Q3df.Transition

/-- The slot's part of the engine's preparations. -/
def storedEvents (command : Int) (arg : Vector Int 12) (inputs : CallInputs) (q : Slot) :
    List SlotEvent :=
  match GameExport.ofInt? command, inputs.userinfo with
  | some .gameClientConnect, some info | some .gameClientUserinfoChanged, some info =>
      if slotOf? (arg0 arg) = some q then [.engineStores info] else []
  | _, _ => []

/-- The slot's part of a dispatch of the BEFORE handlers. -/
def handlerEvents (rsNoNewClients : Int) (command : Int) (arg : Vector Int 12) (uuid : CString)
    (q : Slot) : List SlotEvent :=
  match GameExport.ofInt? command with
  | some .gameClientConnect =>
      if slotOf? (arg0 arg) = some q ∧ rsNoNewClients ≠ 1 then [.connected (arg1 arg = 1) uuid] else []
  | some .gameClientUserinfoChanged => if slotOf? (arg0 arg) = some q then [.userinfoChanged] else []
  | some .gameClientBegin => if slotOf? (arg0 arg) = some q then [.began] else []
  | some .gameClientDisconnect => if slotOf? (arg0 arg) = some q then [.disconnected] else []
  | _ => []

/-- What a step of the proxy does to a slot. -/
def slotEvents (s : ProxyRun) (q : Slot) : ProxyAction → List SlotEvent
  | .vmMain command arg inputs =>
      if command = GameExport.gameShutdown.toInt then
        inputs.shutdownTraps.filterMap (fun trap => if trap.1 = q then some (.engineStores trap.2) else none)
          ++ [.reset]
      else
        storedEvents command arg inputs q ++
          handlerEvents s.proxy.world.rsNoNewClients command arg inputs.randomUuid q
  | .setUserinfo uninitialized slot info =>
      if uninitialized.handled = some false ∧ slot = q then [.engineStores info] else []
  | .vmReturns inputs =>
      match s.calls with
      | [] => []
      | call :: _ =>
          if call.command = GameExport.gameInit.toInt then [.reset]
          else if call.command = GameExport.gameClientConnect.toInt then
            handlerEvents s.proxy.world.rsNoNewClients call.command call.arg inputs.nextUuid q
          else []

/-!
### The slot's part of a step

What a step of the proxy means for one slot, as the list of its events. The
dispatches for other slots have none.
-/

section Dispatch

variable {w : ProxyWorld} {q : Slot} {arg : Vector Int 12}

theorem prepare_cvar {command : Int} {inputs : CallInputs} :
    (prepare command arg inputs w).rsNoNewClients = w.rsNoNewClients := by
  unfold prepare
  dsimp only
  split <;> rfl

theorem prepare_uuid {command : Int} {inputs : CallInputs} :
    (prepare command arg inputs w).randomUuid = inputs.randomUuid := by
  unfold prepare
  dsimp only
  split <;> rfl

/-- The engine's own copy of a userinfo. -/
theorem view_engineUserinfo {p : Slot} {info : InfoString} :
    (w.engineUserinfo p info).view q =
      (if p = q then [SlotEvent.engineStores info] else []).foldl SlotView.next (w.view q) := by
  by_cases same : p = q
  · subst same
    simp [ProxyWorld.engineUserinfo, ProxyWorld.view, ProxyWorld.sessionLog, SlotView.next]
  · simp [ProxyWorld.engineUserinfo, ProxyWorld.view, ProxyWorld.sessionLog, same, Ne.symm same]

/-- The traps before the dispatch are stores of the engine for the slots they
name. -/
theorem view_prepare {command : Int} {inputs : CallInputs} :
    (prepare command arg inputs w).view q =
      (storedEvents command arg inputs q).foldl SlotView.next (w.view q) := by
  have stored {p : Slot} {info : InfoString} :
      (w.engineUserinfo p info).view q =
        (if some p = some q then [SlotEvent.engineStores info] else []).foldl SlotView.next
          (w.view q) := by
    simp only [view_engineUserinfo, Option.some.injEq]
  unfold prepare storedEvents
  dsimp only
  split
  case h_1 playernum info isConnect named given =>
    rw [isConnect, given]
    dsimp only
    rw [named]
    exact stored
  case h_2 playernum info isChange named given =>
    rw [isChange, given]
    dsimp only
    rw [named]
    exact stored
  case h_3 noConnect noChange =>
    split
    case h_1 info isConnect given =>
      cases named : slotOf? (arg0 arg) with
      | none => simp [ProxyWorld.view, ProxyWorld.sessionLog]
      | some playernum => exact absurd given (noConnect playernum info isConnect named)
    case h_2 info isChange given =>
      cases named : slotOf? (arg0 arg) with
      | none => simp [ProxyWorld.view, ProxyWorld.sessionLog]
      | some playernum => exact absurd given (noChange playernum info isChange named)
    case h_3 => rfl

/-- A handler for one slot that always makes the same move. -/
theorem view_handler {run : Slot → ProxyWorld → ProxyWorld} {event : SlotEvent} {p : Slot}
    (same : ∀ p w, (run p w).view p = (w.view p).next event)
    (other : ∀ p q w, q ≠ p → (run p w).view q = w.view q) :
    (run p w).view q = (if some p = some q then [event] else []).foldl SlotView.next (w.view q) := by
  by_cases mine : q = p
  · subst mine
    simp [same]
  · simp [other p q w mine, Ne.symm mine]

/-- A connect that is let in is an event of its slot. One that is refused is no
event. -/
theorem view_onClientConnected {p : Slot} {isFirstTime : Bool} :
    (UserManagementPlugin.onClientConnected p isFirstTime w).2.view q =
      (if some p = some q ∧ w.rsNoNewClients ≠ 1 then
        [SlotEvent.connected isFirstTime w.randomUuid] else []).foldl SlotView.next (w.view q) := by
  by_cases closed : w.rsNoNewClients = 1
  · simp [onClientConnected_denied closed, closed]
  · by_cases mine : q = p
    · subst mine
      simp [view_onClientConnected_same closed, closed]
    · simp [view_onClientConnected_other mine, Ne.symm mine]

/-- The BEFORE handlers move their own slot only. -/
theorem view_handled {command : Int} : (handled command arg w).view q =
    (handlerEvents w.rsNoNewClients command arg w.randomUuid q).foldl SlotView.next (w.view q) := by
  unfold handled handlerEvents
  cases GameExport.ofInt? command with
  | none => rfl
  | some export_ =>
      cases named : slotOf? (arg0 arg) with
      | none => cases export_ <;> simp [view_onVmMainShutdown]
      | some p =>
          cases export_ with
          | gameInit | gameClientThink | gameRunFrame | gameConsoleCommand | botaiStartFrame => rfl
          | gameShutdown => exact view_onVmMainShutdown
          | gameClientCommand => exact view_onGameClientCommand
          | gameClientConnect => exact view_onClientConnected
          | gameClientBegin =>
              exact view_handler (fun p w => view_onClientBegin_same)
                (fun p q w other => view_onClientBegin_other other)
          | gameClientUserinfoChanged =>
              exact view_handler (fun p w => view_onClientUserInfoChanged_same)
                (fun p q w other => view_onClientUserInfoChanged_other other)
          | gameClientDisconnect =>
              exact view_handler (fun p w => view_onClientDisconnected_same)
                (fun p q w other => view_onClientDisconnected_other other)

/-- Replies to outstanding calls move no slot. -/
theorem view_finishCalls (outcomes : List CallOutcome) (w : ProxyWorld) :
    (w.finishCalls outcomes).view q = w.view q := by
  induction outcomes generalizing w with
  | nil => rfl
  | cons outcome outcomes inductionHypothesis =>
      rw [ProxyWorld.finishCalls]
      split
      · rfl
      · rw [inductionHypothesis, view_runCallback]

/-- The end of the process resets the slot. -/
theorem view_tearDown {outcomes : List CallOutcome} :
    (w.tearDown outcomes).view q = (w.view q).next .reset := by
  rw [← view_finishCalls outcomes w]
  rfl

/-- What the VM sets before it is shut down. -/
theorem view_shutdownTraps (traps : List (Slot × InfoString)) (w : ProxyWorld) :
    (traps.foldl (fun w trap => w.engineUserinfo trap.1 trap.2) w).view q =
      (traps.filterMap fun trap =>
        if trap.1 = q then some (SlotEvent.engineStores trap.2) else none).foldl SlotView.next
          (w.view q) := by
  induction traps generalizing w with
  | nil => rfl
  | cons trap traps inductionHypothesis =>
      rw [List.foldl_cons, inductionHypothesis, view_engineUserinfo]
      by_cases mine : trap.1 = q <;> simp [mine]

/-- The first `switch` moves the slots as the BEFORE handlers do. -/
theorem view_firstSwitch {command : Int} {inputs : CallInputs} :
    (firstSwitchWorld command arg inputs w).view q =
      (handlerEvents w.rsNoNewClients command arg w.randomUuid q).foldl SlotView.next (w.view q) := by
  unfold firstSwitchWorld
  by_cases isFrame : command = GameExport.gameRunFrame.toInt
  · subst isFrame
    rw [if_pos rfl, view_finishCalls]
    rfl
  · rw [if_neg isFrame, view_handled]

theorem view_shutdown {inputs : CallInputs} :
    (shutdownWorld inputs w).view q =
      ((inputs.shutdownTraps.filterMap fun (trap : Slot × InfoString) =>
        if trap.1 = q then some (SlotEvent.engineStores trap.2) else none) ++
          [SlotEvent.reset]).foldl SlotView.next (w.view q) := by
  rw [List.foldl_append, shutdownWorld, view_tearDown]
  refine congrArg (fun v : SlotView => v.next .reset) ?_
  exact view_shutdownTraps inputs.shutdownTraps (UserManagementPlugin.onVmMainShutdown w)

/-- Behind the VM, `GAME_INIT` resets the slots and a connect is handled again. -/
theorem view_returned {call : VmCall} {inputs : CallInputs} :
    (returnedWorld call inputs w).view q =
      (if call.command = GameExport.gameInit.toInt then [.reset]
      else if call.command = GameExport.gameClientConnect.toInt then
        handlerEvents w.rsNoNewClients call.command call.arg inputs.nextUuid q
      else []).foldl SlotView.next (w.view q) := by
  unfold returnedWorld
  dsimp only
  split
  · rfl
  · split
    · exact view_handled
    · split
      · exact view_onGameRunFrame
      · rfl

end Dispatch

/-!
### Steps and runs

The view of a slot after a step is its view before, moved along the slot's
events. For a run the events are put one behind the other.
-/

variable {s t : ProxyRun} {action : ProxyAction} {actions : List ProxyAction}

/-- A step moves the slot along the events of this step. -/
theorem view_stepWorld {q : Slot} :
    (stepWorld s action).view q = (slotEvents s q action).foldl SlotView.next (s.proxy.world.view q) := by
  cases action with
  | vmMain command arg inputs =>
      unfold stepWorld slotEvents
      dsimp only
      by_cases isInit : command = GameExport.gameInit.toInt
      · subst isInit
        rw [if_pos rfl, if_neg (by decide)]
        rfl
      · rw [if_neg isInit]
        by_cases isShutdown : command = GameExport.gameShutdown.toInt
        · subst isShutdown
          rw [if_pos rfl, if_pos rfl, view_shutdown, view_prepare]
          rfl
        · rw [if_neg isShutdown, if_neg isShutdown, view_firstSwitch, view_prepare, prepare_cvar,
            prepare_uuid, List.foldl_append]
  | setUserinfo uninitialized slot info =>
      unfold stepWorld slotEvents
      dsimp only
      by_cases stored : uninitialized.handled = some false
      · rw [if_pos stored, view_engineUserinfo]
        simp only [stored, true_and]
      · simp [stored]
  | vmReturns inputs =>
      unfold stepWorld slotEvents
      cases s.calls with
      | nil => rfl
      | cons call calls => exact view_returned

/-- One step makes the slot's moves, and the handlers stay registered. -/
theorem view_step (registered : Registered s) (stepped : s.step action = some t) :
    Registered t ∧ ∀ q, t.proxy.world.view q =
      (slotEvents s q action).foldl SlotView.next (s.proxy.world.view q) := by
  obtain ⟨stillRegistered, made⟩ := step_world registered stepped
  refine ⟨stillRegistered, ?_⟩
  intro q
  rw [made, view_stepWorld]

/-- What a run does to a slot. -/
def slotHistory (q : Slot) : ProxyRun → List ProxyAction → List SlotEvent
  | _, [] => []
  | s, action :: actions =>
      slotEvents s q action ++
        match s.step action with
        | some t => slotHistory q t actions
        | none => []

/-- A run makes the slot's moves, one step after the other. -/
theorem view_run (registered : Registered s) (ran : run ProxyRun.step s actions = some t) :
    Registered t ∧ ∀ q, t.proxy.world.view q =
      (slotHistory q s actions).foldl SlotView.next (s.proxy.world.view q) := by
  induction actions generalizing s with
  | nil =>
      cases ran
      exact ⟨registered, fun q => rfl⟩
  | cons action actions inductionHypothesis =>
      obtain ⟨u, first, rest⟩ := run_cons_eq_some.mp ran
      obtain ⟨stillRegistered, moved⟩ := view_step registered first
      obtain ⟨last, movedRest⟩ := inductionHypothesis stillRegistered rest
      refine ⟨last, ?_⟩
      intro q
      rw [movedRest, moved, ← List.foldl_append, slotHistory, first]

end Q3df.Client
