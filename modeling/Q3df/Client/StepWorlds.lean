/-
Module: Q3df.Client.StepWorlds
Layer: Client
Purpose: The world after each step of a run, as one function of the world before it: what the BEFORE
  handlers of a command do, what the first `switch` does for the commands that start or end no map,
  and what is left of a call when the VM returns. Whatever is to be known about a step is read off
  here; for a property of the users and login cvars, `KeptAt` says what is to be shown.
Imports: Mathlib.Tactic.SplitIfs, Q3df.Client.ProxyRun, Q3df.Client.TrapForwarding
Trusted boundary: none
Main exports: handled, firstSwitchWorld, returnedWorld, stepWorld, Registered, step_world,
  UserProperty, KeptAt
Open obligations: none
-/
import Mathlib.Tactic.SplitIfs
import Q3df.Client.ProxyRun
import Q3df.Client.TrapForwarding

namespace Q3df.Client

open Q3df.Transition

/-- What the BEFORE handlers of a command make of the world. -/
def handled (command : Int) (arg : Vector Int 12) (w : ProxyWorld) : ProxyWorld :=
  match GameExport.ofInt? command, slotOf? (arg0 arg) with
  | some .gameClientConnect, some playernum =>
      (UserManagementPlugin.onClientConnected playernum (arg1 arg = 1) w).2
  | some .gameClientDisconnect, some playernum => UserManagementPlugin.onClientDisconnected playernum w
  | some .gameClientUserinfoChanged, some playernum =>
      UserManagementPlugin.onClientUserInfoChanged playernum w
  | some .gameClientBegin, some playernum => UserManagementPlugin.onClientBegin playernum w
  | some .gameClientCommand, some playernum => (UserCommandsPlugin.onGameClientCommand playernum w).2
  | some .gameShutdown, _ => UserManagementPlugin.onVmMainShutdown w
  | _, _ => w

/-- The first `switch` of a command that neither starts nor ends a map. -/
def firstSwitchWorld (command : Int) (arg : Vector Int 12) (inputs : CallInputs) (w : ProxyWorld) :
    ProxyWorld :=
  if command = GameExport.gameRunFrame.toInt then (w.setCvars inputs.cvars).finishCalls inputs.outcomes
  else handled command arg w

/-- The rest of a call: the VM has run, `GAME_INIT` makes new users, and the
second `switch` dispatches. -/
def returnedWorld (call : VmCall) (inputs : CallInputs) (w : ProxyWorld) : ProxyWorld :=
  let w : ProxyWorld := { w with randomUuid := inputs.nextUuid }
  if call.command = GameExport.gameInit.toInt then w.resetUsers
  else if call.command = GameExport.gameClientConnect.toInt then handled call.command call.arg w
  else if call.command = GameExport.gameRunFrame.toInt then UserCommandsPlugin.onGameRunFrame w
  else w

/-- The world behind `GAME_SHUTDOWN`: the handlers, what the VM sets while it is
shut down, the rest. -/
def shutdownWorld (inputs : CallInputs) (w : ProxyWorld) : ProxyWorld :=
  let w := inputs.shutdownTraps.foldl (fun w trap => w.engineUserinfo trap.1 trap.2)
    (UserManagementPlugin.onVmMainShutdown w)
  ({ w with randomUuid := inputs.nextUuid } : ProxyWorld).tearDown inputs.outcomes

/-- The world after a step. -/
def stepWorld (s : ProxyRun) : ProxyAction → ProxyWorld
  | .vmMain command arg inputs =>
      let w := prepare command arg inputs s.proxy.world
      if command = GameExport.gameInit.toInt then w.setCvars inputs.cvars
      else if command = GameExport.gameShutdown.toInt then shutdownWorld inputs w
      else firstSwitchWorld command arg inputs w
  | .setUserinfo uninitialized slot info =>
      if uninitialized.handled = some false then s.proxy.world.engineUserinfo slot info
      else s.proxy.world
  | .vmReturns inputs =>
      match s.calls with
      | [] => s.proxy.world
      | call :: _ => returnedWorld call inputs s.proxy.world

/-- The plugins' handlers are registered whenever a call is open. -/
def Registered (s : ProxyRun) : Prop :=
  s.proxy.eventList = [] ∧ s.calls = [] ∨ ∃ vmString, s.proxy.eventList = pluginHandlers vmString

/-!
### The trap

The VM stores a userinfo through the trap `G_SET_USERINFO`. The slot comes in as
a word.
-/

theorem slotOf?_ofNat (slot : Slot) : slotOf? (BitVec.ofNat 32 slot).toInt = some slot := by
  have small : (BitVec.ofNat 32 slot).toInt = (slot.val : Int) := by
    have bound : slot.val < 64 := slot.isLt
    rw [BitVec.toInt_eq_toNat_of_lt (by simp; omega), BitVec.toNat_ofNat, Nat.mod_eq_of_lt (by omega)]
  have inRange : 0 ≤ (slot.val : Int) ∧ (slot.val : Int) < maxClients := by omega
  rw [small, slotOf?, dif_pos inRange]
  simp

/-- The trap of the VM: no handler of the VM's list looks at it, so the engine
stores the string unless the uninitialised pointer reads as handled. -/
theorem vmSetUserinfo_eq (uninitialized : EventItem) (slot : Slot) (info : InfoString)
    (userinfo : Slot → InfoString) :
    vmSetUserinfo uninitialized slot info userinfo = uninitialized.handled.map fun handled =>
      if handled then userinfo else Function.update userinfo slot info := by
  have unhooked (executeType : Q3EventExecuteType) : @matching (EngineWorld (Slot → InfoString))
      vmSyscallHandlers GameImport.gSetUserinfo.toInt executeType = [] := by
    cases executeType <;> rfl
  rw [vmSetUserinfo, Q3SysCall.setUserinfo, eventCall_unhooked unhooked]
  cases uninitialized.handled with
  | none => rfl
  | some handled =>
      cases handled with
      | true => rfl
      | false =>
          simp only [Option.map_some, Q3SysCall.forward, engineCall, engineSetUserinfo,
            GameImport.ofInt?_toInt, VarArg.words, List.flatMap_cons, List.cons_append, List.nil_append,
            slotOf?_ofNat]
          rfl

/-!
### The dispatches

A dispatch over the plugins' own handlers, written as what it does to the world.
-/

section Dispatch

variable {vmString : Int → InfoString} {arg : Vector Int 12} {eventItem : Option Bool} {w : ProxyWorld}

/-- The world behind a handler for the slot its first parameter names. -/
theorem forSlot_world {run : Slot → Q3EventArgs → ProxyWorld → Q3EventArgs × ProxyWorld}
    {e : Q3EventArgs} :
    (forSlot run e w).2 = (slotOf? (e.getParam 0)).elim w fun playernum => (run playernum e w).2 := by
  unfold forSlot
  cases slotOf? (e.getParam 0) <;> rfl

/-- A handler for a slot does nothing when the argument names none. -/
theorem slotHandler_world {run : Slot → ProxyWorld → ProxyWorld} {e : Q3EventArgs} :
    (slotHandler run e w).2 = (slotOf? (e.getParam 0)).elim w fun playernum => run playernum w :=
  forSlot_world

/-- A dispatch of the BEFORE handlers of a void command. -/
theorem executeBefore_world {export_ : GameExport} (noConnect : export_ ≠ .gameClientConnect) :
    (executeEventVoid (pluginHandlers vmString) export_.toInt .executeTypeBefore arg eventItem w).world =
      handled export_.toInt arg w := by
  rw [handled, GameExport.ofInt?_toInt]
  cases export_ with
  | gameClientConnect => exact absurd rfl noConnect
  | gameInit | gameClientThink | gameRunFrame | gameConsoleCommand | botaiStartFrame =>
      rw [executeEventVoid_none rfl]
  | gameShutdown =>
      have only : matching (pluginHandlers vmString) GameExport.gameShutdown.toInt .executeTypeBefore =
          [⟨_, _, fun e w => (e, UserManagementPlugin.onVmMainShutdown w)⟩] := rfl
      rw [executeEventVoid_one only]
  | gameClientCommand =>
      have only : matching (pluginHandlers vmString) GameExport.gameClientCommand.toInt .executeTypeBefore =
          [⟨_, _, forSlot UserCommandsPlugin.gameClientCommandHandler⟩] := rfl
      rw [executeEventVoid_one only]
      refine forSlot_world.trans ?_
      show (slotOf? (arg0 arg)).elim _ _ = _
      cases slotOf? (arg0 arg) <;> rfl
  | gameClientBegin =>
      have only : matching (pluginHandlers vmString) GameExport.gameClientBegin.toInt .executeTypeBefore =
          [⟨_, _, slotHandler UserManagementPlugin.onClientBegin⟩] := rfl
      rw [executeEventVoid_one only]
      refine slotHandler_world.trans ?_
      show (slotOf? (arg0 arg)).elim _ _ = _
      cases slotOf? (arg0 arg) <;> rfl
  | gameClientUserinfoChanged =>
      have only : matching (pluginHandlers vmString) GameExport.gameClientUserinfoChanged.toInt
          .executeTypeBefore = [⟨_, _, slotHandler UserManagementPlugin.onClientUserInfoChanged⟩] := rfl
      rw [executeEventVoid_one only]
      refine slotHandler_world.trans ?_
      show (slotOf? (arg0 arg)).elim _ _ = _
      cases slotOf? (arg0 arg) <;> rfl
  | gameClientDisconnect =>
      have only : matching (pluginHandlers vmString) GameExport.gameClientDisconnect.toInt
          .executeTypeBefore = [⟨_, _, slotHandler UserManagementPlugin.onClientDisconnected⟩] := rfl
      rw [executeEventVoid_one only]
      refine slotHandler_world.trans ?_
      show (slotOf? (arg0 arg)).elim _ _ = _
      cases slotOf? (arg0 arg) <;> rfl

/-- A dispatch of the BEFORE handlers of the connect, in either `switch`. -/
theorem executeConnect_world {returnValue : Int} :
    (executeEventReturnArg (pluginHandlers vmString) GameExport.gameClientConnect.toInt .executeTypeBefore
        returnValue arg eventItem w).world = handled GameExport.gameClientConnect.toInt arg w := by
  have only : matching (pluginHandlers vmString) GameExport.gameClientConnect.toInt .executeTypeBefore =
      [⟨_, _, forSlot UserManagementPlugin.connectedHandler⟩] := rfl
  rw [(executeEventReturnArg_one only).1, handled, GameExport.ofInt?_toInt]
  refine forSlot_world.trans ?_
  show (slotOf? (arg0 arg)).elim _ _ = _
  cases slotOf? (arg0 arg) <;> rfl

/-- A dispatch of the AFTER handlers. -/
theorem executeAfter_world {export_ : GameExport} :
    (executeEventVoid (pluginHandlers vmString) export_.toInt .executeTypeAfter arg eventItem w).world =
      if export_ = .gameRunFrame then UserCommandsPlugin.onGameRunFrame w else w := by
  by_cases isFrame : export_ = .gameRunFrame
  · subst isFrame
    have only : matching (pluginHandlers vmString) GameExport.gameRunFrame.toInt .executeTypeAfter =
        [⟨_, _, fun e w => (e, UserCommandsPlugin.onGameRunFrame w)⟩] := rfl
    rw [executeEventVoid_one only, if_pos rfl]
  · rw [if_neg isFrame, executeEventVoid_none]
    cases export_ <;> first | rfl | exact absurd rfl isFrame

end Dispatch

/-!
### The three parts of `VmMain`

What comes before the VM call, the call, and what comes after it. Between them
the list of handlers stays.
-/

section Parts

variable {vmString : Int → InfoString} {state : ProxyState ProxyWorld} {command : Int}
  {arg : Vector Int 12} {inputs : CallInputs}

/-- The commands of the first `switch` that return nothing and do nothing else. -/
theorem beforeForward_void {export_ : GameExport} {world : ProxyWorld}
    (isVoid : export_ ∈ [.gameClientThink, .gameClientUserinfoChanged, .gameClientDisconnect,
      .gameClientBegin, .gameClientCommand, .gameConsoleCommand])
    (made : (executeEventVoid state.eventList export_.toInt .executeTypeBefore arg none
      state.world).world = world) :
    let next : ProxyState ProxyWorld := { state with world := world }
    (∃ ret, beforeForward (recordsystem inputs) export_.toInt arg state = .returns ret next) ∨
      ∃ ret eventItem,
        beforeForward (recordsystem inputs) export_.toInt arg state = .forwards ret eventItem next := by
  intro next
  let event := executeEventVoid state.eventList export_.toInt .executeTypeBefore arg none state.world
  have branch : beforeForward (recordsystem inputs) export_.toInt arg state =
      if export_.toInt = GameExport.gameClientCommand.toInt ∧ event.eventItem = some true then
        .returns 0 { state with world := event.world }
      else .forwards 0 event.eventItem { state with world := event.world } := by
    simp only [List.mem_cons, List.not_mem_nil, or_false] at isVoid
    rcases isVoid with rfl | rfl | rfl | rfl | rfl | rfl <;>
      simp only [beforeForward, GameExport.ofInt?_toInt] <;> rfl
  have same : event.world = world := made
  rw [branch, same]
  split
  · exact .inl ⟨0, rfl⟩
  · exact .inr ⟨0, event.eventItem, rfl⟩

/-- The first `switch`, whether the call returns there or goes on to the VM. -/
theorem beforeForward_world (registered : state.eventList = pluginHandlers vmString)
    (noInit : command ≠ GameExport.gameInit.toInt)
    (noShutdown : command ≠ GameExport.gameShutdown.toInt) :
    let next : ProxyState ProxyWorld :=
      { state with world := firstSwitchWorld command arg inputs state.world }
    (∃ ret, beforeForward (recordsystem inputs) command arg state = .returns ret next) ∨
      ∃ ret eventItem, beforeForward (recordsystem inputs) command arg state =
        .forwards ret eventItem next := by
  intro next
  cases selected : GameExport.ofInt? command with
  | none =>
      refine .inr ⟨0, none, ?_⟩
      have noFrame : command ≠ GameExport.gameRunFrame.toInt := by
        rintro rfl
        cases selected
      rw [beforeForward, selected]
      simp only [next, firstSwitchWorld, if_neg noFrame, handled, selected]
  | some export_ =>
      have commandEq := ofInt?_eq_some selected
      subst commandEq
      cases export_ with
      | gameInit => exact absurd rfl noInit
      | gameShutdown => exact absurd rfl noShutdown
      | gameClientConnect =>
          have made : (executeEventReturnArg state.eventList GameExport.gameClientConnect.toInt
              .executeTypeBefore 0 arg none state.world).world = next.world := by
            rw [registered]
            exact executeConnect_world
          simp only [beforeForward, selected, made]
          split
          · exact .inl ⟨_, rfl⟩
          · exact .inr ⟨_, _, rfl⟩
      | botaiStartFrame =>
          have unhooked : matching state.eventList GameExport.botaiStartFrame.toInt .executeTypeBefore =
              [] := by
            rw [registered]
            rfl
          let event := executeEventReturnArg state.eventList GameExport.botaiStartFrame.toInt
            .executeTypeBefore 0 arg none state.world
          have silent : event.world = state.world ∧ event.returnValue = 0 :=
            executeEventReturnArg_none unhooked
          refine .inr ⟨0, event.eventItem, ?_⟩
          simp only [beforeForward, selected]
          rw [if_neg (not_not.mpr silent.2), silent.2, silent.1]
          rfl
      | gameRunFrame =>
          let event := executeEventVoid state.eventList GameExport.gameRunFrame.toInt .executeTypeBefore
            arg none (state.world.setCvars inputs.cvars)
          have silent : event.world = state.world.setCvars inputs.cvars := by
            simp only [event, registered]
            exact executeBefore_world (by decide)
          refine .inr ⟨0, event.eventItem, ?_⟩
          simp only [beforeForward, selected]
          show BeforeResult.forwards 0 event.eventItem
            { state with world := event.world.finishCalls inputs.outcomes } = _
          rw [silent]
          rfl
      | gameClientBegin | gameClientUserinfoChanged | gameClientDisconnect | gameClientCommand
      | gameClientThink | gameConsoleCommand =>
          apply beforeForward_void (by simp)
          rw [registered]
          exact executeBefore_world (by decide)

/-- The VM itself; behind `GAME_INIT` all users are reset. -/
theorem forwardToVm_world {ret : Int} {w : ProxyWorld} (noTraps : inputs.shutdownTraps = []) :
    (forwardToVm (recordsystem inputs) command arg ret w).2 =
      if command = GameExport.gameInit.toInt then
        ({ w with randomUuid := inputs.nextUuid } : ProxyWorld).resetUsers
      else { w with randomUuid := inputs.nextUuid } := by
  simp only [forwardToVm, recordsystem, noTraps, List.foldl_nil, if_true]
  split_ifs <;> rfl

theorem eventList_afterForward {ret : Int} {eventItem : Option Bool} :
    (afterForward command arg ret eventItem state).2.eventList = state.eventList := by
  unfold afterForward
  split <;> rfl

/-- The second `switch`: the connect is dispatched to its BEFORE handlers again. -/
theorem afterForward_world {ret : Int} {eventItem : Option Bool}
    (registered : state.eventList = pluginHandlers vmString) :
    (afterForward command arg ret eventItem state).2.world =
      if command = GameExport.gameClientConnect.toInt then handled command arg state.world
      else if command = GameExport.gameRunFrame.toInt then UserCommandsPlugin.onGameRunFrame state.world
      else state.world := by
  cases selected : GameExport.ofInt? command with
  | none =>
      have noConnect : command ≠ GameExport.gameClientConnect.toInt := by
        rintro rfl
        cases selected
      have noFrame : command ≠ GameExport.gameRunFrame.toInt := by
        rintro rfl
        cases selected
      rw [if_neg noConnect, if_neg noFrame]
      simp only [afterForward, selected]
  | some export_ =>
      have commandEq := ofInt?_eq_some selected
      subst commandEq
      cases export_ with
      | gameClientConnect =>
          simp only [afterForward, selected, registered]
          exact executeConnect_world
      | botaiStartFrame =>
          have unhooked : matching state.eventList GameExport.botaiStartFrame.toInt .executeTypeBefore =
              [] := by
            rw [registered]
            rfl
          simp only [afterForward, selected]
          exact (executeEventReturnArg_none unhooked).1
      | gameShutdown => simp only [afterForward, selected]; rfl
      | gameInit | gameRunFrame | gameClientThink | gameClientUserinfoChanged | gameClientDisconnect
      | gameClientBegin | gameClientCommand | gameConsoleCommand =>
          simp only [afterForward, selected, registered]
          exact executeAfter_world

/-- What is left of a call once the VM has run. -/
theorem returned_world {call : VmCall} (noTraps : inputs.shutdownTraps = [])
    (registered : state.eventList = pluginHandlers vmString) :
    let vm := forwardToVm (recordsystem inputs) call.command call.arg call.ret state.world
    (afterForward call.command call.arg vm.1 call.eventItem { state with world := vm.2 }).2.world =
      returnedWorld call inputs state.world := by
  intro vm
  have after := @afterForward_world vmString { state with world := vm.2 } call.command call.arg vm.1
    call.eventItem registered
  have ran : vm.2 = _ := @forwardToVm_world call.command call.arg inputs call.ret state.world noTraps
  rw [after, ran, returnedWorld]
  dsimp only
  by_cases isInit : call.command = GameExport.gameInit.toInt
  · have noConnect : call.command ≠ GameExport.gameClientConnect.toInt := by
      rw [isInit]
      decide
    have noFrame : call.command ≠ GameExport.gameRunFrame.toInt := by
      rw [isInit]
      decide
    rw [if_neg noConnect, if_neg noFrame, if_pos isInit, if_pos isInit]
  · rw [if_neg isInit, if_neg isInit]

end Parts

/-!
### Steps

A step of the proxy as a function on worlds, for the first call, the last call
and all calls in between.
-/

section Steps

variable {s t : ProxyRun} {action : ProxyAction}

/-- Before `GAME_INIT` no handler is registered. -/
theorem registered_initial (engine : EngineSetup) : Registered (.initial engine) := .inl ⟨rfl, rfl⟩

/-- Before `GAME_INIT` the engine calls nothing else. -/
theorem not_admitted {command : Int} {arg : Vector Int 12} (unlisted : s.proxy.eventList = [])
    (noInit : command ≠ GameExport.gameInit.toInt) : ¬ s.admits command arg = true := by
  have noUsers : s.hasUsers = false := by simp [ProxyRun.hasUsers, unlisted]
  unfold ProxyRun.admits
  split
  case h_1 selected => exact absurd (ofInt?_eq_some selected) noInit
  all_goals simp [noUsers, unlisted]

/-- `GAME_INIT` registers the handlers and does no more before it reaches the VM. -/
theorem step_gameInit {arg : Vector Int 12} {inputs : CallInputs}
    (admitted : s.admits GameExport.gameInit.toInt arg = true)
    (stepped : s.step (.vmMain GameExport.gameInit.toInt arg inputs) = some t) :
    t.proxy.eventList = pluginHandlers inputs.vmString ∧
      t.proxy.world = stepWorld s (.vmMain GameExport.gameInit.toInt arg inputs) := by
  have fresh : s.proxy.eventList = [] := by
    rw [ProxyRun.admits, GameExport.ofInt?_toInt] at admitted
    exact List.isEmpty_iff.mp (Bool.and_eq_true_iff.mp admitted).1
  rw [ProxyRun.step, if_pos admitted, beforeForward, GameExport.ofInt?_toInt] at stepped
  simp only [ProxyRun.prepared, recordsystem, if_true, fresh, List.nil_append] at stepped
  cases stepped
  refine ⟨rfl, ?_⟩
  rw [executeEventVoid_none rfl, stepWorld, if_pos rfl]

/-- `GAME_SHUTDOWN` leaves no handler and no call. -/
theorem step_gameShutdown {arg : Vector Int 12} {inputs : CallInputs} (registered : Registered s)
    (admitted : s.admits GameExport.gameShutdown.toInt arg = true)
    (stepped : s.step (.vmMain GameExport.gameShutdown.toInt arg inputs) = some t) :
    t.proxy.eventList = [] ∧ t.calls = [] ∧
      t.proxy.world = stepWorld s (.vmMain GameExport.gameShutdown.toInt arg inputs) := by
  have open_ : s.proxy.eventList ≠ [] ∧ s.calls = [] := by
    rw [ProxyRun.admits, GameExport.ofInt?_toInt] at admitted
    simpa using admitted
  obtain ⟨vmString, listed⟩ : ∃ vmString, s.proxy.eventList = pluginHandlers vmString := by
    rcases registered with ⟨unlisted, -⟩ | listed
    · exact absurd unlisted open_.1
    · exact listed
  rw [ProxyRun.step, if_pos admitted, beforeForward, GameExport.ofInt?_toInt] at stepped
  simp only [ProxyRun.prepared, shutdownBranch, recordsystem, if_true, listed] at stepped
  cases stepped
  refine ⟨rfl, open_.2, ?_⟩
  rw [executeBefore_world (by decide), stepWorld, if_neg (by decide), if_pos rfl]
  rfl

/-- One step makes the world `stepWorld` says, and the handlers stay registered. -/
theorem step_world (registered : Registered s) (stepped : s.step action = some t) :
    Registered t ∧ t.proxy.world = stepWorld s action := by
  cases action with
  | vmMain command arg inputs =>
      have admitted : s.admits command arg = true := by
        by_contra refused
        rw [ProxyRun.step, if_neg refused] at stepped
        cases stepped
      by_cases isInit : command = GameExport.gameInit.toInt
      · subst isInit
        obtain ⟨listed, made⟩ := step_gameInit admitted stepped
        exact ⟨.inr ⟨_, listed⟩, made⟩
      · by_cases isShutdown : command = GameExport.gameShutdown.toInt
        · subst isShutdown
          obtain ⟨unlisted, idle, made⟩ := step_gameShutdown registered admitted stepped
          exact ⟨.inl ⟨unlisted, idle⟩, made⟩
        · obtain ⟨vmString, listed⟩ : ∃ vmString, s.proxy.eventList = pluginHandlers vmString := by
            rcases registered with ⟨unlisted, idle⟩ | listed
            · exact absurd admitted (not_admitted unlisted isInit)
            · exact listed
          rw [stepWorld, if_neg isInit, if_neg isShutdown]
          rcases @beforeForward_world vmString (s.prepared command arg inputs) command arg inputs listed
            isInit isShutdown with ⟨ret, returned⟩ | ⟨ret, eventItem, forwarded⟩
          · rw [ProxyRun.step, if_pos admitted, returned] at stepped
            cases stepped
            exact ⟨.inr ⟨vmString, listed⟩, rfl⟩
          · rw [ProxyRun.step, if_pos admitted, forwarded] at stepped
            cases stepped
            exact ⟨.inr ⟨vmString, listed⟩, rfl⟩
  | setUserinfo uninitialized slot info =>
      rw [ProxyRun.step] at stepped
      split at stepped
      case isTrue => cases stepped
      case isFalse =>
        rw [vmSetUserinfo_eq, Option.map_map, Option.map_eq_some_iff] at stepped
        obtain ⟨handled, read, rfl⟩ := stepped
        refine ⟨registered, ?_⟩
        rw [stepWorld, read]
        cases handled with
        | true => rfl
        | false => rfl
  | vmReturns inputs =>
      rw [ProxyRun.step] at stepped
      split at stepped
      case h_1 => cases stepped
      case h_2 call calls waiting =>
        cases stepped
        obtain ⟨vmString, listed⟩ : ∃ vmString, s.proxy.eventList = pluginHandlers vmString := by
          rcases registered with ⟨-, idle⟩ | handlers
          · rw [waiting] at idle
            cases idle
          · exact handlers
        refine ⟨.inr ⟨vmString, by rw [eventList_afterForward]; exact listed⟩, ?_⟩
        rw [stepWorld, waiting]
        exact returned_world rfl listed

end Steps

/-!
### What the handlers keep

A handler sets the user of its slot in four ways, and only a disconnect and the
end of a map write a login cvar. So a property of the users and the cvars is
kept by all other handlers if it is kept by the four.
-/

/-- A property of the users and of the login cvars. -/
abbrev UserProperty := ((playernum : Slot) → Q3User playernum) → (Slot → Int) → Prop

/-- The property of the users and the cvars there are. -/
def UserProperty.Of (K : UserProperty) (w : ProxyWorld) : Prop := K w.users w.loginState

/-- The property is kept whatever the handlers set in the user of a slot. -/
structure KeptAt (p : Slot) (K : UserProperty) : Prop where
  userInfo : ∀ {w} info, K.Of w → K.Of (w.setUser p ((w.users p).setUserInfoString info))
  userId : ∀ {w} userId, K.Of w → K.Of (w.setUser p ((w.users p).setUserId userId))
  state : ∀ {w} state, K.Of w → K.Of (w.setUser p ((w.users p).setState state))
  restart : ∀ {w} uniqueId, K.Of w → K.Of (w.setUser p ((w.users p).reset.setUniqueId uniqueId))

namespace KeptAt

variable {K : UserProperty} {p : Slot} {w : ProxyWorld}

/-- The handler of a changed userinfo keeps what its user's new fields keep. -/
theorem onClientUserInfoChanged (kept : KeptAt p K) (holds : K.Of w) :
    K.Of (UserManagementPlugin.onClientUserInfoChanged p w) := by
  have informed : K.Of (w.setUser p ((w.users p).setUserInfoString (w.userinfo p))) :=
    kept.userInfo _ holds
  unfold UserManagementPlugin.onClientUserInfoChanged
  dsimp only
  split
  · exact kept.userId 0 informed
  · split
    · exact informed
    · exact informed

/-- The later value stands. -/
theorem setUser_setUser (cl cl' : Q3User p) : (w.setUser p cl).setUser p cl' = w.setUser p cl' := by
  rw [ProxyWorld.setUser, ProxyWorld.setUser, Function.update_idem]
  rfl

/-- The handler of a connect keeps it as well. -/
theorem onClientConnected {isFirstTime : Bool} (kept : KeptAt p K) (holds : K.Of w) :
    K.Of (UserManagementPlugin.onClientConnected p isFirstTime w).2 := by
  have asked := kept.onClientUserInfoChanged (kept.restart w.randomUuid holds)
  unfold UserManagementPlugin.onClientConnected
  split
  · exact holds
  · dsimp only
    cases isFirstTime with
    | true => exact kept.state .clientConnected asked
    | false =>
        generalize UserManagementPlugin.onClientUserInfoChanged p
          (w.setUser p ((w.users p).reset.setUniqueId w.randomUuid)) = informed at asked ⊢
        have restored := kept.userId (informed.loginState p) (kept.state .clientActive asked)
        rw [ProxyWorld.users_setUser_same, setUser_setUser] at restored
        exact restored

theorem sendWelcome {welcome : CString} (holds : K.Of w) :
    K.Of (UserManagementPlugin.sendWelcome p welcome w) := by
  unfold UserManagementPlugin.sendWelcome
  split
  · exact holds
  · exact holds

theorem onClientBegin (kept : KeptAt p K) (holds : K.Of w) :
    K.Of (UserManagementPlugin.onClientBegin p w) := by
  have active := kept.state .clientActive holds
  unfold UserManagementPlugin.onClientBegin
  dsimp only
  generalize w.setUser p ((w.users p).setState .clientActive) = begun at active ⊢
  have first : K.Of (UserManagementPlugin.sendWelcome p begun.rsWelcome1 begun) := sendWelcome active
  generalize UserManagementPlugin.sendWelcome p begun.rsWelcome1 begun = greeted at first ⊢
  have second : K.Of (UserManagementPlugin.sendWelcome p greeted.rsWelcome2 greeted) := sendWelcome first
  generalize UserManagementPlugin.sendWelcome p greeted.rsWelcome2 greeted = greetedTwice at second ⊢
  have third : K.Of (UserManagementPlugin.sendWelcome p greetedTwice.rsWelcome3 greetedTwice) :=
    sendWelcome second
  split
  · exact third
  · exact third

/-- A player's command sets no user. -/
theorem onGameClientCommand (holds : K.Of w) : K.Of (UserCommandsPlugin.onGameClientCommand p w).2 := by
  unfold UserCommandsPlugin.onGameClientCommand
  dsimp only
  split
  · exact holds
  · split
    · exact holds
    · exact holds

theorem onGameRunFrame (holds : K.Of w) : K.Of (UserCommandsPlugin.onGameRunFrame w) := by
  unfold UserCommandsPlugin.onGameRunFrame
  dsimp only
  split
  · split
    · exact holds
    · split
      · exact holds
      · exact holds
  · exact holds

/-- A reply sets an id at most. -/
theorem runCallback {item : ApiItem} {rest : List ApiItem} {outcome : CallOutcome}
    (kept : ∀ p, KeptAt p K) (holds : K.Of w) : K.Of (w.runCallback item rest outcome) := by
  unfold ProxyWorld.runCallback executeCallback
  split
  · unfold UserManagementPlugin.loginCallback
    dsimp only
    split
    · exact (kept _).userId 0 holds
    · split
      · exact (kept _).userId _ holds
      · exact holds
  · unfold UserCommandsPlugin.onExecClientCommandFinished
    split
    · exact holds
    · exact holds
  all_goals
    split
    · exact holds
    · exact holds

/-- Replies to outstanding calls keep it, one by one. -/
theorem finishCalls (kept : ∀ p, KeptAt p K) (outcomes : List CallOutcome) (holds : K.Of w) :
    K.Of (w.finishCalls outcomes) := by
  induction outcomes generalizing w with
  | nil => exact holds
  | cons outcome outcomes inductionHypothesis =>
      rw [ProxyWorld.finishCalls]
      split
      · exact holds
      · exact inductionHypothesis (runCallback kept holds)

theorem prepare {command : Int} {arg : Vector Int 12} {inputs : CallInputs} (holds : K.Of w) :
    K.Of (Client.prepare command arg inputs w) := by
  unfold Client.prepare
  dsimp only
  split
  all_goals exact holds

/-- All handlers of a command but those of a disconnect and of the end of the
map. -/
theorem handled {command : Int} {arg : Vector Int 12} (kept : ∀ p, KeptAt p K)
    (disconnects : ∀ p, slotOf? (arg0 arg) = some p →
      GameExport.ofInt? command = some .gameClientDisconnect →
        K.Of (UserManagementPlugin.onClientDisconnected p w))
    (ends : GameExport.ofInt? command = some .gameShutdown →
      K.Of (UserManagementPlugin.onVmMainShutdown w))
    (holds : K.Of w) : K.Of (Client.handled command arg w) := by
  unfold Client.handled
  split
  case h_1 => exact (kept _).onClientConnected holds
  case h_2 selected named => exact disconnects _ named selected
  case h_3 => exact (kept _).onClientUserInfoChanged holds
  case h_4 => exact (kept _).onClientBegin holds
  case h_5 => exact onGameClientCommand holds
  case h_6 selected => exact ends selected
  case h_7 => exact holds

end KeptAt

end Q3df.Client
