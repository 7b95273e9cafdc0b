/-
Module: Q3df.Client.PluginHandlers
Layer: Client
Purpose: The handlers the two plugins register on the event list of `Recordsystem`, and what a
  dispatch of `VmMain` runs of them: at most one handler for each command and phase. The plugin
  registers its handlers of the userinfo traps on this list too, where no dispatch looks for them.
Imports: Q3df.Client.VmMain, Q3df.Client.GameImport, Q3df.Client.PluginEvents
Trusted boundary: human-reviewed transcription of Init of client/Plugins/UserManagementPlugin.cc and
  client/Plugins/UserCommandsPlugin.cc; a slot number outside the user list is not followed
Main exports: slotOf?, UserManagementPlugin.init, UserCommandsPlugin.init, pluginHandlers,
  executeEventLoop_matching
Open obligations: none
-/
import Q3df.Client.VmMain
import Q3df.Client.GameImport
import Q3df.Client.PluginEvents

namespace Q3df.Client

/-- The slot a parameter names. -/
def slotOf? (n : Int) : Option Slot :=
  if inRange : 0 ≤ n ∧ n < maxClients then some ⟨n.toNat, by omega⟩ else none

/-- The callback of a handler for the slot its first parameter names. -/
def forSlot (run : Slot → Q3EventArgs → ProxyWorld → Q3EventArgs × ProxyWorld) (e : Q3EventArgs)
    (w : ProxyWorld) : Q3EventArgs × ProxyWorld :=
  match slotOf? (e.getParam 0) with
  | some playernum => run playernum e w
  | none => (e, w)

/-- A callback that leaves the event alone. -/
def slotHandler (run : Slot → ProxyWorld → ProxyWorld) :
    Q3EventArgs → ProxyWorld → Q3EventArgs × ProxyWorld :=
  forSlot fun playernum e w => (e, run playernum w)

namespace UserManagementPlugin

/-- The address of the text a player is turned away with. -/
def noNewClientsText : Int := 1

def connectedHandler (playernum : Slot) (e : Q3EventArgs) (w : ProxyWorld) :
    Q3EventArgs × ProxyWorld :=
  let connected := onClientConnected playernum (e.getParam 1 = 1) w
  (if connected.1.isSome then e.setReturn noNewClientsText else e, connected.2)

/-- `OnSyscallGetUserInfo`. The buffer it fills is memory of the VM. -/
def onSyscallGetUserInfo (_playernum : Slot) (e : Q3EventArgs) (w : ProxyWorld) :
    Q3EventArgs × ProxyWorld :=
  (e.setHandled true, w)

/-- `OnSyscallSetUserInfo`; `vmString` reads a string of the VM. -/
def onSyscallSetUserInfo (vmString : Int → InfoString) (playernum : Slot) (e : Q3EventArgs)
    (w : ProxyWorld) : Q3EventArgs × ProxyWorld :=
  (e, w.setUser playernum ((w.users playernum).setUserInfoString (vmString (e.getParam 1))))

/-- `Init`: the handlers it registers with `RS_BEFORE_AddEventHandler`. -/
def init (vmString : Int → InfoString) : List (Q3EventHandler ProxyWorld) :=
  [{ eventType := GameExport.gameClientConnect.toInt, executeType := .executeTypeBefore
     callback := forSlot connectedHandler },
   { eventType := GameExport.gameClientDisconnect.toInt, executeType := .executeTypeBefore
     callback := slotHandler onClientDisconnected },
   { eventType := GameExport.gameClientUserinfoChanged.toInt, executeType := .executeTypeBefore
     callback := slotHandler onClientUserInfoChanged },
   { eventType := GameExport.gameClientBegin.toInt, executeType := .executeTypeBefore
     callback := slotHandler onClientBegin },
   { eventType := GameImport.gGetUserinfo.toInt, executeType := .executeTypeBefore
     callback := forSlot onSyscallGetUserInfo },
   { eventType := GameImport.gSetUserinfo.toInt, executeType := .executeTypeBefore
     callback := forSlot (onSyscallSetUserInfo vmString) },
   { eventType := GameExport.gameShutdown.toInt, executeType := .executeTypeBefore
     callback := fun e w => (e, onVmMainShutdown w) }]

end UserManagementPlugin

namespace UserCommandsPlugin

def gameClientCommandHandler (playernum : Slot) (e : Q3EventArgs) (w : ProxyWorld) :
    Q3EventArgs × ProxyWorld :=
  let called := onGameClientCommand playernum w
  (if called.1 then e.setHandled true else e, called.2)

/-- `Init`. -/
def init : List (Q3EventHandler ProxyWorld) :=
  [{ eventType := GameExport.gameRunFrame.toInt, executeType := .executeTypeAfter
     callback := fun e w => (e, onGameRunFrame w) },
   { eventType := GameExport.gameClientCommand.toInt, executeType := .executeTypeBefore
     callback := forSlot gameClientCommandHandler }]

end UserCommandsPlugin

/-- `eventList_` once the plugins are initialised. -/
def pluginHandlers (vmString : Int → InfoString) : List (Q3EventHandler ProxyWorld) :=
  UserCommandsPlugin.init ++ UserManagementPlugin.init vmString

/-!
### What a dispatch runs

A dispatch depends on the matching handlers alone. No and one matching handler
are treated, which is all that the two plugins register for an event.
-/

section Dispatch

variable {σ : Type*} {eventList : List (Q3EventHandler σ)} {eventType : Int}
  {executeType : Q3EventExecuteType} {afterCall : Q3EventArgs → Int → Int × Bool}

/-- A dispatch only depends on the handlers that match. -/
theorem executeEventLoop_matching (r : EventResult σ) :
    executeEventLoop eventType executeType afterCall eventList r =
      executeEventLoop eventType executeType afterCall (matching eventList eventType executeType) r := by
  induction eventList generalizing r with
  | nil => rfl
  | cons handler rest inductionHypothesis =>
      by_cases hit : handler.matches? eventType executeType
      · have filtered : matching (handler :: rest) eventType executeType =
            handler :: matching rest eventType executeType := by simp [matching, hit]
        rw [filtered, executeEventLoop, if_pos hit, executeEventLoop, if_pos hit]
        exact inductionHypothesis _
      · have filtered : matching (handler :: rest) eventType executeType =
            matching rest eventType executeType := by simp [matching, hit]
        rw [filtered, executeEventLoop, if_neg hit]
        exact inductionHypothesis _

/-- A dispatch that no handler matches leaves the world as it was. -/
theorem executeEventVoid_none {arg : Vector Int 12} {eventItem : Option Bool} {world : σ}
    (unhooked : matching eventList eventType executeType = []) :
    (executeEventVoid eventList eventType executeType arg eventItem world).world = world := by
  rw [executeEventVoid, executeEventLoop_matching, unhooked, executeEventLoop]

theorem executeEventReturnArg_none {arg : Vector Int 12} {eventItem : Option Bool} {world : σ}
    {returnValue : Int} (unhooked : matching eventList eventType executeType = []) :
    (executeEventReturnArg eventList eventType executeType returnValue arg eventItem world).world =
        world ∧
      (executeEventReturnArg eventList eventType executeType returnValue arg eventItem
        world).returnValue = returnValue := by
  rw [executeEventReturnArg, executeEventLoop_matching, unhooked, executeEventLoop]
  exact ⟨rfl, rfl⟩

/-- A dispatch that one handler matches does what this handler does. -/
theorem executeEventVoid_one {arg : Vector Int 12} {eventItem : Option Bool} {world : σ}
    {handler : Q3EventHandler σ} (only : matching eventList eventType executeType = [handler]) :
    (executeEventVoid eventList eventType executeType arg eventItem world).world =
      (handler.callback (.new arg) world).2 := by
  have hit : handler.matches? eventType executeType = true := by
    have listed : handler ∈ matching eventList eventType executeType := by
      rw [only]
      exact List.mem_singleton_self handler
    exact (List.mem_filter.mp listed).2
  rw [executeEventVoid, executeEventLoop_matching, only, executeEventLoop, if_pos hit, executeEventLoop]

theorem executeEventReturnArg_one {arg : Vector Int 12} {eventItem : Option Bool} {world : σ}
    {returnValue : Int} {handler : Q3EventHandler σ}
    (only : matching eventList eventType executeType = [handler]) :
    let called := handler.callback ((Q3EventArgs.new arg).setReturn returnValue) world
    (executeEventReturnArg eventList eventType executeType returnValue arg eventItem world).world =
        called.2 ∧
      (executeEventReturnArg eventList eventType executeType returnValue arg eventItem
        world).returnValue = if called.1.getReturn ≠ 0 then called.1.getReturn else returnValue := by
  have hit : handler.matches? eventType executeType = true := by
    have listed : handler ∈ matching eventList eventType executeType := by
      rw [only]
      exact List.mem_singleton_self handler
    exact (List.mem_filter.mp listed).2
  rw [executeEventReturnArg, executeEventLoop_matching, only, executeEventLoop, if_pos hit,
    executeEventLoop]
  exact ⟨rfl, rfl⟩

end Dispatch

end Q3df.Client
