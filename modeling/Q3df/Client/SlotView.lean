/-
Module: Q3df.Client.SlotView
Layer: Client
Purpose: What the daemon and the engine see of one slot: the session and the userinfo the proxy
  keeps, the userinfo the engine keeps, and the session notifications enqueued for the slot. The
  abstract layer is a small machine over these five values; the lemmas say which of its moves each
  handler of the proxy makes, for its own slot and for the others.
Imports: Q3df.Library.SessionLog, Q3df.Client.PluginEvents
Trusted boundary: none
Main exports: SlotView, SlotEvent, SlotView.next, ProxyWorld.view, view_onClientConnected_same,
  view_onClientConnected_other, view_onClientDisconnected_same, view_onClientDisconnected_other
Open obligations: none
-/
import Q3df.Library.SessionLog
import Q3df.Client.PluginEvents

namespace Q3df.Client

open Q3df.SessionLog

/-- One slot: `uniqueId_`, `userInfo_` and `state_` of its user, the engine's
userinfo of it, and the `ClientConnected` and `ClientDisconnected` requests
enqueued for it. -/
structure SlotView where
  uniqueId : CString
  userInfo : InfoString
  state : ClientState
  engineInfo : InfoString
  log : List (SessionEntry CString)
deriving DecidableEq

/-- What can happen to a slot. -/
inductive SlotEvent where
  | engineStores (info : InfoString)
  | connected (isFirstTime : Bool) (uuid : CString)
  | userinfoChanged
  | began
  | disconnected
  | reset
deriving DecidableEq

namespace SlotView

/-- The user as `Reset` leaves it. -/
def cleared (v : SlotView) : SlotView :=
  { v with uniqueId := [], userInfo := .empty, state := .clientFree }

/-- One move of a slot. Only a first connect is notified. -/
def next (v : SlotView) : SlotEvent → SlotView
  | .engineStores info => { v with engineInfo := info }
  | .connected isFirstTime uuid =>
      { v with
        uniqueId := uuid
        userInfo := v.engineInfo
        state := if isFirstTime then .clientConnected else .clientActive
        log := if isFirstTime then v.log ++ [.opened uuid] else v.log }
  | .userinfoChanged => { v with userInfo := v.engineInfo }
  | .began => { v with state := .clientActive }
  | .disconnected => { v.cleared with log := v.log ++ [.closed v.uniqueId] }
  | .reset => v.cleared

end SlotView

/-- The notification a request is for this slot. -/
def ApiRequest.sessionEntry (p : Slot) : ApiRequest → Option (SessionEntry CString)
  | .clientConnected request =>
      if request.identifier.playernum = p then some (.opened request.identifier.uniqueId) else none
  | .clientDisconnected request =>
      if request.identifier.playernum = p then some (.closed request.identifier.uniqueId) else none
  | .login _ | .clientCommand _ => none

/-- The notifications enqueued for a slot, in order. -/
def ProxyWorld.sessionLog (w : ProxyWorld) (p : Slot) : List (SessionEntry CString) :=
  w.submitted.filterMap fun item => item.request.sessionEntry p

def ProxyWorld.view (w : ProxyWorld) (p : Slot) : SlotView where
  uniqueId := (w.users p).uniqueId
  userInfo := (w.users p).userInfo
  state := (w.users p).state
  engineInfo := w.userinfo p
  log := w.sessionLog p

/-!
### The handlers as moves of the slots

Each handler moves the view of its own slot by one event, and leaves the view of
every other slot alone.
-/

section Views

variable {w : ProxyWorld} {p q : Slot}

@[simp] theorem view_loginState {loginState : Slot → Int} :
    ({ w with loginState := loginState } : ProxyWorld).view p = w.view p := rfl

@[simp] theorem view_print {text : CString} : (w.print text).view p = w.view p := rfl

@[simp] theorem view_sendServerCommand {clientNum : Int} {text : CString} {purpose : CommandPurpose} :
    (w.sendServerCommand clientNum text purpose).view p = w.view p := rfl

/-- Storing a user sets the fields of its slot's view. -/
theorem view_setUser_same {cl : Q3User p} : (w.setUser p cl).view p =
    { w.view p with uniqueId := cl.uniqueId, userInfo := cl.userInfo, state := cl.state } := by
  simp [ProxyWorld.view, ProxyWorld.sessionLog, ProxyWorld.setUser]

/-- Storing a user leaves the other slots alone. -/
theorem view_setUser_other {cl : Q3User p} (other : q ≠ p) : (w.setUser p cl).view q = w.view q := by
  simp [ProxyWorld.view, ProxyWorld.sessionLog, ProxyWorld.setUser, other]

/-- A request is logged if it opens or closes a session of the slot. -/
theorem sessionLog_submit {request : ApiRequest} :
    (w.submit p request).sessionLog q = w.sessionLog q ++ (request.sessionEntry q).toList := by
  rw [ProxyWorld.sessionLog, ProxyWorld.submit, List.filterMap_append]
  cases entry : request.sessionEntry q with
  | none => simp [ProxyWorld.sessionLog, entry]
  | some notified => simp [ProxyWorld.sessionLog, entry]

theorem view_submit {request : ApiRequest} : (w.submit p request).view q =
    { w.view q with log := w.sessionLog q ++ (request.sessionEntry q).toList } := by
  rw [← @sessionLog_submit w p q request]
  rfl

/-- Whatever the handler does about the login, it reads the engine's string into
its user. -/
theorem view_onClientUserInfoChanged_same :
    (UserManagementPlugin.onClientUserInfoChanged p w).view p = (w.view p).next .userinfoChanged := by
  have informed : (w.setUser p ((w.users p).setUserInfoString (w.userinfo p))).view p =
      (w.view p).next .userinfoChanged := view_setUser_same
  unfold UserManagementPlugin.onClientUserInfoChanged
  dsimp only
  split
  · rw [view_sendServerCommand, view_setUser_same, informed]
    simp [Q3User.setUserId, Q3User.setUserInfoString, SlotView.next, ProxyWorld.view]
  · split
    · rw [view_submit, informed]
      simp [ApiRequest.sessionEntry, SlotView.next, ProxyWorld.view, ProxyWorld.sessionLog,
        ProxyWorld.setUser]
    · exact informed

/-- A changed userinfo concerns its own slot only. -/
theorem view_onClientUserInfoChanged_other (other : q ≠ p) :
    (UserManagementPlugin.onClientUserInfoChanged p w).view q = w.view q := by
  have informed : (w.setUser p ((w.users p).setUserInfoString (w.userinfo p))).view q = w.view q :=
    view_setUser_other other
  unfold UserManagementPlugin.onClientUserInfoChanged
  dsimp only
  split
  · rw [view_sendServerCommand, view_setUser_other other, informed]
  · split
    · rw [view_submit, informed]
      simp [ApiRequest.sessionEntry, ProxyWorld.view, ProxyWorld.sessionLog, ProxyWorld.setUser]
    · exact informed

/-- A pass of the connect handler that does not turn the player away. -/
theorem view_onClientConnected_same {isFirstTime : Bool} (open_ : w.rsNoNewClients ≠ 1) :
    (UserManagementPlugin.onClientConnected p isFirstTime w).2.view p =
      (w.view p).next (.connected isFirstTime w.randomUuid) := by
  unfold UserManagementPlugin.onClientConnected
  rw [if_neg open_]
  dsimp only
  have asked : (UserManagementPlugin.onClientUserInfoChanged p
      (w.setUser p ((w.users p).reset.setUniqueId w.randomUuid))).view p =
      { w.view p with
        uniqueId := w.randomUuid
        userInfo := w.userinfo p
        state := .clientFree } := by
    rw [view_onClientUserInfoChanged_same, view_setUser_same]
    rfl
  generalize UserManagementPlugin.onClientUserInfoChanged p
    (w.setUser p ((w.users p).reset.setUniqueId w.randomUuid)) = u at asked
  have userFields := asked
  simp only [ProxyWorld.view, SlotView.mk.injEq] at userFields
  obtain ⟨uniqueId, userInfo, -, engineInfo, log⟩ := userFields
  cases isFirstTime with
  | true =>
      rw [if_pos rfl]
      dsimp only
      rw [view_submit, view_print, view_setUser_same, asked]
      simp [Q3User.setState, Q3User.writeIdentifier, Q3User.getPlayernum, ApiRequest.sessionEntry,
        SlotView.next, ProxyWorld.sessionLog, ProxyWorld.print, ProxyWorld.setUser, uniqueId, userInfo,
        ProxyWorld.view] at log ⊢
      exact log
  | false =>
      rw [if_neg Bool.false_ne_true]
      dsimp only
      rw [view_print, view_setUser_same, asked]
      simp [Q3User.setState, Q3User.setUserId, SlotView.next, uniqueId, userInfo, ProxyWorld.view]

/-- A connect concerns its own slot only. -/
theorem view_onClientConnected_other {isFirstTime : Bool} (other : q ≠ p) :
    (UserManagementPlugin.onClientConnected p isFirstTime w).2.view q = w.view q := by
  unfold UserManagementPlugin.onClientConnected
  split
  · rfl
  · dsimp only
    have asked : (UserManagementPlugin.onClientUserInfoChanged p
        (w.setUser p ((w.users p).reset.setUniqueId w.randomUuid))).view q = w.view q := by
      rw [view_onClientUserInfoChanged_other other, view_setUser_other other]
    generalize UserManagementPlugin.onClientUserInfoChanged p
      (w.setUser p ((w.users p).reset.setUniqueId w.randomUuid)) = u at asked
    cases isFirstTime with
    | true =>
        rw [if_pos rfl]
        dsimp only
        rw [view_submit, view_print, view_setUser_other other, asked]
        simp [ApiRequest.sessionEntry, Q3User.setState, Q3User.writeIdentifier, Q3User.getPlayernum,
          Ne.symm other, ProxyWorld.print, ProxyWorld.setUser, ProxyWorld.sessionLog,
          ProxyWorld.view] at asked ⊢
        exact asked.2.2.2.2
    | false =>
        rw [if_neg Bool.false_ne_true]
        dsimp only
        rw [view_print, view_setUser_other other, asked]

/-- A player who is turned away leaves no trace. -/
theorem onClientConnected_denied {isFirstTime : Bool} (closed : w.rsNoNewClients = 1) :
    (UserManagementPlugin.onClientConnected p isFirstTime w).2 = w := by
  rw [UserManagementPlugin.onClientConnected, if_pos closed]

/-- A disconnect is the move of the same name. -/
theorem view_onClientDisconnected_same :
    (UserManagementPlugin.onClientDisconnected p w).view p = (w.view p).next .disconnected := by
  have reported := @view_submit w p p (.clientDisconnected
    { identifier := (w.users p).writeIdentifier, userId := (w.users p).userId
      userinfostring := (w.users p).userInfo.val })
  unfold UserManagementPlugin.onClientDisconnected
  dsimp only
  rw [view_loginState, view_setUser_same, reported]
  simp [ApiRequest.sessionEntry, Q3User.writeIdentifier, Q3User.getPlayernum, Q3User.reset,
    SlotView.next, SlotView.cleared, ProxyWorld.view]

/-- A disconnect concerns its own slot only. -/
theorem view_onClientDisconnected_other (other : q ≠ p) :
    (UserManagementPlugin.onClientDisconnected p w).view q = w.view q := by
  unfold UserManagementPlugin.onClientDisconnected
  dsimp only
  rw [view_loginState, view_setUser_other other, view_submit]
  simp [ApiRequest.sessionEntry, Q3User.writeIdentifier, Q3User.getPlayernum, Ne.symm other,
    ProxyWorld.view]

@[simp] theorem view_sendWelcome {welcome : CString} :
    (UserManagementPlugin.sendWelcome p welcome w).view q = w.view q := by
  unfold UserManagementPlugin.sendWelcome
  split <;> rfl

/-- A begin is the move of the same name. -/
theorem view_onClientBegin_same :
    (UserManagementPlugin.onClientBegin p w).view p = (w.view p).next .began := by
  unfold UserManagementPlugin.onClientBegin
  dsimp only
  split
  · rw [view_sendServerCommand, view_sendWelcome, view_sendWelcome, view_sendWelcome, view_setUser_same]
    rfl
  · rw [view_sendServerCommand, view_sendWelcome, view_sendWelcome, view_sendWelcome, view_setUser_same]
    rfl

theorem view_onClientBegin_other (other : q ≠ p) :
    (UserManagementPlugin.onClientBegin p w).view q = w.view q := by
  unfold UserManagementPlugin.onClientBegin
  dsimp only
  split
  · rw [view_sendServerCommand, view_sendWelcome, view_sendWelcome, view_sendWelcome,
      view_setUser_other other]
  · rw [view_sendServerCommand, view_sendWelcome, view_sendWelcome, view_sendWelcome,
      view_setUser_other other]

/-- A command of a player opens and closes no session. -/
theorem view_onGameClientCommand : (UserCommandsPlugin.onGameClientCommand p w).2.view q = w.view q := by
  unfold UserCommandsPlugin.onGameClientCommand
  dsimp only
  split
  · rfl
  · split
    · rw [view_submit]
      simp [ApiRequest.sessionEntry, ProxyWorld.view]
    · rfl

theorem view_onGameRunFrame : (UserCommandsPlugin.onGameRunFrame w).view q = w.view q := by
  unfold UserCommandsPlugin.onGameRunFrame
  dsimp only
  split
  · split
    · rfl
    · split <;> rfl
  · rfl

theorem view_onVmMainShutdown : (UserManagementPlugin.onVmMainShutdown w).view q = w.view q := rfl

/-- A new user id does not show. -/
theorem view_setUserId {userId : Int} :
    (w.setUser p ((w.users p).setUserId userId)).view q = w.view q := by
  by_cases same : q = p
  · subst same
    rw [view_setUser_same]
    rfl
  · exact view_setUser_other same

/-- The reply to a `Login` sets a user id, which is no part of the view. -/
theorem view_loginCallback {res : LoginResponse} {error : CString} :
    (UserManagementPlugin.loginCallback res error w).view q = w.view q := by
  unfold UserManagementPlugin.loginCallback
  dsimp only
  split
  · exact view_setUserId
  · split
    · exact view_setUserId
    · rfl

/-- The callbacks change nothing a slot shows, not even the one that logs a
player in. -/
theorem view_executeCallback {item : ApiItem} {outcome : CallOutcome} :
    (executeCallback item outcome w).view q = w.view q := by
  unfold executeCallback
  split
  case h_1 request selected =>
    exact view_loginCallback
  case h_2 request selected =>
    unfold UserCommandsPlugin.onExecClientCommandFinished
    split <;> rfl
  all_goals
    split <;> rfl

theorem view_runCallback {item : ApiItem} {rest : List ApiItem} {outcome : CallOutcome} :
    (w.runCallback item rest outcome).view q = w.view q := by
  rw [ProxyWorld.runCallback, view_executeCallback]
  rfl

end Views

end Q3df.Client
