/-
Module: Q3df.Client.PluginEvents
Layer: Client
Purpose: Runs of the two plugins: the engine's commands as handler calls, in any order, with the replies
  to the API calls delivered one at a time in request order, which is what the request queue guarantees.
  One lemma a handler says what it adds to the pending calls and to the server commands.
Imports: Q3df.Library.Transition, Q3df.Client.UserManagementPlugin, Q3df.Client.UserCommandsPlugin
Trusted boundary: the engine passes slot numbers below MAX_CLIENTS
Main exports: PluginEvent, executeCallback, ProxyWorld.step, HandlerEffect, IdentifiersMatch,
  IdentifiersMatch.step
Open obligations: none
-/
import Q3df.Library.Transition
import Q3df.Client.UserManagementPlugin
import Q3df.Client.UserCommandsPlugin

namespace Q3df.Client

open Q3df.Transition

/-- What can happen to the plugins. The engine stores a player's new userinfo,
or the arguments of a command, before it calls the proxy. -/
inductive PluginEvent where
  | clientConnected (playernum : Slot) (isFirstTime : Bool) (userinfo : InfoString) (uuid : CString)
  | clientUserinfoChanged (playernum : Slot) (userinfo : InfoString)
  | clientBegin (playernum : Slot)
  | clientDisconnected (playernum : Slot)
  | clientCommand (playernum : Slot) (argv : List CString)
  | runFrame
  | callback (outcome : CallOutcome)
  | cvarsChanged (rsNoNewClients : Int) (rsWelcome1 rsWelcome2 rsWelcome3 : CString)

/-- `ApiAsyncItem::ExecuteCallback` for the calls of the two plugins; the two
without a callback only report their error. -/
def executeCallback (item : ApiItem) (outcome : CallOutcome) (w : ProxyWorld) : ProxyWorld :=
  match item.request with
  | .login request =>
      UserManagementPlugin.loginCallback (request.response outcome) outcome.error w
  | .clientCommand request =>
      UserCommandsPlugin.onExecClientCommandFinished item.slot (request.response outcome)
        outcome.error w
  | .clientConnected _ | .clientDisconnected _ =>
      if outcome.error ≠ [] then
        w.print ("[Q3df:ERROR] ".toList ++ outcome.error ++ "\n".toList)
      else w

/-- The history entry of a completed call. -/
def loginRecord (item : ApiItem) (outcome : CallOutcome) : List LoginRecord :=
  match item.request with
  | .login request =>
      let userId :=
        match outcome with
        | .succeeded reply => some reply.userId
        | .rejected _ | .transport _ => none
      [{ slot := item.slot, session := item.session, q3dfkey := request.q3dfkey, userId := userId }]
  | .clientCommand _ | .clientConnected _ | .clientDisconnected _ => []

namespace ProxyWorld

/-- The engine's new userinfo for a slot. -/
def engineUserinfo (w : ProxyWorld) (p : Slot) (info : InfoString) : ProxyWorld :=
  { w with userinfo := Function.update w.userinfo p info }

/-- The next pending call is done: its item leaves the queue and its callback
runs. -/
def runCallback (w : ProxyWorld) (item : ApiItem) (rest : List ApiItem) (outcome : CallOutcome) :
    ProxyWorld :=
  executeCallback item outcome
    { w with pending := rest, logins := w.logins ++ loginRecord item outcome }

/-- One event. The engine begins only a player whose connect was accepted, and a
callback needs a pending call. -/
def step (w : ProxyWorld) : PluginEvent → Option ProxyWorld
  | .clientConnected p isFirstTime info uuid =>
      some (UserManagementPlugin.onClientConnected p isFirstTime
        { w.engineUserinfo p info with randomUuid := uuid }).2
  | .clientUserinfoChanged p info =>
      some (UserManagementPlugin.onClientUserInfoChanged p (w.engineUserinfo p info))
  | .clientBegin p =>
      if (w.users p).state ≠ .clientFree then some (UserManagementPlugin.onClientBegin p w) else none
  | .clientDisconnected p => some (UserManagementPlugin.onClientDisconnected p w)
  | .clientCommand p argv => some (UserCommandsPlugin.onGameClientCommand p { w with argv := argv }).2
  | .runFrame => some (UserCommandsPlugin.onGameRunFrame w)
  | .callback outcome =>
      match w.pending with
      | [] => none
      | item :: rest => some (w.runCallback item rest outcome)
  | .cvarsChanged rsNoNewClients rsWelcome1 rsWelcome2 rsWelcome3 =>
      some { w with
        rsNoNewClients := rsNoNewClients
        rsWelcome1 := rsWelcome1, rsWelcome2 := rsWelcome2, rsWelcome3 := rsWelcome3 }

end ProxyWorld

/-- The identifier a request carries. -/
def ApiRequest.identifier : ApiRequest → Identifier
  | .clientConnected request | .clientDisconnected request => request.identifier
  | .login request => request.identifier
  | .clientCommand request => request.identifier

/-- The item's request names the slot and the session it was made for. -/
def ApiItem.NamesRequester (item : ApiItem) : Prop :=
  item.request.identifier = { serverId := 1, playernum := item.slot, uniqueId := item.session }

/-!
### What a handler called for one slot may do

It touches that slot's user only and never sets its `lastQ3dfkey_`, adds calls
for that slot that name the slot and its session, sends server commands to that
slot only, and leaves the reply lines and the delivered logins alone.
-/

structure HandlerEffect (p : Slot) (w t : ProxyWorld) : Prop where
  users_other : ∀ q, q ≠ p → t.users q = w.users q
  noLastKey : (w.users p).lastQ3dfkey = [] → (t.users p).lastQ3dfkey = []
  pending : ∃ added, t.pending = w.pending ++ added ∧
    ∀ item ∈ added, item.NamesRequester ∧ item.slot = p
  serverCommands : ∃ sent, t.serverCommands = w.serverCommands ++ sent ∧
    ∀ command ∈ sent, command.clientNum = p.val ∧ command.purpose = .other
  lines : t.sentTextLinesToClient = w.sentTextLinesToClient ∧ t.replied = w.replied
  logins : t.logins = w.logins

namespace HandlerEffect

variable {p : Slot} {w t u : ProxyWorld}

/-- What two handlers do one after the other is again an effect on the same slot. -/
theorem trans (first : HandlerEffect p w t) (second : HandlerEffect p t u) : HandlerEffect p w u where
  users_other := fun q other => (second.users_other q other).trans (first.users_other q other)
  noLastKey := fun empty => second.noLastKey (first.noLastKey empty)
  pending := by
    obtain ⟨added, pending, named⟩ := first.pending
    obtain ⟨added', pending', named'⟩ := second.pending
    refine ⟨added ++ added', by rw [pending', pending, List.append_assoc], ?_⟩
    intro item new
    exact (List.mem_append.mp new).elim (named item) (named' item)
  serverCommands := by
    obtain ⟨sent, commands, addressed⟩ := first.serverCommands
    obtain ⟨sent', commands', addressed'⟩ := second.serverCommands
    refine ⟨sent ++ sent', by rw [commands', commands, List.append_assoc], ?_⟩
    intro command new
    exact (List.mem_append.mp new).elim (addressed command) (addressed' command)
  lines := ⟨second.lines.1.trans first.lines.1, second.lines.2.trans first.lines.2⟩
  logins := second.logins.trans first.logins

/-- A step in the fields no handler effect is about: the console, the cvars, the
engine's strings. -/
theorem of_sameFields (users : ∀ q, q ≠ p → t.users q = w.users q)
    (noLastKey : (w.users p).lastQ3dfkey = [] → (t.users p).lastQ3dfkey = [])
    (pending : t.pending = w.pending)
    (serverCommands : t.serverCommands = w.serverCommands)
    (lines : t.sentTextLinesToClient = w.sentTextLinesToClient ∧ t.replied = w.replied)
    (logins : t.logins = w.logins) : HandlerEffect p w t where
  users_other := users
  noLastKey := noLastKey
  pending := ⟨[], by simp [pending], by simp⟩
  serverCommands := ⟨[], by simp [serverCommands], by simp⟩
  lines := lines
  logins := logins

theorem refl (w : ProxyWorld) : HandlerEffect p w w :=
  of_sameFields (fun _ _ => rfl) id rfl rfl ⟨rfl, rfl⟩ rfl

/-- Writing the slot's own user is such an effect, unless it sets the last key. -/
theorem setUser (w : ProxyWorld) (cl : Q3User p)
    (noLastKey : (w.users p).lastQ3dfkey = [] → cl.lastQ3dfkey = []) :
    HandlerEffect p w (w.setUser p cl) :=
  of_sameFields (fun q other => ProxyWorld.users_setUser_other w p q cl other) (by simpa using noLastKey)
    rfl rfl ⟨rfl, rfl⟩ rfl

theorem print (w : ProxyWorld) (text : CString) : HandlerEffect p w (w.print text) :=
  of_sameFields (fun _ _ => rfl) id rfl rfl ⟨rfl, rfl⟩ rfl

/-- Sending a request under the user's own identifier is such an effect. -/
theorem submit (w : ProxyWorld) (request : ApiRequest)
    (identifier : request.identifier = (w.users p).writeIdentifier) :
    HandlerEffect p w (w.submit p request) where
  users_other := fun _ _ => rfl
  noLastKey := id
  pending := ⟨_, rfl, by
    simp [ApiItem.NamesRequester, identifier, Q3User.writeIdentifier, Q3User.getPlayernum]⟩
  serverCommands := ⟨[], by simp, by simp⟩
  lines := ⟨rfl, rfl⟩
  logins := rfl

theorem sendServerCommand (w : ProxyWorld) (text : CString) :
    HandlerEffect p w (w.sendServerCommand p.val text .other) where
  users_other := fun _ _ => rfl
  noLastKey := id
  pending := ⟨[], by simp, by simp⟩
  serverCommands := ⟨_, rfl, by simp⟩
  lines := ⟨rfl, rfl⟩
  logins := rfl

/-- The handler of a changed userinfo keeps to its slot. -/
theorem userInfoChanged (w : ProxyWorld) :
    HandlerEffect p w (UserManagementPlugin.onClientUserInfoChanged p w) := by
  unfold UserManagementPlugin.onClientUserInfoChanged
  dsimp only
  refine trans (setUser w ((w.users p).setUserInfoString (w.userinfo p)) id) ?_
  generalize w.setUser p ((w.users p).setUserInfoString (w.userinfo p)) = informed
  split
  · exact trans (setUser informed ((informed.users p).setUserId 0) id) (sendServerCommand _ _)
  · split
    · exact submit _ _ rfl
    · exact refl _

/-- The handler of a connect keeps to its slot. -/
theorem connected (isFirstTime : Bool) (w : ProxyWorld) :
    HandlerEffect p w (UserManagementPlugin.onClientConnected p isFirstTime w).2 := by
  unfold UserManagementPlugin.onClientConnected
  dsimp only
  split
  · exact refl w
  · refine trans (setUser w ((w.users p).reset.setUniqueId w.randomUuid) fun _ => rfl) ?_
    generalize w.setUser p ((w.users p).reset.setUniqueId w.randomUuid) = fresh
    refine trans (userInfoChanged fresh) ?_
    generalize UserManagementPlugin.onClientUserInfoChanged p fresh = asked
    cases isFirstTime with
    | true =>
        refine trans (setUser asked ((asked.users p).setState .clientConnected) id) ?_
        refine trans (print _ _) (submit _ _ ?_)
        simp [ApiRequest.identifier, Q3User.writeIdentifier, Q3User.setState, Q3User.getPlayernum]
    | false =>
        have restored := setUser asked
          (((asked.users p).setState .clientActive).setUserId (asked.loginState p)) id
        exact trans restored (print _ _)

theorem disconnected (w : ProxyWorld) :
    HandlerEffect p w (UserManagementPlugin.onClientDisconnected p w) := by
  have reported := submit w (.clientDisconnected
    { identifier := (w.users p).writeIdentifier
      userId := (w.users p).userId
      userinfostring := (w.users p).userInfo.val }) rfl
  refine trans reported (trans (setUser _ (w.users p).reset fun _ => rfl) ?_)
  exact of_sameFields (fun _ _ => rfl) id rfl rfl ⟨rfl, rfl⟩ rfl

theorem sendWelcome (welcome : CString) (w : ProxyWorld) :
    HandlerEffect p w (UserManagementPlugin.sendWelcome p welcome w) := by
  unfold UserManagementPlugin.sendWelcome
  split
  · exact sendServerCommand w _
  · exact refl w

/-- The handler of a begin keeps to its slot. -/
theorem begun (w : ProxyWorld) : HandlerEffect p w (UserManagementPlugin.onClientBegin p w) := by
  unfold UserManagementPlugin.onClientBegin
  dsimp only
  refine trans (setUser w ((w.users p).setState .clientActive) id) ?_
  generalize w.setUser p ((w.users p).setState .clientActive) = active
  refine trans (sendWelcome active.rsWelcome1 active) ?_
  generalize UserManagementPlugin.sendWelcome p active.rsWelcome1 active = first
  refine trans (sendWelcome first.rsWelcome2 first) ?_
  generalize UserManagementPlugin.sendWelcome p first.rsWelcome2 first = second
  refine trans (sendWelcome second.rsWelcome3 second) ?_
  split <;> exact sendServerCommand _ _

/-- The handler of a player's command keeps to its slot. -/
theorem gameClientCommand (w : ProxyWorld) :
    HandlerEffect p w (UserCommandsPlugin.onGameClientCommand p w).2 := by
  unfold UserCommandsPlugin.onGameClientCommand
  dsimp only
  split
  · exact sendServerCommand w _
  · split
    · exact submit w _ rfl
    · exact refl w

end HandlerEffect

/-- The slot a handler is called for. -/
def PluginEvent.slot? : PluginEvent → Option Slot
  | .clientConnected p _ _ _ | .clientUserinfoChanged p _ | .clientBegin p | .clientDisconnected p
  | .clientCommand p _ => some p
  | .runFrame | .callback _ | .cvarsChanged _ _ _ _ => none

/-- Every handler that is called for a slot keeps to that slot. -/
theorem handlerEffect_of_step {w t : ProxyWorld} {event : PluginEvent} {p : Slot}
    (called : event.slot? = some p) (stepped : w.step event = some t) : HandlerEffect p w t := by
  cases event with
  | clientConnected p' isFirstTime info uuid =>
      cases called
      cases stepped
      refine .trans ?_ (.connected isFirstTime _)
      exact .of_sameFields (fun _ _ => rfl) id rfl rfl ⟨rfl, rfl⟩ rfl
  | clientUserinfoChanged p' info =>
      cases called
      cases stepped
      refine .trans ?_ (.userInfoChanged _)
      exact .of_sameFields (fun _ _ => rfl) id rfl rfl ⟨rfl, rfl⟩ rfl
  | clientBegin p' =>
      cases called
      simp only [ProxyWorld.step] at stepped
      split at stepped <;> cases stepped
      exact .begun w
  | clientDisconnected p' =>
      cases called
      cases stepped
      exact .disconnected w
  | clientCommand p' argv =>
      cases called
      cases stepped
      refine .trans ?_ (.gameClientCommand _)
      exact .of_sameFields (fun _ _ => rfl) id rfl rfl ⟨rfl, rfl⟩ rfl
  | runFrame | callback outcome | cvarsChanged => cases called

/-- The frame handler moves reply lines and leaves the users and the calls alone. -/
theorem runFrame_frame (w : ProxyWorld) :
    (UserCommandsPlugin.onGameRunFrame w).users = w.users ∧
      (UserCommandsPlugin.onGameRunFrame w).pending = w.pending ∧
      (UserCommandsPlugin.onGameRunFrame w).logins = w.logins ∧
      (UserCommandsPlugin.onGameRunFrame w).replied = w.replied := by
  unfold UserCommandsPlugin.onGameRunFrame
  dsimp only
  split
  · split
    · exact ⟨rfl, rfl, rfl, rfl⟩
    · split <;> exact ⟨rfl, rfl, rfl, rfl⟩
  · exact ⟨rfl, rfl, rfl, rfl⟩

/-- No callback submits a call or delivers another one. -/
theorem executeCallback_frame (item : ApiItem) (outcome : CallOutcome) (w : ProxyWorld) :
    (executeCallback item outcome w).pending = w.pending ∧
      (executeCallback item outcome w).logins = w.logins := by
  unfold executeCallback
  split
  · unfold UserManagementPlugin.loginCallback
    dsimp only
    split
    · exact ⟨rfl, rfl⟩
    · split <;> exact ⟨rfl, rfl⟩
  · unfold UserCommandsPlugin.onExecClientCommandFinished
    split <;> exact ⟨rfl, rfl⟩
  · split <;> exact ⟨rfl, rfl⟩
  · split <;> exact ⟨rfl, rfl⟩

@[simp] theorem pending_runCallback (w : ProxyWorld) (item : ApiItem) (rest : List ApiItem)
    (outcome : CallOutcome) : (w.runCallback item rest outcome).pending = rest :=
  (executeCallback_frame item outcome _).1

@[simp] theorem logins_runCallback (w : ProxyWorld) (item : ApiItem) (rest : List ApiItem)
    (outcome : CallOutcome) :
    (w.runCallback item rest outcome).logins = w.logins ++ loginRecord item outcome :=
  (executeCallback_frame item outcome _).2

/-- On an error the callback logs out the slot the reply names and tells that
slot. -/
theorem loginCallback_failed (res : LoginResponse) {error : CString} (failed : error ≠ [])
    (w : ProxyWorld) :
    (∀ q, q ≠ res.identifier.playernum →
        (UserManagementPlugin.loginCallback res error w).users q = w.users q) ∧
      (UserManagementPlugin.loginCallback res error w).users res.identifier.playernum =
        (w.users res.identifier.playernum).setUserId 0 ∧
      ∃ sent, (UserManagementPlugin.loginCallback res error w).serverCommands =
          w.serverCommands ++ sent ∧ sent ≠ [] ∧
        ∀ command ∈ sent, command.clientNum = res.identifier.playernum.val := by
  unfold UserManagementPlugin.loginCallback
  simp only [ne_eq, failed, not_false_eq_true, if_true]
  refine ⟨fun q other => by simp [other], by simp, ?_⟩
  simp only [ProxyWorld.serverCommands_setUser, ProxyWorld.serverCommands_sendServerCommand,
    List.append_assoc]
  exact ⟨_, rfl, by simp, by simp⟩

/-- On success the callback touches the slot the reply names if it is still in
the session the reply names. -/
theorem loginCallback_succeeded (res : LoginResponse) (w : ProxyWorld) :
    (∀ q, q ≠ res.identifier.playernum →
        (UserManagementPlugin.loginCallback res [] w).users q = w.users q) ∧
      ((w.users res.identifier.playernum).uniqueId = res.identifier.uniqueId →
        (UserManagementPlugin.loginCallback res [] w).users res.identifier.playernum =
          (w.users res.identifier.playernum).setUserId res.userId) ∧
      ((w.users res.identifier.playernum).uniqueId ≠ res.identifier.uniqueId →
        (UserManagementPlugin.loginCallback res [] w).users = w.users) ∧
      ∃ sent, (UserManagementPlugin.loginCallback res [] w).serverCommands =
          w.serverCommands ++ sent ∧
        ∀ command ∈ sent, command.clientNum = res.identifier.playernum.val := by
  unfold UserManagementPlugin.loginCallback
  simp only [ne_eq, not_true_eq_false, if_false]
  split
  · rename_i sameSession
    refine ⟨fun q other => by simp [other], fun _ => by simp, fun other => absurd sameSession other, ?_⟩
    exact ⟨_, rfl, by simp⟩
  · rename_i otherSession
    exact ⟨fun q _ => rfl, fun same => absurd same otherSession, fun _ => rfl, [], by simp, by simp⟩

/-- A callback event takes the call at the head of the queue. -/
theorem callback_eq_some {w t : ProxyWorld} {outcome : CallOutcome}
    (stepped : w.step (.callback outcome) = some t) :
    ∃ item rest, w.pending = item :: rest ∧ t = w.runCallback item rest outcome := by
  simp only [ProxyWorld.step] at stepped
  split at stepped
  · cases stepped
  · rename_i item rest pending
    exact ⟨item, rest, pending, (Option.some.inj stepped).symm⟩

/-- Every pending call names its requester. -/
def IdentifiersMatch (w : ProxyWorld) : Prop :=
  ∀ item ∈ w.pending, item.NamesRequester

/-- Every pending call still carries the identifier of its user when the reply
comes. -/
theorem IdentifiersMatch.step {w t : ProxyWorld} {event : PluginEvent} (named : IdentifiersMatch w)
    (stepped : w.step event = some t) : IdentifiersMatch t := by
  cases called : event.slot? with
  | some p =>
      obtain ⟨added, pending, addedNamed⟩ := (handlerEffect_of_step called stepped).pending
      intro item inPending
      rw [pending] at inPending
      exact (List.mem_append.mp inPending).elim (named item) fun new => (addedNamed item new).1
  | none =>
      cases event with
      | clientConnected | clientUserinfoChanged | clientBegin | clientDisconnected | clientCommand =>
          cases called
      | runFrame =>
          cases stepped
          intro item inPending
          rw [(runFrame_frame w).2.1] at inPending
          exact named item inPending
      | callback outcome =>
          obtain ⟨done, rest, pending, rfl⟩ := callback_eq_some stepped
          intro item inPending
          rw [pending_runCallback] at inPending
          exact named item (pending ▸ List.mem_cons_of_mem done inPending)
      | cvarsChanged =>
          cases stepped
          exact named

end Q3df.Client
