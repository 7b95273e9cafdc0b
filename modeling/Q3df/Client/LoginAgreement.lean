/-
Module: Q3df.Client.LoginAgreement
Layer: Client
Purpose: Which userId a slot has once no `Login` is pending. The last `Login` of a connected slot is
  always one of its present session, and is for its present key unless the key was cleared since; when
  it is done, the slot agrees with it. Three things break the agreement: an id returned for a player
  whose key is empty by then, and a call lost in transport, which logs out slot 0 and leaves the
  requester logged in. The condition `LoginGuard` on the delivered replies excludes exactly these.
Imports: Q3df.Client.PluginEvents
Trusted boundary: none
Main exports: Agrees, LoginGuard, LoginsTracked, agrees_at_quiescence
Open obligations: none
-/
import Q3df.Client.PluginEvents

namespace Q3df.Client

open Q3df.Transition

/-- The slot has a player, as far as the plugin knows. -/
def ProxyWorld.Connected (w : ProxyWorld) (p : Slot) : Prop := (w.users p).state ≠ .clientFree

instance (w : ProxyWorld) (p : Slot) : Decidable (w.Connected p) :=
  inferInstanceAs (Decidable (_ ≠ _))

/-- The call is a `Login` made for the slot. -/
def ApiItem.isLoginFor (item : ApiItem) (p : Slot) : Bool :=
  match item.request with
  | .login _ => item.slot = p
  | .clientConnected _ | .clientDisconnected _ | .clientCommand _ => false

/-- The key a `Login` was sent with. -/
def ApiItem.loginKey? (item : ApiItem) : Option CString :=
  match item.request with
  | .login request => some request.q3dfkey
  | .clientConnected _ | .clientDisconnected _ | .clientCommand _ => none

/-- No `Login` is pending. -/
def ProxyWorld.Quiet (w : ProxyWorld) : Prop := ∀ item ∈ w.pending, item.loginKey? = none

instance (w : ProxyWorld) : Decidable w.Quiet := inferInstanceAs (Decidable (∀ item ∈ _, _))

/-- The last `Login` for the slot among the calls. -/
def lastLoginIn (p : Slot) (items : List ApiItem) : Option ApiItem :=
  (items.filter (·.isLoginFor p)).getLast?

/-- The last delivered `Login` of the slot's present session and key. -/
def ProxyWorld.lastLogin (w : ProxyWorld) (p : Slot) : Option LoginRecord :=
  (w.logins.filter fun record =>
    record.slot = p ∧ record.session = (w.users p).uniqueId ∧
      record.q3dfkey = (w.users p).q3dfKey).getLast?

/-- The slot's userId is the one the server returned for its key, and 0 if the
key is empty or the login failed. -/
def Agrees (w : ProxyWorld) (p : Slot) : Prop :=
  if (w.users p).q3dfKey = [] then (w.users p).userId = 0
  else ∃ record, w.lastLogin p = some record ∧ (w.users p).userId = record.userId.getD 0

/-- A connected slot whose `Login` calls are all among the delivered ones is
logged out. -/
def LoggedOutUnlessPending (w : ProxyWorld) (rest : List ApiItem) (p : Slot) : Prop :=
  w.Connected p → lastLoginIn p rest = none → (w.users p).userId = 0

/-- The condition on a delivered reply. An id for a connected player whose last
`Login` this is, and whose key is empty, must be 0; a `Login` of another slot
than 0 that is lost in transport must find both its slot and slot 0 logged out,
unless a later `Login` will correct them. -/
def LoginGuard (w : ProxyWorld) : PluginEvent → Prop
  | .callback outcome =>
      match w.pending with
      | [] => True
      | item :: rest =>
          match item.request, outcome with
          | .login _, .succeeded reply =>
              w.Connected item.slot → lastLoginIn item.slot rest = none →
                (w.users item.slot).uniqueId = item.session → (w.users item.slot).q3dfKey = [] →
                  reply.userId = 0
          | .login _, .transport _ =>
              item.slot ≠ 0 →
                LoggedOutUnlessPending w rest item.slot ∧ LoggedOutUnlessPending w rest 0
          | _, _ => True
  | _ => True

/-- What holds between the last `Login` of a connected slot and the slot: while
it is pending it is of the present session, and for the present key unless that
is empty; afterwards the slot agrees with it. -/
def Tracked (w : ProxyWorld) (p : Slot) : Prop :=
  match lastLoginIn p w.pending with
  | some item =>
      item.session = (w.users p).uniqueId ∧
        ((w.users p).q3dfKey = [] ∨ item.loginKey? = some (w.users p).q3dfKey)
  | none => Agrees w p

/-- The invariant of the guarded runs. No code sets `lastQ3dfkey_`, so it stays
empty. -/
structure LoginsTracked (w : ProxyWorld) : Prop where
  named : IdentifiersMatch w
  noLastKey : ∀ p, (w.users p).lastQ3dfkey = []
  tracked : ∀ p, w.Connected p → Tracked w p

theorem loginsTracked_initial (engine : EngineSetup) : LoginsTracked (.initial engine) where
  named := by simp [IdentifiersMatch, ProxyWorld.initial]
  noLastKey := fun _ => rfl
  tracked := fun _ connected => absurd rfl connected

/-!
### The last `Login` for a slot

Replies come in the order of the calls, so of the pending calls only the last
`Login` for a slot decides what its user holds when all have been answered.
-/

theorem lastLoginIn_append_none (p : Slot) (items : List ApiItem) {added : List ApiItem}
    (none : ∀ item ∈ added, item.isLoginFor p = false) :
    lastLoginIn p (items ++ added) = lastLoginIn p items := by
  have filtered : added.filter (·.isLoginFor p) = [] := by
    simp only [List.filter_eq_nil_iff]
    intro item new
    simp [none item new]
  simp [lastLoginIn, filtered]

/-- A `Login` behind all others is the last one. -/
theorem lastLoginIn_append_login (p : Slot) (items : List ApiItem) {item : ApiItem}
    (isLogin : item.isLoginFor p = true) : lastLoginIn p (items ++ [item]) = some item := by
  simp [lastLoginIn, isLogin]

/-- In front of a later `Login` an item does not count. -/
theorem lastLoginIn_cons_of_some {p : Slot} {item last : ApiItem} {rest : List ApiItem}
    (later : lastLoginIn p rest = some last) : lastLoginIn p (item :: rest) = some last := by
  unfold lastLoginIn at later ⊢
  by_cases isLogin : item.isLoginFor p
  · simp [isLogin, List.getLast?_cons, later]
  · simp [isLogin, later]

theorem lastLoginIn_cons_of_none {p : Slot} {item : ApiItem} {rest : List ApiItem}
    (noLater : lastLoginIn p rest = none) :
    lastLoginIn p (item :: rest) = if item.isLoginFor p then some item else none := by
  unfold lastLoginIn at noLater ⊢
  by_cases isLogin : item.isLoginFor p
  · simp [isLogin, List.getLast?_cons, noLater]
  · simp [isLogin, noLater]

theorem isLoginFor_other {p q : Slot} {item : ApiItem} (slot : item.slot = p) (other : q ≠ p) :
    item.isLoginFor q = false := by
  unfold ApiItem.isLoginFor
  split
  · simp [slot, Ne.symm other]
  · rfl
  · rfl
  · rfl

/-!
### Events that concern one slot

Handlers called for one slot touch its user alone. Each is shown to keep the
slot tracked, and to keep the other slots as they were.
-/

/-- A slot stays tracked if its user changes in the state only, and its pending
and delivered logins are unchanged. -/
theorem Tracked.of_sameLogin {w t : ProxyWorld} {p : Slot} {state : ClientState} (tracked : Tracked w p)
    (user : t.users p = (w.users p).setState state)
    (pending : lastLoginIn p t.pending = lastLoginIn p w.pending) (logins : t.logins = w.logins) :
    Tracked t p := by
  unfold Tracked Agrees ProxyWorld.lastLogin at tracked ⊢
  rw [pending, user, logins]
  exact tracked

/-- A slot stays tracked when its user, the pending `Login`s for it and the
record of logins are the same. -/
theorem Tracked.of_same {w t : ProxyWorld} {p : Slot} (tracked : Tracked w p)
    (user : t.users p = w.users p) (pending : lastLoginIn p t.pending = lastLoginIn p w.pending)
    (logins : t.logins = w.logins) : Tracked t p :=
  tracked.of_sameLogin (user.trans rfl : t.users p = (w.users p).setState (w.users p).state) pending logins

/-- A handler for another slot leaves the slot tracked. -/
theorem HandlerEffect.tracked_other {p q : Slot} {w t : ProxyWorld} (effect : HandlerEffect p w t)
    (other : q ≠ p) (tracked : Tracked w q) : Tracked t q := by
  obtain ⟨added, pending, named⟩ := effect.pending
  refine tracked.of_same (effect.users_other q other) ?_ effect.logins
  rw [pending]
  apply lastLoginIn_append_none
  intro item new
  exact isLoginFor_other (named item new).2 other

/-- The last `Login` of the slot is pending, and is for its present session and
key. -/
def Asked (w : ProxyWorld) (p : Slot) : Prop :=
  ∃ item, lastLoginIn p w.pending = some item ∧ item.session = (w.users p).uniqueId ∧
    item.loginKey? = some (w.users p).q3dfKey

/-- A slot whose current key has been asked for is tracked. -/
theorem Asked.tracked {w : ProxyWorld} {p : Slot} (asked : Asked w p) : Tracked w p := by
  obtain ⟨item, last, session, key⟩ := asked
  simp only [Tracked, last]
  exact ⟨session, .inr key⟩

/-- A step that keeps the slot's session and userinfo and submits no `Login` for
it. -/
theorem Asked.of_same {w t : ProxyWorld} {p : Slot} (asked : Asked w p)
    (session : (t.users p).uniqueId = (w.users p).uniqueId)
    (userInfo : (t.users p).userInfo = (w.users p).userInfo)
    (pending : lastLoginIn p t.pending = lastLoginIn p w.pending) : Asked t p := by
  obtain ⟨item, last, sameSession, key⟩ := asked
  refine ⟨item, pending.trans last, sameSession.trans session.symm, ?_⟩
  rw [key, Q3User.q3dfKey, Q3User.q3dfKey, Q3User.getUserInfo, Q3User.getUserInfo, userInfo]

/-- Sending a `Login` with the user's own identifier and key asks for that key. -/
theorem asked_of_submit {w : ProxyWorld} {p : Slot} :
    Asked (w.submit p (.login { identifier := (w.users p).writeIdentifier
                                q3dfkey := (w.users p).q3dfKey })) p :=
  ⟨_, lastLoginIn_append_login p _ (by simp [ApiItem.isLoginFor]), rfl, rfl⟩

/-- A logged out slot asks for a `Login` at every userinfo change. -/
theorem asked_of_userInfoChanged {w : ProxyWorld} {p : Slot} (loggedOut : (w.users p).userId = 0) :
    Asked (UserManagementPlugin.onClientUserInfoChanged p w) p := by
  unfold UserManagementPlugin.onClientUserInfoChanged
  dsimp only
  have informedOut : ((w.setUser p ((w.users p).setUserInfoString (w.userinfo p))).users p).userId = 0 := by
    simp [Q3User.setUserInfoString, loggedOut]
  generalize w.setUser p ((w.users p).setUserInfoString (w.userinfo p)) = informed at informedOut ⊢
  rw [if_neg (by simp [informedOut]), if_pos (.inl informedOut)]
  exact asked_of_submit

theorem state_userInfoChanged (p : Slot) (w : ProxyWorld) :
    ((UserManagementPlugin.onClientUserInfoChanged p w).users p).state = (w.users p).state := by
  unfold UserManagementPlugin.onClientUserInfoChanged
  dsimp only
  split
  · simp [Q3User.setUserInfoString, Q3User.setUserId]
  · split <;> simp [Q3User.setUserInfoString]

/-- After a userinfo change the slot is tracked, given that its last `Login` was
of the present session. -/
theorem tracked_of_userInfoChanged {w : ProxyWorld} {p : Slot}
    (noLastKey : (w.users p).lastQ3dfkey = []) (tracked : Tracked w p) :
    Tracked (UserManagementPlugin.onClientUserInfoChanged p w) p := by
  by_cases loggedOut : (w.users p).userId = 0
  · exact (asked_of_userInfoChanged loggedOut).tracked
  unfold UserManagementPlugin.onClientUserInfoChanged
  dsimp only
  have session : ∀ item, lastLoginIn p w.pending = some item →
      item.session = (w.users p).uniqueId := by
    intro item last
    simp only [Tracked, last] at tracked
    exact tracked.1
  have sameUser : ∀ cl : Q3User p, cl = (w.users p).setUserInfoString (w.userinfo p) →
      cl.userId ≠ 0 ∧ cl.lastQ3dfkey = [] ∧ cl.uniqueId = (w.users p).uniqueId := by
    rintro cl rfl
    exact ⟨loggedOut, noLastKey, rfl⟩
  obtain ⟨loggedIn, lastKey, sameSession⟩ := sameUser _ (ProxyWorld.users_setUser_same w p _)
  have samePending :
      (w.setUser p ((w.users p).setUserInfoString (w.userinfo p))).pending = w.pending := rfl
  generalize w.setUser p ((w.users p).setUserInfoString (w.userinfo p)) = informed at *
  by_cases cleared : (informed.users p).getUserInfo "q3dfkey".toList = []
  · -- the logout branch: a pending `Login` stays pending
    rw [if_pos ⟨cleared, loggedIn⟩]
    have emptyKey : ((informed.users p).setUserId 0).q3dfKey = [] := cleared
    unfold Tracked Agrees
    simp only [ProxyWorld.pending_sendServerCommand, ProxyWorld.pending_setUser, samePending,
      ProxyWorld.users_sendServerCommand, ProxyWorld.users_setUser_same, emptyKey, if_true]
    split
    · rename_i item last
      exact ⟨(session item last).trans sameSession.symm, .inl trivial⟩
    · rfl
  · rw [if_neg fun logsOut => cleared logsOut.1, if_pos (.inr (by rw [lastKey]; exact Ne.symm cleared))]
    exact asked_of_submit.tracked

/-- An accepted connect leaves a `Login` pending; a refused one changes nothing. -/
theorem tracked_of_connected {w : ProxyWorld} {p : Slot} (isFirstTime : Bool)
    (tracked : w.Connected p → Tracked w p)
    (connected : (UserManagementPlugin.onClientConnected p isFirstTime w).2.Connected p) :
    Tracked (UserManagementPlugin.onClientConnected p isFirstTime w).2 p := by
  unfold UserManagementPlugin.onClientConnected at connected ⊢
  dsimp only at connected ⊢
  by_cases latched : w.rsNoNewClients = 1
  · simp only [latched, if_true] at connected ⊢
    exact tracked connected
  · simp only [latched, if_false]
    have asked : Asked (UserManagementPlugin.onClientUserInfoChanged p
        (w.setUser p ((w.users p).reset.setUniqueId w.randomUuid))) p :=
      asked_of_userInfoChanged (by simp [Q3User.reset, Q3User.setUniqueId])
    generalize UserManagementPlugin.onClientUserInfoChanged p
      (w.setUser p ((w.users p).reset.setUniqueId w.randomUuid)) = world at asked
    cases isFirstTime with
    | true =>
        refine Asked.tracked (asked.of_same ?_ ?_ ?_)
        · simp [Q3User.setState]
        · simp [Q3User.setState]
        · exact lastLoginIn_append_none p _ (by simp [ApiItem.isLoginFor])
    | false =>
        simp only [Bool.false_eq_true, if_false]
        refine Asked.tracked (asked.of_same ?_ ?_ rfl)
        · simp [Q3User.setState, Q3User.setUserId]
        · simp [Q3User.setState, Q3User.setUserId]

theorem sendWelcome_frame (p : Slot) (welcome : CString) (w : ProxyWorld) :
    (UserManagementPlugin.sendWelcome p welcome w).users = w.users ∧
      (UserManagementPlugin.sendWelcome p welcome w).pending = w.pending ∧
      (UserManagementPlugin.sendWelcome p welcome w).logins = w.logins := by
  unfold UserManagementPlugin.sendWelcome
  split <;> exact ⟨rfl, rfl, rfl⟩

/-- `OnClientBegin` sets the state of the slot's user and prints a welcome.
Calls and logins stay. -/
theorem clientBegin_frame (p : Slot) (w : ProxyWorld) :
    (UserManagementPlugin.onClientBegin p w).users p = (w.users p).setState .clientActive ∧
      (UserManagementPlugin.onClientBegin p w).pending = w.pending ∧
      (UserManagementPlugin.onClientBegin p w).logins = w.logins := by
  unfold UserManagementPlugin.onClientBegin
  dsimp only
  split <;>
    simp only [ProxyWorld.users_sendServerCommand, ProxyWorld.pending_sendServerCommand,
      ProxyWorld.logins_sendServerCommand, sendWelcome_frame, ProxyWorld.users_setUser_same,
      ProxyWorld.pending_setUser, ProxyWorld.logins_setUser, and_self]

/-- A command of a player adds no `Login` to the pending calls. -/
theorem gameClientCommand_frame (p : Slot) (w : ProxyWorld) :
    (UserCommandsPlugin.onGameClientCommand p w).2.users = w.users ∧
      ∃ added, (UserCommandsPlugin.onGameClientCommand p w).2.pending = w.pending ++ added ∧
        ∀ item ∈ added, item.isLoginFor p = false := by
  unfold UserCommandsPlugin.onGameClientCommand
  dsimp only
  split
  · exact ⟨rfl, [], by simp, by simp⟩
  · split
    · exact ⟨rfl, _, rfl, by simp [ApiItem.isLoginFor]⟩
    · exact ⟨rfl, [], by simp, by simp⟩

/-- The handlers called for a slot keep it tracked. -/
theorem LoginsTracked.tracked_slot {w t : ProxyWorld} {event : PluginEvent} {p : Slot}
    (inv : LoginsTracked w) (called : event.slot? = some p) (stepped : w.step event = some t)
    (connected : t.Connected p) : Tracked t p := by
  cases event with
  | clientConnected p' isFirstTime info uuid =>
      cases called
      cases stepped
      refine tracked_of_connected isFirstTime (fun wasConnected => ?_) connected
      exact (inv.tracked p wasConnected).of_same rfl rfl rfl
  | clientUserinfoChanged p' info =>
      cases called
      cases stepped
      have wasConnected : w.Connected p := by
        unfold ProxyWorld.Connected at connected ⊢
        rwa [state_userInfoChanged] at connected
      exact tracked_of_userInfoChanged (inv.noLastKey p)
        ((inv.tracked p wasConnected).of_same rfl rfl rfl)
  | clientBegin p' =>
      cases called
      simp only [ProxyWorld.step] at stepped
      split at stepped <;> cases stepped
      rename_i wasConnected
      obtain ⟨user, pending, logins⟩ := clientBegin_frame p w
      exact (inv.tracked p wasConnected).of_sameLogin user (by rw [pending]) logins
  | clientDisconnected p' =>
      cases called
      cases stepped
      exact absurd (by simp [UserManagementPlugin.onClientDisconnected, Q3User.reset]) connected
  | clientCommand p' argv =>
      have logins := (handlerEffect_of_step called stepped).logins
      cases called
      cases stepped
      obtain ⟨users, added, pending, noLogin⟩ := gameClientCommand_frame p { w with argv := argv }
      have wasConnected : w.Connected p := by
        unfold ProxyWorld.Connected at connected ⊢
        rwa [users] at connected
      refine (inv.tracked p wasConnected).of_same (by rw [users]) ?_ logins
      rw [pending]
      exact lastLoginIn_append_none p w.pending noLogin
  | runFrame | callback outcome | cvarsChanged => cases called

/-!
### Replies

A reply is delivered to the user whose identifier it carries. If a later `Login`
for the slot is pending, the reply is overwritten by that one's in time.
-/

/-- A callback keeps everything of a user but the userId. -/
theorem executeCallback_users (item : ApiItem) (outcome : CallOutcome) (w : ProxyWorld) (q : Slot) :
    ∃ userId, (executeCallback item outcome w).users q = (w.users q).setUserId userId := by
  have unchanged : ∃ userId, w.users q = (w.users q).setUserId userId := ⟨(w.users q).userId, rfl⟩
  unfold executeCallback
  split
  · rename_i request _
    generalize request.response outcome = res
    by_cases target : q = res.identifier.playernum
    · subst target
      by_cases failed : outcome.error = []
      · rw [failed]
        obtain ⟨_, sameSession, otherSession, _⟩ := loginCallback_succeeded res w
        by_cases same : (w.users res.identifier.playernum).uniqueId = res.identifier.uniqueId
        · exact ⟨_, sameSession same⟩
        · rw [otherSession same]
          exact unchanged
      · exact ⟨0, (loginCallback_failed res failed w).2.1⟩
    · by_cases failed : outcome.error = []
      · rw [failed, (loginCallback_succeeded res w).1 q target]
        exact unchanged
      · rw [(loginCallback_failed res failed w).1 q target]
        exact unchanged
  · unfold UserCommandsPlugin.onExecClientCommandFinished
    split <;> exact unchanged
  · split <;> exact unchanged
  · split <;> exact unchanged

/-- What a delivered `Login` does to the slot it was made for, in the session it
was made in. -/
theorem executeCallback_requester {item : ApiItem} {request : LoginRequest}
    (isLogin : item.request = .login request)
    (named : request.identifier = { serverId := 1, playernum := item.slot, uniqueId := item.session })
    (w : ProxyWorld) :
    (∀ reply, (w.users item.slot).uniqueId = item.session →
        (executeCallback item (.succeeded reply) w).users item.slot =
          (w.users item.slot).setUserId reply.userId) ∧
      (∀ error, (executeCallback item (.rejected error) w).users item.slot =
        (w.users item.slot).setUserId 0) ∧
      ∀ error, (executeCallback item (.transport error) w).users 0 = (w.users 0).setUserId 0 := by
  obtain ⟨identifier, q3dfkey⟩ := request
  simp only at named
  subst named
  unfold executeCallback
  rw [isLogin]
  refine ⟨fun reply session => ?_, fun error => ?_, fun error => ?_⟩
  · exact (loginCallback_succeeded (LoginRequest.response _ (.succeeded reply)) w).2.1 session
  · exact (loginCallback_failed (LoginRequest.response _ (.rejected error)) error.property w).2.1
  · exact (loginCallback_failed (LoginRequest.response _ (.transport error)) error.property w).2.1

/-- What a delivered call does to the slots it was not made for: nothing, unless
it was lost in transport. -/
theorem executeCallback_others {item : ApiItem} {outcome : CallOutcome} (named : item.NamesRequester)
    (w : ProxyWorld) {q : Slot} (other : item.isLoginFor q = false)
    (notLost : (∃ error, outcome = .transport error) → q ≠ 0) :
    (executeCallback item outcome w).users q = w.users q := by
  unfold executeCallback
  split
  · rename_i request isLogin
    simp only [ApiItem.isLoginFor, isLogin, decide_eq_false_iff_not] at other
    simp only [ApiItem.NamesRequester, isLogin, ApiRequest.identifier] at named
    cases outcome with
    | succeeded reply =>
        exact (loginCallback_succeeded _ w).1 q (by simpa [LoginRequest.response, named] using Ne.symm other)
    | rejected error =>
        exact (loginCallback_failed _ error.property w).1 q
          (by simpa [LoginRequest.response, named] using Ne.symm other)
    | transport error =>
        exact (loginCallback_failed _ error.property w).1 q
          (by simpa [LoginRequest.response, Identifier.unfilled] using notLost ⟨error, rfl⟩)
  · unfold UserCommandsPlugin.onExecClientCommandFinished
    split <;> rfl
  · split <;> rfl
  · split <;> rfl

/-- Agreement survives replies to other slots. -/
theorem Agrees.of_sameUser {w t : ProxyWorld} {q : Slot} (agrees : Agrees w q)
    (user : t.users q = w.users q) {records : List LoginRecord}
    (logins : t.logins = w.logins ++ records) (others : ∀ record ∈ records, record.slot ≠ q) :
    Agrees t q := by
  have sameLast : t.lastLogin q = w.lastLogin q := by
    have none : records.filter (fun record => record.slot = q ∧
        record.session = (w.users q).uniqueId ∧ record.q3dfkey = (w.users q).q3dfKey) = [] := by
      simp only [List.filter_eq_nil_iff, decide_eq_true_eq]
      intro record new matching
      exact others record new matching.1
    rw [ProxyWorld.lastLogin, ProxyWorld.lastLogin, logins, user, List.filter_append, none,
      List.append_nil]
  unfold Agrees at agrees ⊢
  rw [user, sameLast]
  exact agrees

/-- A reply just delivered to the user it was sent for makes the slot agree. -/
theorem agrees_of_delivered {t : ProxyWorld} {q : Slot} {before : List LoginRecord}
    {record : LoginRecord} (logins : t.logins = before ++ [record]) (slot : record.slot = q)
    (session : record.session = (t.users q).uniqueId)
    (key : (t.users q).q3dfKey = [] ∨ record.q3dfkey = (t.users q).q3dfKey)
    (userId : (t.users q).userId = record.userId.getD 0)
    (cleared : (t.users q).q3dfKey = [] → (t.users q).userId = 0) : Agrees t q := by
  unfold Agrees
  split
  · rename_i empty
    exact cleared empty
  · rename_i notEmpty
    have sameKey := key.resolve_left notEmpty
    exact ⟨record, by simp [ProxyWorld.lastLogin, logins, slot, session, sameKey], userId⟩

/-- The userId of a connected slot after its last `Login` was delivered: the id
of a success and 0 after a failure. -/
theorem userId_of_lastDelivered {w : ProxyWorld} {item : ApiItem} {rest : List ApiItem}
    {request : LoginRequest} {outcome : CallOutcome} (inv : LoginsTracked w)
    (next : w.pending = item :: rest) (isLogin : item.request = .login request)
    (guard : LoginGuard w (.callback outcome)) (connected : w.Connected item.slot)
    (last : lastLoginIn item.slot rest = none) (session : item.session = (w.users item.slot).uniqueId)
    (w' : ProxyWorld) (users : w'.users = w.users) :
    ∃ record, loginRecord item outcome = [record] ∧ record.slot = item.slot ∧
      record.session = item.session ∧ record.q3dfkey = request.q3dfkey ∧
      ((executeCallback item outcome w').users item.slot).userId = record.userId.getD 0 ∧
      ((w.users item.slot).q3dfKey = [] →
        ((executeCallback item outcome w').users item.slot).userId = 0) := by
  have named : request.identifier =
      { serverId := 1, playernum := item.slot, uniqueId := item.session } := by
    have itemNamed := inv.named item (by rw [next]; exact List.mem_cons_self)
    rwa [ApiItem.NamesRequester, isLogin] at itemNamed
  obtain ⟨succeeded, rejected, lost⟩ := executeCallback_requester isLogin named w'
  simp only [LoginGuard, next, isLogin] at guard
  unfold loginRecord
  rw [isLogin]
  refine ⟨_, rfl, rfl, rfl, rfl, ?_⟩
  cases outcome with
  | succeeded reply =>
      have answered := succeeded reply (by rw [users, session])
      rw [answered]
      exact ⟨rfl, guard connected last session.symm⟩
  | rejected error =>
      rw [rejected error]
      exact ⟨rfl, fun _ => rfl⟩
  | transport error =>
      have out : ((executeCallback item (.transport error) w').users item.slot).userId = 0 := by
        by_cases isZero : item.slot = 0
        · rw [isZero, lost error]
          rfl
        · -- another slot is logged out instead, so the guard has to say it
          have wasOut := (guard isZero).1 connected last
          obtain ⟨identifier, q3dfkey⟩ := request
          simp only at named
          subst named
          have untouched : (executeCallback item (.transport error) w').users item.slot =
              w'.users item.slot := by
            unfold executeCallback
            rw [isLogin]
            exact (loginCallback_failed (LoginRequest.response _ (.transport error))
              error.property w').1 item.slot isZero
          rw [untouched, users]
          exact wasOut
      exact ⟨out, fun _ => out⟩

/-- A call that is not a `Login` leaves the users alone, however it ended. -/
theorem executeCallback_notLogin {item : ApiItem} (notLogin : ∀ request, item.request ≠ .login request)
    (outcome : CallOutcome) (w : ProxyWorld) : (executeCallback item outcome w).users = w.users := by
  unfold executeCallback
  split
  · rename_i request isLogin
    exact absurd isLogin (notLogin request)
  · unfold UserCommandsPlugin.onExecClientCommandFinished
    split <;> rfl
  · split <;> rfl
  · split <;> rfl

/-- A connected slot that the delivered call was not made for, and that has no
`Login` pending, keeps its user: where a lost call logs out slot 0, the guard
says that it is logged out already. -/
theorem executeCallback_untouched {w : ProxyWorld} {item : ApiItem} {rest : List ApiItem}
    {outcome : CallOutcome} (inv : LoginsTracked w) (next : w.pending = item :: rest)
    (guard : LoginGuard w (.callback outcome)) {q : Slot} (connected : w.Connected q)
    (last : lastLoginIn q rest = none) (notFor : item.isLoginFor q = false) (w' : ProxyWorld)
    (users : w'.users = w.users) : (executeCallback item outcome w').users q = w.users q := by
  have named := inv.named item (by rw [next]; exact List.mem_cons_self)
  by_cases isLogin : ∃ request, item.request = .login request
  · obtain ⟨request, isLogin⟩ := isLogin
    by_cases lostAtZero : (∃ error, outcome = .transport error) ∧ q = 0
    · obtain ⟨⟨error, rfl⟩, rfl⟩ := lostAtZero
      have slot : item.slot ≠ 0 := by simpa [ApiItem.isLoginFor, isLogin] using notFor
      simp only [LoginGuard, next, isLogin] at guard
      have out := (guard slot).2 connected last
      rw [ApiItem.NamesRequester, isLogin] at named
      rw [(executeCallback_requester isLogin named w').2.2 error, users]
      calc (w.users 0).setUserId 0
          = (w.users 0).setUserId (w.users 0).userId := by rw [out]
        _ = w.users 0 := rfl
    · rw [executeCallback_others named w' notFor fun lost zero => lostAtZero ⟨lost, zero⟩, users]
  · rw [executeCallback_notLogin (not_exists.mp isLogin), users]

theorem loginRecord_other {item : ApiItem} {outcome : CallOutcome} {q : Slot}
    (notFor : item.isLoginFor q = false) : ∀ record ∈ loginRecord item outcome, record.slot ≠ q := by
  intro record new
  unfold loginRecord at new
  split at new
  · rename_i request isLogin
    rw [List.mem_singleton.mp new]
    simpa [ApiItem.isLoginFor, isLogin] using notFor
  · cases new
  · cases new
  · cases new

/-- After a reply has been delivered every connected slot is still tracked. -/
theorem LoginsTracked.callback {w : ProxyWorld} {item : ApiItem} {rest : List ApiItem}
    {outcome : CallOutcome} (inv : LoginsTracked w) (next : w.pending = item :: rest)
    (guard : LoginGuard w (.callback outcome)) {q : Slot}
    (connected : (w.runCallback item rest outcome).Connected q) :
    Tracked (w.runCallback item rest outcome) q := by
  obtain ⟨userId, user⟩ := executeCallback_users item outcome
    { w with pending := rest, logins := w.logins ++ loginRecord item outcome } q
  have userEq : (w.runCallback item rest outcome).users q = (w.users q).setUserId userId := user
  have wasConnected : w.Connected q := by
    unfold ProxyWorld.Connected at connected ⊢
    rw [userEq] at connected
    exact connected
  have tracked := inv.tracked q wasConnected
  have named := inv.named item (by rw [next]; exact List.mem_cons_self)
  unfold Tracked at tracked ⊢
  rw [next] at tracked
  rw [pending_runCallback]
  cases last : lastLoginIn q rest with
  | some later =>
      rw [lastLoginIn_cons_of_some last] at tracked
      rw [userEq]
      exact tracked
  | none =>
      rw [lastLoginIn_cons_of_none last] at tracked
      by_cases isLast : item.isLoginFor q = true
      · -- the last `Login` of this slot is being delivered
        rw [if_pos isLast] at tracked
        obtain ⟨session, key⟩ := tracked
        obtain ⟨request, isLogin⟩ : ∃ request, item.request = .login request := by
          unfold ApiItem.isLoginFor at isLast
          split at isLast
          · rename_i request isLogin
            exact ⟨request, isLogin⟩
          · cases isLast
          · cases isLast
          · cases isLast
        have slot : item.slot = q := by simpa [ApiItem.isLoginFor, isLogin] using isLast
        subst slot
        obtain ⟨record, recordEq, recordSlot, recordSession, recordKey, answered, cleared⟩ :=
          userId_of_lastDelivered inv next isLogin guard wasConnected last session
            { w with pending := rest, logins := w.logins ++ loginRecord item outcome } rfl
        have sameKey : ((w.runCallback item rest outcome).users item.slot).q3dfKey =
            (w.users item.slot).q3dfKey := by
          rw [userEq]
          rfl
        refine agrees_of_delivered (by rw [logins_runCallback, recordEq]) recordSlot ?_ ?_ answered ?_
        · rw [recordSession, session, userEq]
          rfl
        · rw [sameKey, recordKey]
          exact key.imp id fun same => by simpa [ApiItem.loginKey?, isLogin] using same
        · rw [sameKey]
          exact cleared
      · rw [if_neg isLast] at tracked
        have notFor : item.isLoginFor q = false := by simpa using isLast
        exact tracked.of_sameUser
          (executeCallback_untouched inv next guard wasConnected last notFor _ rfl)
          (logins_runCallback w item rest outcome) (loginRecord_other notFor)

/-- Every event keeps the account of the logins, if it meets the condition. -/
theorem LoginsTracked.step {w t : ProxyWorld} {event : PluginEvent} (inv : LoginsTracked w)
    (guard : LoginGuard w event) (stepped : w.step event = some t) : LoginsTracked t := by
  have named := inv.named.step stepped
  cases called : event.slot? with
  | some p =>
      have effect := handlerEffect_of_step called stepped
      have noLastKey : ∀ q, (t.users q).lastQ3dfkey = [] := by
        intro q
        by_cases same : q = p
        · subst same
          exact effect.noLastKey (inv.noLastKey q)
        · rw [effect.users_other q same]
          exact inv.noLastKey q
      refine ⟨named, noLastKey, fun q connected => ?_⟩
      by_cases same : q = p
      · subst same
        exact inv.tracked_slot called stepped connected
      · refine effect.tracked_other same (inv.tracked q ?_)
        unfold ProxyWorld.Connected at connected ⊢
        rwa [effect.users_other q same] at connected
  | none =>
      cases event with
      | clientConnected | clientUserinfoChanged | clientBegin | clientDisconnected | clientCommand =>
          cases called
      | runFrame =>
          cases stepped
          obtain ⟨users, pending, logins, _⟩ := runFrame_frame w
          refine ⟨named, by rw [users]; exact inv.noLastKey, fun q connected => ?_⟩
          unfold ProxyWorld.Connected at connected
          rw [users] at connected
          exact (inv.tracked q connected).of_same (by rw [users]) (by rw [pending]) logins
      | callback outcome =>
          obtain ⟨item, rest, next, rfl⟩ := callback_eq_some stepped
          refine ⟨named, fun q => ?_, fun q connected => inv.callback next guard connected⟩
          obtain ⟨userId, user⟩ := executeCallback_users item outcome
            { w with pending := rest, logins := w.logins ++ loginRecord item outcome } q
          rw [ProxyWorld.runCallback, user]
          exact inv.noLastKey q
      | cvarsChanged =>
          cases stepped
          exact ⟨named, inv.noLastKey, fun q connected =>
            (inv.tracked q connected).of_same rfl rfl rfl⟩

/-- In a run whose delivered replies meet the guard, whenever no `Login` is
pending every connected slot has the userId the server returned for its key, 0
for the empty key and after a failed login. -/
theorem agrees_at_quiescence {engine : EngineSetup} {events : List PluginEvent} {w : ProxyWorld}
    (ran : run ProxyWorld.step (.initial engine) events = some w)
    (guarded : StepsMeet ProxyWorld.step LoginGuard (.initial engine) events)
    (quiet : w.Quiet) {p : Slot} (connected : w.Connected p) : Agrees w p := by
  have inv := run_invariant_of_stepsMeet LoginsTracked.step (loginsTracked_initial engine) guarded ran
  have tracked := inv.tracked p connected
  have none : lastLoginIn p w.pending = none := by
    unfold lastLoginIn
    rw [List.getLast?_eq_none_iff, List.filter_eq_nil_iff]
    intro item inPending
    have notLogin := quiet item inPending
    unfold ApiItem.loginKey? at notLogin
    unfold ApiItem.isLoginFor
    split <;> simp_all
  simp only [Tracked, none] at tracked
  exact tracked

/-!
### A player with a key and a player without

The player with a key ends up with the id that the reply to it carries. The one
without is asked for all the same, and is logged in with the id the server
returns.
-/

/-- A player with a key connects, and the server returns an id. -/
def keyedLogin : List PluginEvent :=
  [.clientConnected 0 true ⟨"\\q3dfkey\\abc".toList, by decide⟩ "a".toList,
    .callback (.succeeded ⟨11, []⟩)]

/-- The world after it. -/
def keyedWorld : ProxyWorld := (run ProxyWorld.step (.initial .blank) keyedLogin).getD (.initial .blank)

/-- The exact condition at a player who connects with a key. -/
theorem agrees_keyedLogin :
    run ProxyWorld.step (.initial .blank) keyedLogin = some keyedWorld ∧
      (keyedWorld.users 0).userId = 11 ∧ Agrees keyedWorld 0 := by
  have ran : run ProxyWorld.step (.initial .blank) keyedLogin = some keyedWorld := rfl
  have guarded : StepsMeet ProxyWorld.step LoginGuard (.initial .blank) keyedLogin := by
    refine ⟨trivial, fun w connected => ?_⟩
    cases connected
    refine ⟨fun _ _ _ cleared => ?_, fun w _ => trivial⟩
    exact absurd cleared (by decide)
  exact ⟨ran, rfl, agrees_at_quiescence ran guarded (by decide) (by decide)⟩

/-- A player without a key connects, and the server returns an id all the same. -/
def keylessLogin : List PluginEvent :=
  [.clientConnected 0 true .empty "a".toList, .callback (.succeeded ⟨11, []⟩)]

/-- The world after it. -/
def keylessWorld : ProxyWorld :=
  (run ProxyWorld.step (.initial .blank) keylessLogin).getD (.initial .blank)

/-- The connected player without a key is logged in as player 11. -/
theorem not_agrees_keylessLogin :
    run ProxyWorld.step (.initial .blank) keylessLogin = some keylessWorld ∧ keylessWorld.Quiet ∧
      keylessWorld.Connected 0 ∧ (keylessWorld.users 0).q3dfKey = [] ∧
        (keylessWorld.users 0).userId = 11 ∧ ¬Agrees keylessWorld 0 := by
  refine ⟨rfl, by decide, by decide, rfl, rfl, ?_⟩
  intro agrees
  have noKey : (keylessWorld.users 0).q3dfKey = [] := rfl
  rw [Agrees, if_pos noKey] at agrees
  exact absurd agrees (by decide)

end Q3df.Client
