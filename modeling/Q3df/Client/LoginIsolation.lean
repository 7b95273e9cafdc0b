/-
Module: Q3df.Client.LoginIsolation
Layer: Client
Purpose: Whose state the callback of a `Login` touches. The callback takes its target from the reply. A
  successful reply names the requester and the callback compares the session; a rejected reply names the
  requester too but the callback does not compare the session; a reply that never arrived names slot 0.
  So the callback keeps to the requester in every reachable state exactly under the condition
  `KeepsToRequester`.
Imports: Q3df.Client.PluginEvents
Trusted boundary: none
Main exports: Isolated, KeepsToRequester, login_callback_isolated_iff
Open obligations: none
-/
import Q3df.Client.PluginEvents

namespace Q3df.Client

open Q3df.Transition

/-- From `w` to `t` no other slot's userId changed, the slot the item was
requested for changed only in the session it was requested in, and every new
server command went to that slot. -/
structure Isolated (item : ApiItem) (w t : ProxyWorld) : Prop where
  others : ∀ q, q ≠ item.slot → (t.users q).userId = (w.users q).userId
  session : (t.users item.slot).userId ≠ (w.users item.slot).userId →
    (w.users item.slot).uniqueId = item.session
  commands : ∃ sent, t.serverCommands = w.serverCommands ++ sent ∧
    ∀ command ∈ sent, command.clientNum = item.slot.val

/-- The slot is still in the session the item was requested in, or is logged out
anyway. -/
def SameSessionOrLoggedOut (item : ApiItem) (w : ProxyWorld) : Prop :=
  (w.users item.slot).uniqueId = item.session ∨ (w.users item.slot).userId = 0

/-- The condition on a completed `Login`, by how the call ended. -/
def KeepsToRequester (item : ApiItem) (w : ProxyWorld) : CallOutcome → Prop
  | .succeeded _ => True
  | .rejected _ => SameSessionOrLoggedOut item w
  | .transport _ => item.slot = 0 ∧ SameSessionOrLoggedOut item w

/-- A failed `Login` keeps to its requester exactly when the reply names the
requester's slot, and that slot is still in the session or logged out anyway. -/
theorem isolated_of_failed_iff {item : ApiItem} {res : LoginResponse} {error : CString}
    (failed : error ≠ []) (w : ProxyWorld) :
    Isolated item w (UserManagementPlugin.loginCallback res error w) ↔
      res.identifier.playernum = item.slot ∧ SameSessionOrLoggedOut item w := by
  obtain ⟨usersOther, loggedOut, sent, commands, notEmpty, addressed⟩ :=
    loginCallback_failed res failed w
  constructor
  · rintro ⟨others, session, sent', commands', addressed'⟩
    have target : res.identifier.playernum = item.slot := by
      obtain ⟨command, inSent⟩ := List.exists_mem_of_ne_nil sent notEmpty
      have sameSent : sent' = sent := List.append_cancel_left (commands'.symm.trans commands)
      subst sameSent
      have sameNumber := (addressed command inSent).symm.trans (addressed' command inSent)
      exact Fin.ext (by exact_mod_cast sameNumber)
    refine ⟨target, ?_⟩
    by_cases out : (w.users item.slot).userId = 0
    · exact .inr out
    · refine .inl (session ?_)
      rw [← target, loggedOut, target]
      exact Ne.symm out
  · rintro ⟨target, own⟩
    constructor
    · intro q other
      rw [usersOther q (by rw [target]; exact other)]
    · intro changed
      rcases own with same | out
      · exact same
      · rw [← target, loggedOut, target, out] at changed
        exact absurd rfl changed
    · exact ⟨sent, commands, by rw [← target]; exact addressed⟩

/-- A response that echoes the identifier of its request is delivered to the
slot that asked. -/
theorem isolated_of_succeeded {item : ApiItem} {res : LoginResponse}
    (named : res.identifier.playernum = item.slot ∧ res.identifier.uniqueId = item.session)
    (w : ProxyWorld) : Isolated item w (UserManagementPlugin.loginCallback res [] w) := by
  obtain ⟨usersOther, matching, notMatching, sent, commands, addressed⟩ :=
    loginCallback_succeeded res w
  obtain ⟨target, session⟩ := named
  constructor
  · intro q other
    rw [usersOther q (by rw [target]; exact other)]
  · intro changed
    by_contra left
    rw [← target, ← session] at left
    rw [notMatching left] at changed
    exact changed rfl
  · exact ⟨sent, commands, by rw [← target]; exact addressed⟩

/-- A world that differs in the queue and the history only. -/
theorem Isolated.of_sameUsers {item : ApiItem} {w w' t : ProxyWorld} (users : w'.users = w.users)
    (commands : w'.serverCommands = w.serverCommands) :
    Isolated item w' t ↔ Isolated item w t := by
  constructor <;> rintro ⟨others, session, sent⟩
  · exact ⟨by rwa [users] at others, by rwa [users] at session, by rwa [commands] at sent⟩
  · exact ⟨by rwa [users], by rwa [users], by rwa [commands]⟩

/-- In every reachable state, running the callback of the completed `Login` at
the head of the queue keeps to the slot and the session it was requested for
exactly when `KeepsToRequester` holds. -/
theorem login_callback_isolated_iff {engine : EngineSetup} {events : List PluginEvent}
    {w t : ProxyWorld} (ran : run ProxyWorld.step (.initial engine) events = some w) {item : ApiItem}
    {request : LoginRequest} {rest : List ApiItem} (next : w.pending = item :: rest)
    (isLogin : item.request = .login request) {outcome : CallOutcome}
    (completed : w.step (.callback outcome) = some t) :
    Isolated item w t ↔ KeepsToRequester item w outcome := by
  have named : request.identifier =
      { serverId := 1, playernum := item.slot, uniqueId := item.session } := by
    have allNamed : IdentifiersMatch w :=
      run_invariant IdentifiersMatch.step (by simp [IdentifiersMatch, ProxyWorld.initial]) ran
    have itemNamed := allNamed item (by rw [next]; exact List.mem_cons_self)
    rwa [ApiItem.NamesRequester, isLogin] at itemNamed
  obtain ⟨item', rest', next', rfl⟩ := callback_eq_some completed
  rw [next] at next'
  cases next'
  unfold ProxyWorld.runCallback executeCallback
  rw [isLogin]
  dsimp only
  have forget : ∀ t, Isolated item { w with
      pending := rest, logins := w.logins ++ loginRecord item outcome } t ↔ Isolated item w t :=
    fun _ => Isolated.of_sameUsers rfl rfl
  rw [← forget]
  cases outcome with
  | succeeded reply =>
      exact iff_of_true (isolated_of_succeeded (by simp [LoginRequest.response, named]) _) trivial
  | rejected error =>
      simp only [CallOutcome.error]
      rw [isolated_of_failed_iff error.property]
      simp [LoginRequest.response, named, KeepsToRequester, SameSessionOrLoggedOut]
  | transport error =>
      simp only [CallOutcome.error]
      rw [isolated_of_failed_iff error.property]
      simp [LoginRequest.response, Identifier.unfilled, KeepsToRequester, SameSessionOrLoggedOut,
        eq_comm]

/-!
### Two players and one lost reply

The `Login` of player 1 fails in transport. Its empty response names slot 0, so
player 0 is logged out.
-/

theorem keyedInfo_fits : "\\q3dfkey\\abc".toList.length < maxInfoString := by decide

/-- A userinfo string with a login key. -/
def keyedUserinfo : InfoString := ⟨"\\q3dfkey\\abc".toList, keyedInfo_fits⟩

/-- The transport error of a refused connection. -/
def refused : ErrorText := ⟨"DialTCP fail".toList, by decide⟩

/-- Two players connect and log in, slot 0 first, and both their `Login` calls
are pending. -/
def twoLogins : List PluginEvent :=
  [.clientConnected 0 true keyedUserinfo "a".toList, .clientConnected 1 true keyedUserinfo "b".toList]

/-- The world after them. -/
def twoPending : ProxyWorld := (run ProxyWorld.step (.initial .blank) twoLogins).getD (.initial .blank)

/-- The call of slot 0 is the next one; it is lost, and the reply's default slot
number is the right one. -/
theorem login_callback_isolated_slotZero :
    ∃ item rest, twoPending.pending = item :: rest ∧
      Isolated item twoPending (twoPending.runCallback item rest (.transport refused)) := by
  have ran : run ProxyWorld.step (.initial .blank) twoLogins = some twoPending := rfl
  obtain ⟨item, rest, next⟩ : ∃ item rest, twoPending.pending = item :: rest := ⟨_, _, rfl⟩
  have isLogin : item.request = .login
      { identifier := { serverId := 1, playernum := 0, uniqueId := "a".toList }
        q3dfkey := "abc".toList } := by
    cases next
    rfl
  have completed : twoPending.step (.callback (.transport refused)) =
      some (twoPending.runCallback item rest (.transport refused)) := by
    simp [ProxyWorld.step, next]
  refine ⟨item, rest, next, (login_callback_isolated_iff ran next isLogin completed).mpr ?_⟩
  cases next
  exact ⟨rfl, .inl rfl⟩

/-- Both calls of slot 0 succeed, then the `Login` of slot 1 is lost. -/
def loginLost : List PluginEvent :=
  twoLogins ++ [.callback (.succeeded ⟨11, []⟩), .callback (.succeeded ⟨0, []⟩)]

/-- The lost `Login` of slot 1 logs out slot 0. -/
theorem lost_login_logs_out_slotZero :
    ∃ w item rest, run ProxyWorld.step (.initial .blank) loginLost = some w ∧
      w.pending = item :: rest ∧ item.slot = 1 ∧ (w.users 0).userId = 11 ∧
        ¬Isolated item w (w.runCallback item rest (.transport refused)) := by
  refine ⟨_, _, _, rfl, rfl, rfl, rfl, ?_⟩
  intro isolated
  have kept : (0 : Int) = 11 := isolated.others 0 (by decide)
  exact absurd kept (by decide)

end Q3df.Client
