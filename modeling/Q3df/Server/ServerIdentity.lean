/-
Module: Q3df.Server.ServerIdentity
Layer: Server
Purpose: Whether a connection stays the server it was let in as. The handshake checks an id against
  its key and forgets it; `Register` and the calls for a player take the id from the request again.
  So a peer acts as the server it has the key of exactly if it says so in each of these requests.
Imports: Q3df.Server.ServerConn
Trusted boundary: none
Main exports: decimalText, IdentityKept, ActsAsItself, identity_kept_iff
Open obligations: none
-/
import Q3df.Server.ServerConn

namespace Q3df.Server

open Q3df.Transition

/-- An id as the handshake and the settings have it. -/
def decimalText (serverId : Int) : StdString := (toString serverId).toList

/-- The server id a call for a player is attributed to: the one in the reply to
a command, and the only one a record comes with. -/
def Request.attributedTo : Request → Response → Option Int
  | .clientCommand _, .clientCommand reply => some reply.identifier.serverId
  | .saveRecord request, _ => some request.identifier.serverId
  | _, _ => none

/-- The server id a request would bring in. A connection in the client list
keeps its entry. -/
def Request.claimedId (listed : Bool) : Request → Option Int
  | .register request => if listed then none else some request.serverId
  | .clientCommand args => some args.identifier.serverId
  | .saveRecord request => some request.identifier.serverId
  | _ => none

section Identity

variable {κ : Type*} [DecidableEq κ]

/-- Every entry of the client list, and every answered call for a player, has
the id its connection was let in with. -/
structure IdentityKept (d : Daemon κ) : Prop where
  registered : ∀ con client id, d.global.clients.getClient con = some client →
    d.serving.lookup con = some id → decimalText client.getServerId = id
  attributed : ∀ call ∈ d.served, ∀ serverId,
    call.request.attributedTo call.response = some serverId →
      decimalText serverId = call.authenticated

/-- The condition on a call: an id it would bring in is the one its connection
was let in with. -/
def ActsAsItself (d : Daemon κ) : DaemonAction κ → Prop
  | .call con request => ∀ id ∈ d.serving.lookup con,
      ∀ serverId ∈ request.claimedId (con ∈ d.global.clients), decimalText serverId = id
  | _ => True

instance (d : Daemon κ) : (action : DaemonAction κ) → Decidable (ActsAsItself d action)
  | .call con request =>
      inferInstanceAs (Decidable (∀ id ∈ d.serving.lookup con,
        ∀ serverId ∈ request.claimedId (con ∈ d.global.clients), decimalText serverId = id))
  | .accept _ _ _ | .disconnect _ | .set _ _ | .command _ _ => isTrue trivial

/-- In every state of the run the identity is kept. -/
def IdentityKeptThroughout (env : DaemonEnv κ) (d : Daemon κ) (actions : List (DaemonAction κ)) : Prop :=
  ∀ before after t, actions = before ++ after → run (Daemon.step env) d before = some t →
    IdentityKept t

variable {env : DaemonEnv κ} {d t : Daemon κ} {action : DaemonAction κ} {con : κ}

/-- An answered call for a player is attributed to the id of its request. -/
theorem attributedTo_of_answer {global global' : GlobalObject κ} {request : Request}
    {response : Response}
    (answer : Q3dfApiImpl.callMethod env con global request = .ok (global', response)) :
    request.attributedTo response = request.claimedId true := by
  cases request with
  | clientCommand args =>
      rw [Q3dfApiImpl.callMethod, Q3dfApiImpl.clientCommand] at answer
      cases handled : handleCommand (cmdList κ) env.toCommandEnv global.clients args.command args.args
        true (some con) [] with
      | error reason =>
          rw [handled] at answer
          cases answer
      | ok result =>
          rw [handled] at answer
          cases answer
          rfl
  | _ => rfl

namespace IdentityKept

omit [DecidableEq κ] in
/-- A request that claims an id although its connection is listed claims the same id
when it is not. -/
theorem claimed_of_listed {request : Request} {listed : Bool} {serverId : Int}
    (claimed : request.claimedId true = some serverId) :
    request.claimedId listed = some serverId := by
  cases request with
  | register request => cases claimed
  | _ => exact claimed

theorem initial (settings : SettingsMap) : IdentityKept (Daemon.initial (κ := κ) settings) where
  registered := by
    intro con client id listed
    rw [ClientList.getClient, Daemon.initial, AList.lookup_empty] at listed
    cases listed
  attributed := fun call impossible => absurd impossible List.not_mem_nil

/-- Closing a connection keeps the identities: its entry goes with it. -/
theorem clientDisconnect (kept : IdentityKept d) : IdentityKept (d.clientDisconnect con) where
  registered := by
    intro other client id listed serves
    rw [Daemon.clientDisconnect, ClientList.getClient_deleteClient] at listed
    split at listed
    case isTrue => cases listed
    case isFalse differ =>
      rw [Daemon.clientDisconnect, AList.lookup_erase_ne (Ne.symm differ)] at serves
      exact kept.registered other client id listed serves
  attributed := kept.attributed

/-- Accepting a connection keeps the identities: it has no entry yet. -/
theorem accepted {id : StdString} (kept : IdentityKept d) (serves : d.ServesClients)
    (fresh : con ∉ d.serving) :
    IdentityKept { d with serving := d.serving.insert con id } where
  registered := by
    intro other client id' listed served
    by_cases same : other = con
    · subst same
      exact absurd (serves other (ClientList.mem_iff_getClient.mpr (by rw [listed]; rfl))) fresh
    · rw [AList.lookup_insert_ne same] at served
      exact kept.registered other client id' listed served
  attributed := kept.attributed

theorem stopped (kept : IdentityKept d) (reason : Stop) : IdentityKept (d.stop reason) where
  registered := by
    intro con client id listed
    rw [ClientList.getClient, Daemon.stop, AList.lookup_empty] at listed
    cases listed
  attributed := kept.attributed

section Answered

variable {request : Request} {authenticated : StdString} {global : GlobalObject κ}
  {response : Response}

/-- The daemon after an answered call. -/
def afterAnswer (d : Daemon κ) (con : κ) (authenticated : StdString) (request : Request)
    (global : GlobalObject κ) (response : Response) : Daemon κ :=
  { d with
    global := global
    served := d.served ++ [{ con := con, authenticated := authenticated,
                             request := request, response := response }] }

/-- If the identities are kept after an answer, the call acted as its own server. -/
theorem actsAsItself_of_answered (serves : d.serving.lookup con = some authenticated)
    (answer : Q3dfApiImpl.callMethod env con d.global request = .ok (global, response))
    (kept : IdentityKept (afterAnswer d con authenticated request global response)) :
    ActsAsItself d (.call con request) := by
  intro id found serverId claimed
  rw [serves] at found
  cases found
  have attributed := kept.attributed _ (List.mem_append_right d.served List.mem_cons_self) serverId
  rw [attributedTo_of_answer answer] at attributed
  cases request with
  | register request =>
      rw [Request.claimedId] at claimed
      split at claimed
      case isTrue => cases claimed
      case isFalse absent =>
        cases claimed
        have unlisted : d.global.clients.getClient con = none := by
          rw [← Option.not_isSome_iff_eq_none, ← ClientList.mem_iff_getClient]
          simpa using absent
        have registered := kept.registered con
          (ClientInfo.new con request.serverId request.serverInfoString) authenticated
        rw [afterAnswer, (callMethod_eq_ok answer).2, Request.clientsAfter,
          ClientList.getClient_insertClient, if_pos rfl, unlisted] at registered
        exact registered rfl serves
  | _ => exact attributed claimed

/-- A call that acts as its own server leaves its entry with this server. -/
theorem answered (kept : IdentityKept d) (serves : d.serving.lookup con = some authenticated)
    (answer : Q3dfApiImpl.callMethod env con d.global request = .ok (global, response))
    (acts : ActsAsItself d (.call con request)) :
    IdentityKept (afterAnswer d con authenticated request global response) where
  registered := by
    intro other client id listed served
    rw [afterAnswer, (callMethod_eq_ok answer).2] at listed
    cases request with
    | register request =>
        rw [Request.clientsAfter, ClientList.getClient_insertClient] at listed
        split at listed
        case isTrue same =>
          subst same
          cases found : d.global.clients.getClient con with
          | some client' =>
              rw [found, Option.getD_some] at listed
              cases listed
              exact kept.registered con client id found served
          | none =>
              rw [found, Option.getD_none] at listed
              cases listed
              have absent : con ∉ d.global.clients := by
                rw [ClientList.mem_iff_getClient, found]
                rintro ⟨⟩
              exact acts id served request.serverId (by simp [Request.claimedId, absent])
        case isFalse => exact kept.registered other client id listed served
    | _ => exact kept.registered other client id listed served
  attributed := by
    intro call inServed serverId attributed
    rcases List.mem_append.mp inServed with old | new
    · exact kept.attributed call old serverId attributed
    · cases List.mem_singleton.mp new
      rw [attributedTo_of_answer answer] at attributed
      exact acts authenticated serves serverId (claimed_of_listed attributed)

end Answered

/-- What one step preserves under the condition. -/
theorem step (kept : IdentityKept d) (serves : d.ServesClients) (acts : ActsAsItself d action)
    (stepped : d.step env action = some t) : IdentityKept t := by
  cases Daemon.stepCase_of_step stepped with
  | accepted running fresh shown => exact kept.accepted serves fresh
  | denied running fresh => exact kept.clientDisconnect
  | failed found error => exact kept.stopped _
  | answered found answer => exact kept.answered found answer acts
  | disconnected found => exact kept.clientDisconnect
  | set running => exact ⟨kept.registered, kept.attributed⟩
  | commandFailed running other => exact kept.stopped _
  | commanded texts running => exact ⟨kept.registered, kept.attributed⟩

/-- A step that leaves the daemon running and the identity kept met the
condition. -/
theorem actsAsItself_of_step (stepped : d.step env action = some t) (running : t.stopped = none)
    (kept : IdentityKept t) : ActsAsItself d action := by
  cases Daemon.stepCase_of_step stepped with
  | failed found error => cases running
  | answered found answer => exact actsAsItself_of_answered found answer kept
  | _ => trivial

end IdentityKept

/-- What a run preserves under the condition. -/
theorem identityKeptThroughout_of_actsAsItself {actions : List (DaemonAction κ)}
    (kept : IdentityKept d) (serves : d.ServesClients)
    (meets : StepsMeet (Daemon.step env) ActsAsItself d actions) :
    IdentityKeptThroughout env d actions := by
  apply (stepsMeet_iff_reached kept).mp
  refine @stepsMeet_of_invariant _ _ _ _ _ (fun d => IdentityKept d ∧ d.ServesClients) _ _ ?_ ?_
    ⟨kept, serves⟩ meets
  · intro d action both acts t stepped
    exact both.1.step both.2 acts stepped
  · intro d action t both acts stepped
    exact ⟨both.1.step both.2 acts stepped, both.2.step stepped⟩

/-- If the identities are kept all along a run, each of its calls acted as its own
server. -/
theorem actsAsItself_of_identityKeptThroughout {actions : List (DaemonAction κ)}
    (kept : IdentityKept d) (ran : run (Daemon.step env) d actions = some t)
    (running : t.stopped = none) (throughout : IdentityKeptThroughout env d actions) :
    StepsMeet (Daemon.step env) ActsAsItself d actions := by
  have keptNext := (stepsMeet_iff_reached kept).mpr throughout
  clear throughout
  induction actions generalizing d with
  | nil => trivial
  | cons action actions inductionHypothesis =>
      obtain ⟨u, stepped, rest⟩ := run_cons_eq_some.mp ran
      have keptHere := keptNext.1 u stepped
      refine ⟨IdentityKept.actsAsItself_of_step stepped (Daemon.stopped_of_run rest running) keptHere, ?_⟩
      intro u' stepped'
      cases stepped.symm.trans stepped'
      exact inductionHypothesis keptHere rest (keptNext.2 u stepped)

/-- In every run the identities are kept if each call acts as the server its
connection was let in as, and only then in a run that leaves the daemon running. -/
theorem identity_kept_iff {settings : SettingsMap} {actions : List (DaemonAction κ)}
    (ran : run (Daemon.step env) (.initial settings) actions = some d) :
    (StepsMeet (Daemon.step env) ActsAsItself (.initial settings) actions →
      IdentityKeptThroughout env (.initial settings) actions) ∧
    (d.stopped = none → IdentityKeptThroughout env (.initial settings) actions →
      StepsMeet (Daemon.step env) ActsAsItself (.initial settings) actions) :=
  ⟨identityKeptThroughout_of_actsAsItself (.initial settings) (.initial settings),
    actsAsItself_of_identityKeptThroughout (.initial settings) ran⟩

end Identity

/-- The server 1 registers with this id. -/
def registerAs (serverId : Int) : Request :=
  .register { serverId := serverId, serverKey := [], serverInfoString := [] }

/-- A server that registers as itself. -/
theorem identity_kept_registered :
    IdentityKeptThroughout .plainArguments (.initial oneServer)
      [oneHandshake, .call () (registerAs 1)] := by
  obtain ⟨d, ran⟩ := Option.isSome_iff_exists.mp
    (by decide +kernel : (run (Daemon.step .plainArguments) (.initial oneServer)
      [oneHandshake, .call () (registerAs 1)]).isSome = true)
  exact (identity_kept_iff ran).1 (by decide +kernel)

/-- A server that registers as another one is in the list as the other one. -/
theorem register_as_other_server :
    ∃ d, run (Daemon.step .plainArguments) (.initial oneServer)
        [oneHandshake, .call () (registerAs 2)] = some d ∧ ¬ IdentityKept d := by
  have registeredAs : (run (Daemon.step .plainArguments) (.initial oneServer)
      [oneHandshake, .call () (registerAs 2)]).map
        (fun d => ((d.global.clients.getClient ()).map ClientInfo.getServerId, d.serving.lookup ())) =
      some (some 2, some "1".toList) := by
    decide +kernel
  obtain ⟨d, ran, state⟩ := Option.map_eq_some_iff.mp registeredAs
  refine ⟨d, ran, ?_⟩
  intro kept
  obtain ⟨listedAs, serves⟩ := Prod.mk.inj state
  obtain ⟨client, listed, isTwo⟩ := Option.map_eq_some_iff.mp listedAs
  have same := kept.registered () client _ listed serves
  rw [isTwo] at same
  revert same
  decide

end Q3df.Server
