/-
Module: Q3df.Server.CommandClients
Layer: Server
Purpose: Whether the command `!top` finds the entry of the server that asks. The entry is made by
  `Register`, which a client that lost its call does not repeat. A monitor over the calls alone says
  when the daemon survives: every `!top` whose options parse comes on a connection that has
  registered since its handshake.
Imports: Q3df.Server.ServerConn
Trusted boundary: none
Main exports: registeredAfter, AsksRegistered, TopAfterRegister, Tracks, commands_find_client_iff
Open obligations: none
-/
import Q3df.Server.ServerConn

namespace Q3df.Server

open Q3df.Transition

section Monitor

variable {κ : Type*} [DecidableEq κ]

/-- The connections that have registered since their handshake, after one more
action. -/
def registeredAfter (registered : List κ) : DaemonAction κ → List κ
  | .accept con _ _ => registered.filter fun other => con ≠ other
  | .disconnect con => registered.filter fun other => con ≠ other
  | .call con (.register _) => con :: registered
  | _ => registered

/-- A `!top` that asks the client list comes from a connection that has
registered. -/
def AsksRegistered (env : DaemonEnv κ) (registered : List κ) : DaemonAction κ → Prop
  | .call con (.clientCommand args) => AsksClient env args → con ∈ registered
  | _ => True

/-- The condition on the sequence of actions, from these connections on. -/
def TopAfterRegister (env : DaemonEnv κ) (registered : List κ) : List (DaemonAction κ) → Prop
  | [] => True
  | action :: actions =>
      AsksRegistered env registered action ∧
        TopAfterRegister env (registeredAfter registered action) actions

instance (env : DaemonEnv κ) (registered : List κ) :
    (action : DaemonAction κ) → Decidable (AsksRegistered env registered action)
  | .call _ (.clientCommand _) => inferInstanceAs (Decidable (_ → _))
  | .call _ (.register _) | .call _ (.clientConnected _) | .call _ (.clientDisconnected _)
  | .call _ (.login _) | .call _ (.printf _) | .call _ (.saveRecord _)
  | .call _ (.checkForUpdates _) | .accept _ _ _ | .disconnect _ | .set _ _ | .command _ _ =>
      isTrue trivial

instance decidableTopAfterRegister (env : DaemonEnv κ) (registered : List κ) :
    (actions : List (DaemonAction κ)) → Decidable (TopAfterRegister env registered actions)
  | [] => isTrue trivial
  | action :: actions =>
      have : Decidable (TopAfterRegister env (registeredAfter registered action) actions) :=
        decidableTopAfterRegister env (registeredAfter registered action) actions
      inferInstanceAs (Decidable (_ ∧ _))

/-- The entries of a running daemon are those of the registered connections. -/
structure Tracks (d : Daemon κ) (registered : List κ) : Prop where
  running : d.stopped = none
  listed : ∀ con, con ∈ d.global.clients ↔ con ∈ registered

namespace Tracks

variable {env : DaemonEnv κ} {d t : Daemon κ} {registered : List κ} {action : DaemonAction κ}
  {con : κ}

omit [DecidableEq κ] in
theorem initial (settings : SettingsMap) : Tracks (Daemon.initial (κ := κ) settings) [] where
  running := rfl
  listed := fun con => iff_of_false (AList.notMem_empty con) List.not_mem_nil

/-- Closing a connection takes it off the registered ones. -/
theorem clientDisconnect (tracks : Tracks d registered) :
    Tracks (d.clientDisconnect con) (registered.filter fun other => con ≠ other) where
  running := tracks.running
  listed := by
    intro other
    rw [Daemon.clientDisconnect, ClientList.mem_deleteClient, tracks.listed other, List.mem_filter,
      decide_eq_true_iff]
    exact and_comm

/-- Accepting a connection registers nothing. -/
theorem accepted {id : StdString} (tracks : Tracks d registered) (serves : d.ServesClients)
    (fresh : con ∉ d.serving) :
    Tracks { d with serving := d.serving.insert con id }
      (registered.filter fun other => con ≠ other) where
  running := tracks.running
  listed := by
    intro other
    rw [tracks.listed other, List.mem_filter, decide_eq_true_iff]
    constructor
    · intro inList
      refine ⟨inList, ?_⟩
      rintro rfl
      exact fresh (serves con ((tracks.listed con).mpr inList))
    · intro both
      exact both.1

/-- An answered call changes the list as the request says, and nothing else. -/
theorem answered {request : Request} {global : GlobalObject κ} {served : List (Served κ)}
    {response : Response} (tracks : Tracks d registered)
    (answer : Q3dfApiImpl.callMethod env con d.global request = .ok (global, response)) :
    Tracks { d with global := global, served := served }
      (registeredAfter registered (.call con request)) where
  running := tracks.running
  listed := by
    intro other
    rw [(callMethod_eq_ok answer).2]
    cases request with
    | register request =>
        rw [registeredAfter, Request.clientsAfter, ClientList.mem_insertClient, tracks.listed other,
          List.mem_cons, eq_comm]
    | _ => exact tracks.listed other

/-- A call stops the daemon for a missing client exactly if it breaks the
condition. -/
theorem missingClient_iff {request : Request} (tracks : Tracks d registered) :
    Q3dfApiImpl.callMethod env con d.global request = .error .missingClient ↔
      ¬ AsksRegistered env registered (.call con request) := by
  rw [callMethod_eq_missingClient_iff]
  cases request with
  | clientCommand args =>
      rw [AsksRegistered, ← tracks.listed con]
      simp
  | _ => simp [AsksRegistered]

/-- What one step preserves: the daemon goes on, the monitor follows it and the
condition holds, or it stops, for a missing client exactly if the condition
fails. -/
theorem step (tracks : Tracks d registered) (clients : d.ServesClients)
    (stepped : d.step env action = some t) :
    (AsksRegistered env registered action ∧ Tracks t (registeredAfter registered action)) ∨
      ∃ reason, t = d.stop reason ∧
        (reason ≠ .missingClient ↔ AsksRegistered env registered action) := by
  cases Daemon.stepCase_of_step stepped with
  | accepted running fresh shown => exact .inl ⟨trivial, tracks.accepted clients fresh⟩
  | denied running fresh => exact .inl ⟨trivial, tracks.clientDisconnect⟩
  | @failed con request authenticated reason serves error =>
      refine .inr ⟨reason, rfl, ?_⟩
      have missing := @missingClient_iff _ _ env d registered con request tracks
      rw [error, Except.error.injEq] at missing
      rw [Ne, missing, not_not]
  | @answered con request authenticated global response serves answer =>
      refine .inl ⟨?_, tracks.answered answer⟩
      have missing := @missingClient_iff _ _ env d registered con request tracks
      rw [answer] at missing
      exact not_not.mp fun broken => by cases missing.mpr broken
  | disconnected serves => exact .inl ⟨trivial, tracks.clientDisconnect⟩
  | set running => exact .inl ⟨trivial, tracks.running, tracks.listed⟩
  | @commandFailed cmd args reason running other =>
      exact .inr ⟨reason, rfl, iff_of_true other trivial⟩
  | commanded texts running => exact .inl ⟨trivial, tracks.running, tracks.listed⟩

end Tracks

/-- A daemon that has stopped does nothing more. -/
theorem Daemon.step_stop {env : DaemonEnv κ} {d : Daemon κ} {reason : Stop} (action : DaemonAction κ) :
    (d.stop reason).step env action = none := by
  cases action with
  | call con request =>
      rw [Daemon.step, Daemon.stop, AList.lookup_empty]
  | disconnect con =>
      rw [Daemon.step, Daemon.stop, if_neg (AList.notMem_empty con)]
  | _ => simp [Daemon.step, Daemon.stop]

/-- What a run preserves. -/
theorem Tracks.run_iff {env : DaemonEnv κ} {d t : Daemon κ} {registered : List κ}
    {actions : List (DaemonAction κ)} (tracks : Tracks d registered) (clients : d.ServesClients)
    (ran : run (Daemon.step env) d actions = some t) :
    t.stopped ≠ some .missingClient ↔ TopAfterRegister env registered actions := by
  induction actions generalizing d registered with
  | nil =>
      cases ran
      rw [tracks.running]
      exact iff_of_true (by rintro ⟨⟩) trivial
  | cons action actions inductionHypothesis =>
      obtain ⟨u, stepped, rest⟩ := run_cons_eq_some.mp ran
      rw [TopAfterRegister]
      rcases tracks.step clients stepped with ⟨asks, next⟩ | ⟨reason, rfl, other⟩
      · rw [inductionHypothesis next (clients.step stepped) rest]
        exact (and_iff_right asks).symm
      · cases actions with
        | nil =>
            cases rest
            simp only [Daemon.stop, Ne, Option.some.injEq, TopAfterRegister, and_true]
            exact other
        | cons action' actions =>
            rw [run, Daemon.step_stop] at rest
            cases rest

/-- No command of a run uses a missing client exactly if every `!top` whose
options parse comes on a connection that has registered since its handshake. -/
theorem commands_find_client_iff {env : DaemonEnv κ} {settings : SettingsMap}
    {actions : List (DaemonAction κ)} {d : Daemon κ}
    (ran : run (Daemon.step env) (.initial settings) actions = some d) :
    d.stopped ≠ some .missingClient ↔ TopAfterRegister env [] actions :=
  (Tracks.initial settings).run_iff (Daemon.ServesClients.initial settings) ran

end Monitor

/-- A player asks for the ranking list. -/
def askTop : Request :=
  .clientCommand
    { identifier := { serverId := 1, playernum := 0, uniqueId := [] }
      command := "!top".toList
      args := [] }

def registerOne : Request :=
  .register { serverId := 1, serverKey := [], serverInfoString := "mapname\\q3dm17".toList }

/-- After a late `Register` the command finds the entry. -/
theorem registered_command_finds_client :
    ∃ d, run (Daemon.step .plainArguments) (.initial oneServer)
        [oneHandshake, .call () registerOne, .call () askTop] = some d ∧
      d.stopped ≠ some .missingClient := by
  obtain ⟨d, ran⟩ := Option.isSome_iff_exists.mp
    (by decide +kernel : (run (Daemon.step .plainArguments) (.initial oneServer)
      [oneHandshake, .call () registerOne, .call () askTop]).isSome = true)
  exact ⟨d, ran, (commands_find_client_iff ran).mpr (by decide)⟩

/-- Without `Register` the daemon uses a missing client. -/
theorem unregistered_command_misses_client :
    (run (Daemon.step .plainArguments) (.initial oneServer)
      [oneHandshake, .call () askTop]).map Daemon.stopped = some (some .missingClient) := by
  decide +kernel

end Q3df.Server
