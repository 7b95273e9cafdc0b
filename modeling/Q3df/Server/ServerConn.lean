/-
Module: Q3df.Server.ServerConn
Layer: Server
Purpose: The runs of the daemon. Every connection has a thread that makes the handshake, answers one
  call after the other and drops the connection's entry of the client list at the end. Beside what
  the daemon keeps, a run records the id each connection was let in with and the calls answered,
  which the daemon forgets.
Imports: Mathlib.Tactic.SplitIfs, Q3df.Library.Transition, Q3df.Server.Q3dfApiImpl
Trusted boundary: human-reviewed transcription of ServeProc and ProcessOneCall of
  tools/protobuf/src/google/protobuf/rpc/rpc_server_conn.cc and of the console commands of the
  daemon's main; a call is one step, and only its own thread changes what is kept of a connection;
  the lines a connection and the console commands set and get log are left out
Main exports: Served, Daemon, DaemonAction, Daemon.initial, Daemon.step, Daemon.stepCase_of_step,
  Daemon.ServesClients
Open obligations: none
-/
import Mathlib.Tactic.SplitIfs
import Q3df.Library.Transition
import Q3df.Server.Q3dfApiImpl

namespace Q3df.Server

open Q3df.Printf Q3df.Transition

/-- An answered call: the connection, the id it was let in with, the request and
the reply. -/
structure Served (κ : Type*) where
  con : κ
  authenticated : StdString
  request : Request
  response : Response
deriving Repr, DecidableEq

/-- The daemon. `serving` has the connections past their handshake with the id
they were let in with; `served` has the answered calls. -/
structure Daemon (κ : Type*) where
  global : GlobalObject κ
  serving : AList fun _ : κ => StdString
  served : List (Served κ)
  stopped : Option Stop

/-- What can happen next. -/
inductive DaemonAction (κ : Type*) where
  | accept (con : κ) (received : Option StdString) (okSent : Bool)
  | call (con : κ) (request : Request)
  | disconnect (con : κ)
  | set (key value : StdString)
  | command (cmd : StdString) (args : List StdString)
deriving Repr, DecidableEq

namespace Daemon

variable {κ : Type*} [DecidableEq κ]

def initial (settings : SettingsMap) : Daemon κ :=
  { global := { settings := settings, clients := ∅, console := [] }, serving := ∅, served := [],
    stopped := none }

/-- The process ends, and with it its connections and what is kept of them. -/
def stop (d : Daemon κ) (reason : Stop) : Daemon κ :=
  { d with global := { d.global with clients := ∅ }, serving := ∅, stopped := some reason }

/-- `ClientDisconnect`, and the end of the connection. -/
def clientDisconnect (d : Daemon κ) (con : κ) : Daemon κ :=
  { d with
    global := { d.global with clients := d.global.clients.deleteClient con }
    serving := d.serving.erase con }

/-- One step. A connection is accepted once at a time, and only served
connections call. -/
def step (env : DaemonEnv κ) (d : Daemon κ) : DaemonAction κ → Option (Daemon κ)
  | .accept con received okSent =>
      if d.stopped = none ∧ con ∉ d.serving then
        if (handshake d.global.settings received okSent).accepted then
          some { d with serving := d.serving.insert con (handshakeServerId received) }
        else some (d.clientDisconnect con)
      else none
  | .call con request =>
      match d.serving.lookup con with
      | none => none
      | some authenticated =>
          match Q3dfApiImpl.callMethod env con d.global request with
          | .error reason => some (d.stop reason)
          | .ok (global, response) =>
              some { d with
                global := global
                served := d.served ++ [{ con := con, authenticated := authenticated,
                                         request := request, response := response }] }
  | .disconnect con => if con ∈ d.serving then some (d.clientDisconnect con) else none
  | .set key value =>
      if d.stopped = none then
        some { d with global := { d.global with settings := setSetting d.global.settings key value } }
      else none
  | .command cmd args =>
      if d.stopped = none then
        match handleCommand (cmdList κ) env.toCommandEnv d.global.clients cmd args false none [] with
        | .error reason => some (d.stop reason)
        | .ok result =>
            match d.global.print (ConsoleTty.print "%s\n".toList [.str (cStr result.output)]) with
            | .error reason => some (d.stop reason)
            | .ok global => some { d with global := global }
      else none

/-- What a step can be. -/
inductive StepCase (env : DaemonEnv κ) (d : Daemon κ) : DaemonAction κ → Daemon κ → Prop
  | accepted {con received okSent} (running : d.stopped = none) (fresh : con ∉ d.serving)
      (shown : (handshake d.global.settings received okSent).accepted = true) :
      StepCase env d (.accept con received okSent)
        { d with serving := d.serving.insert con (handshakeServerId received) }
  | denied {con received okSent} (running : d.stopped = none) (fresh : con ∉ d.serving) :
      StepCase env d (.accept con received okSent) (d.clientDisconnect con)
  | failed {con request authenticated reason} (serves : d.serving.lookup con = some authenticated)
      (error : Q3dfApiImpl.callMethod env con d.global request = .error reason) :
      StepCase env d (.call con request) (d.stop reason)
  | answered {con request authenticated global response}
      (serves : d.serving.lookup con = some authenticated)
      (answer : Q3dfApiImpl.callMethod env con d.global request = .ok (global, response)) :
      StepCase env d (.call con request)
        { d with
          global := global
          served := d.served ++ [{ con := con, authenticated := authenticated,
                                   request := request, response := response }] }
  | disconnected {con} (serves : con ∈ d.serving) :
      StepCase env d (.disconnect con) (d.clientDisconnect con)
  | set {key value} (running : d.stopped = none) :
      StepCase env d (.set key value)
        { d with global := { d.global with settings := setSetting d.global.settings key value } }
  | commandFailed {cmd args reason} (running : d.stopped = none) (other : reason ≠ .missingClient) :
      StepCase env d (.command cmd args) (d.stop reason)
  | commanded {cmd args} (texts : List CString) (running : d.stopped = none) :
      StepCase env d (.command cmd args)
        { d with global := { d.global with console := d.global.console ++ texts } }

/-- Every step of the daemon is one of the listed ones. -/
theorem stepCase_of_step {env : DaemonEnv κ} {d t : Daemon κ} {action : DaemonAction κ}
    (stepped : d.step env action = some t) : StepCase env d action t := by
  cases action with
  | accept con received okSent =>
      rw [step] at stepped
      split_ifs at stepped with idle shown
      · cases stepped
        exact .accepted idle.1 idle.2 shown
      · cases stepped
        exact .denied idle.1 idle.2
  | call con request =>
      rw [step] at stepped
      cases serves : d.serving.lookup con with
      | none =>
          rw [serves] at stepped
          cases stepped
      | some authenticated =>
          rw [serves] at stepped
          cases called : Q3dfApiImpl.callMethod env con d.global request with
          | error reason =>
              simp only [called] at stepped
              cases stepped
              exact .failed serves called
          | ok answer =>
              simp only [called] at stepped
              cases stepped
              exact .answered serves called
  | disconnect con =>
      rw [step] at stepped
      split_ifs at stepped with serves
      cases stepped
      exact .disconnected serves
  | set key value =>
      rw [step] at stepped
      split_ifs at stepped with running
      cases stepped
      exact .set running
  | command cmd args =>
      rw [step] at stepped
      split_ifs at stepped with running
      have found := @handleCommand_eq_missingClient_iff κ _ env.toCommandEnv d.global.clients cmd []
        args false none
      cases handled : handleCommand (cmdList κ) env.toCommandEnv d.global.clients cmd args false none []
        with
      | error reason =>
          simp only [handled] at stepped
          cases stepped
          refine .commandFailed running ?_
          rintro rfl
          obtain ⟨-, -, con, impossible, -⟩ := found.mp handled
          cases impossible
      | ok result =>
          simp only [handled] at stepped
          rcases printed : ConsoleTty.print "%s\n".toList [.str (cStr result.output)] with fault | texts
          · rw [printed] at stepped
            cases stepped
            exact .commandFailed running (by rintro ⟨⟩)
          · rw [printed] at stepped
            cases stepped
            exact .commanded texts running

/-- A daemon that runs after a step ran before it. -/
theorem stopped_of_step {env : DaemonEnv κ} {d t : Daemon κ} {action : DaemonAction κ}
    (stepped : d.step env action = some t) (running : t.stopped = none) : d.stopped = none := by
  cases stepCase_of_step stepped with
  | failed serves error => cases running
  | commandFailed running' other => cases running
  | _ => exact running

/-- A daemon that is running has been running all along. -/
theorem stopped_of_run {env : DaemonEnv κ} {d t : Daemon κ} {actions : List (DaemonAction κ)}
    (ran : run (step env) d actions = some t) (running : t.stopped = none) : d.stopped = none := by
  induction actions generalizing d with
  | nil =>
      cases ran
      exact running
  | cons action actions inductionHypothesis =>
      obtain ⟨u, stepped, rest⟩ := run_cons_eq_some.mp ran
      exact stopped_of_step stepped (inductionHypothesis rest)

/-!
### The entries of the client list

Every entry of the list of clients belongs to a connection that is being served.
-/

/-- Only connections being served have an entry in the client list. -/
def ServesClients (d : Daemon κ) : Prop := ∀ con, con ∈ d.global.clients → con ∈ d.serving

namespace ServesClients

variable {env : DaemonEnv κ} {d t : Daemon κ} {action : DaemonAction κ}

omit [DecidableEq κ] in
theorem initial (settings : SettingsMap) : ServesClients (Daemon.initial (κ := κ) settings) :=
  fun con impossible => absurd impossible (AList.notMem_empty con)

theorem clientDisconnect (serves : d.ServesClients) (con : κ) :
    (d.clientDisconnect con).ServesClients := by
  intro other kept
  rw [Daemon.clientDisconnect, ClientList.mem_deleteClient] at kept
  exact AList.mem_erase.mpr ⟨Ne.symm kept.1, serves other kept.2⟩

/-- What one step preserves: an entry is made on a served connection, and ends
with it. -/
theorem step (serves : d.ServesClients) (stepped : d.step env action = some t) : t.ServesClients := by
  cases stepCase_of_step stepped with
  | accepted running fresh shown =>
      intro other inList
      exact (AList.mem_insert _).mpr (.inr (serves other inList))
  | denied running fresh => exact serves.clientDisconnect _
  | failed found error => exact fun con impossible => absurd impossible (AList.notMem_empty con)
  | @answered con request authenticated global response found answer =>
      intro other inList
      rw [(callMethod_eq_ok answer).2] at inList
      cases request with
      | register request =>
          rw [Request.clientsAfter, ClientList.mem_insertClient] at inList
          rcases inList with rfl | inList
          · exact AList.lookup_isSome.mp (Option.isSome_iff_exists.mpr ⟨authenticated, found⟩)
          · exact serves other inList
      | _ => exact serves other inList
  | disconnected found => exact serves.clientDisconnect _
  | set running => exact serves
  | commandFailed running other =>
      exact fun con impossible => absurd impossible (AList.notMem_empty con)
  | commanded texts running => exact serves

end ServesClients

end Daemon

/-- A game server with the id 1 and its key. -/
def oneServer : SettingsMap := setSetting ∅ "apikey-1".toList "secret".toList

/-- Its handshake, on a connection of its own. -/
def oneHandshake : DaemonAction Unit := .accept () (some "1_secret".toList) true

end Q3df.Server
