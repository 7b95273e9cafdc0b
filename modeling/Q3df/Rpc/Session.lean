/-
Module: Q3df.Rpc.Session
Layer: Rpc
Purpose: Any number of clients, each with its connection and its thread on the server, over a
  network that hands the bytes on piece by piece. In every order of steps every call that has
  returned was executed once, in the order of its client, and returned what the service gave for it;
  the services saw the calls of all clients one after the other; and a call that waits can always be
  completed, whatever the others do.
Imports: Mathlib.Data.List.Forall2, Q3df.Library.Transition, Q3df.Rpc.Call
Trusted boundary: the calls of the services take effect one at a time
Main exports: Waiting, Link, Execution, System, Action, step, System.start, Fits, ActionFits,
  Replays, Answered, Phase, Invariant, invariant_step, serve_eq_processOneCall,
  session_exactly_once, session_completes
Open obligations: none
-/
import Mathlib.Data.List.Forall2
import Q3df.Library.Transition
import Q3df.Rpc.Call

namespace Q3df.Rpc

/-!
### The system

Clients, their connections and one server with a thread for each of them. What
one end has sent reaches the other when the network carries it there, in pieces
of any size.
-/

/-- Where `callMethod` stands: it does not run, or it waits for the header or
for the body of the response. -/
inductive Waiting (μ : Type) where
  | idle
  | header (id : BitVec 64) (call : Call μ)
  | body (id : BitVec 64) (header : ResponseHeader) (call : Call μ)

/-- A client and its thread on the server: the ends of their connection, where
each of them stands (the thread is `none` once it has ended), and what the
client's calls have returned so far. What an end has sent and the network has
not handed on yet is in its `sent`. -/
structure Link (σ μ : Type) where
  seq : BitVec 64
  client : Conn
  waiting : Waiting μ
  server : Conn
  serving : Option (Serving σ μ)
  returned : List (Call μ × Except Error μ)

/-- A call of a service: for which client, and what it gave. -/
structure Execution (ι σ μ : Type) where
  link : ι
  service : Service σ μ
  method : MethodDescriptor
  request : μ
  rv : Error
  response : μ

/-- All clients, what the services share, and the calls of services so far. -/
structure System (ι σ μ : Type) where
  links : ι → Link σ μ
  shared : σ
  executed : List (Execution ι σ μ)

/-- A connection that nobody has closed and that takes all bytes. -/
def Conn.fresh : Conn := { incoming := [], peerClosed := false, sent := [], accepts := none }

/-- Behind the handshake. -/
def Link.start {σ μ : Type} : Link σ μ :=
  { seq := 0, client := .fresh, waiting := .idle, server := .fresh, serving := some .header, returned := [] }

def System.start {ι σ μ : Type} (shared : σ) : System ι σ μ :=
  { links := fun _ => .start, shared := shared, executed := [] }

/-- What can happen next. -/
inductive Action (ι μ : Type) where
  | call (i : ι) (call : Call μ)
  | receive (i : ι)
  | serve (i : ι)
  | toServer (i : ι) (count : Nat)
  | toClient (i : ι) (count : Nat)

/-- The client an action belongs to. -/
def Action.link {ι μ : Type} : Action ι μ → ι
  | .call i _ => i
  | .receive i => i
  | .serve i => i
  | .toServer i _ => i
  | .toClient i _ => i

/-- Whether an action starts a call. -/
def Action.startsCall {ι μ : Type} : Action ι μ → Bool
  | .call _ _ => true
  | _ => false

section Steps

variable {ι σ μ : Type}

/-- `callMethod` up to the response. -/
def Link.call (snappy : Snappy) (link : Link σ μ) (call : Call μ) : Option (Link σ μ) :=
  match link.waiting with
  | .idle =>
      match sendRequest snappy call.requestType link.client link.seq call.method (some call.request) with
      | .error _ => none
      | .ok (err, c) =>
          if err.isNil then
            some { link with client := c, seq := link.seq + 1, waiting := .header link.seq call }
          else
            some
              { link with client := c, seq := link.seq + 1,
                          returned := link.returned ++ [(call, .error err)] }
  | _ => none

/-- `callMethod` from the header of the response to its body, or from its body
to the end. -/
def Link.receive (snappy : Snappy) (link : Link σ μ) : Option (Link σ μ) :=
  match link.waiting with
  | .idle => none
  | .header id call =>
      match recvResponseHeader link.client with
      | .error _ => none
      | .ok (.error err, c) =>
          some { link with client := c, waiting := .idle, returned := link.returned ++ [(call, .error err)] }
      | .ok (.ok header, c) => some { link with client := c, waiting := .body id header call }
  | .body id header call =>
      match recvResponseBody snappy call.responseType header link.client with
      | .error _ => none
      | .ok (response, c) =>
          some { link with
            client := c
            waiting := .idle
            returned := link.returned ++ [(call, finishCall id header response)] }

/-- Where a thread stands after `ProcessOneCall`. -/
def afterCall (err : Error) : Option (Serving σ μ) := if err.isNil then some .header else none

/-- The call of a service, when the services share this. -/
def execution (i : ι) (service : Service σ μ) (method : MethodDescriptor) (request : μ) (shared : σ) :
    Execution ι σ μ :=
  { link := i
    service := service
    method := method
    request := request
    rv := (service.callMethod method request shared).1
    response := (service.callMethod method request shared).2.1 }

/-- `ProcessOneCall` of a client's thread up to the body, or from the body on. -/
def System.serve [DecidableEq ι] (snappy : Snappy) (server : Server σ μ)
    (system : System ι σ μ) (i : ι) :
    Option (System ι σ μ) :=
  let link := system.links i
  match link.serving with
  | none => none
  | some .header =>
      match processHeader snappy server link.server with
      | .error _ => none
      | .ok (.inl err, c) =>
          some { system with
            links := Function.update system.links i { link with server := c, serving := afterCall err } }
      | .ok (.inr serving, c) =>
          some { system with
            links := Function.update system.links i { link with server := c, serving := some serving } }
  | some (.body header service method) =>
      match recvRequestBody snappy (service.requestPrototype method) header link.server with
      | .error _ => none
      | .ok (.error err, c) =>
          some { system with
            links := Function.update system.links i { link with server := c, serving := afterCall err } }
      | .ok (.ok request, c) =>
          match answerCall snappy header service method request c system.shared with
          | .error _ => none
          | .ok (err, c, shared) =>
              some {
                links := Function.update system.links i { link with server := c, serving := afterCall err }
                shared := shared
                executed := system.executed ++ [execution i service method request system.shared] }

/-- The network hands on bytes of the client. -/
def Link.toServer (link : Link σ μ) (count : Nat) : Link σ μ :=
  { link with
    client := { link.client with sent := link.client.sent.drop count }
    server := link.server.arrive (link.client.sent.take count) }

/-- The network hands on bytes of the server. -/
def Link.toClient (link : Link σ μ) (count : Nat) : Link σ μ :=
  { link with
    server := { link.server with sent := link.server.sent.drop count }
    client := link.client.arrive (link.server.sent.take count) }

/-- One step; `none` for a step that has to wait. -/
def step [DecidableEq ι] (snappy : Snappy) (server : Server σ μ) (system : System ι σ μ) :
    Action ι μ → Option (System ι σ μ)
  | .call i call =>
      ((system.links i).call snappy call).map fun link =>
        { system with links := Function.update system.links i link }
  | .receive i =>
      ((system.links i).receive snappy).map fun link =>
        { system with links := Function.update system.links i link }
  | .serve i => system.serve snappy server i
  | .toServer i count =>
      some { system with links := Function.update system.links i ((system.links i).toServer count) }
  | .toClient i count =>
      some { system with links := Function.update system.links i ((system.links i).toClient count) }

end Steps

section Statements

variable {ι σ μ : Type}

/-- A message that gets through: what one type serializes the other parses, and
the sizes fit a frame. -/
structure Carried (snappy : Snappy) (out into : MessageType μ) (message : μ) (pb : StdString) : Prop where
  serialized : out.serializeToString message = some pb
  parsed : into.parseFromString pb = some message
  counted : pb.length < 4294967296
  short : (snappy.compress pb).length < 2147483648

/-- A call a server can answer: its name fits the header, its method is there,
its request gets through, and so does whatever the service answers. -/
structure Accepts (snappy : Snappy) (server : Server σ μ) (call : Call μ) (service : Service σ μ)
    (method : MethodDescriptor) (pb : StdString) : Prop where
  shortName : call.method.length ≤ 992
  methodFound : server.findMethodDescriptor call.method = some method
  serviceFound : server.findService call.method = some service
  requestCarried : Carried snappy call.requestType (service.requestPrototype method) call.request pb
  shortError : ∀ shared, (service.callMethod method call.request shared).1.text.length ≤ 992
  responseCarried : ∀ shared, ∃ pb, Carried snappy (service.responsePrototype method) call.responseType
    (service.callMethod method call.request shared).2.1 pb

def Fits (snappy : Snappy) (server : Server σ μ) (call : Call μ) : Prop :=
  ∃ service method pb, Accepts snappy server call service method pb

/-- The calls of a run are such. -/
def ActionFits (snappy : Snappy) (server : Server σ μ) : Action ι μ → Prop
  | .call _ call => Fits snappy server call
  | _ => True

/-- Executed one after the other from what was shared, the calls give what they
gave, and leave this. -/
def Replays : σ → List (Execution ι σ μ) → σ → Prop
  | shared, [], final => final = shared
  | shared, execution :: executions, final =>
      ∃ between, execution.service.callMethod execution.method execution.request shared =
          (execution.rv, execution.response, between) ∧
        Replays between executions final

/-- What the client of a call gets for its execution. -/
def Execution.result (execution : Execution ι σ μ) : Except Error μ :=
  if execution.rv.text = [] then .ok execution.response else .error execution.rv

/-- An execution is that of a call, and gave what the call returned. -/
structure Answered (server : Server σ μ) (execution : Execution ι σ μ)
    (returned : Call μ × Except Error μ) :
    Prop where
  methodFound : server.findMethodDescriptor returned.1.method = some execution.method
  serviceFound : server.findService returned.1.method = some execution.service
  sameRequest : execution.request = returned.1.request
  sameResult : returned.2 = if execution.rv.text = [] then .ok execution.response else .error execution.rv

/-- What an execution gave is what its client gets. -/
theorem Answered.of_call {server : Server σ μ} {execution : Execution ι σ μ} {call : Call μ}
    {result : Except Error μ} (answered : Answered server execution (call, result)) :
    Answered server execution (call, execution.result) :=
  ⟨answered.methodFound, answered.serviceFound, answered.sameRequest, rfl⟩

/-- The executions for one client, in their order. -/
def System.executedOf [DecidableEq ι] (system : System ι σ μ) (i : ι) : List (Execution ι σ μ) :=
  system.executed.filter fun execution => execution.link = i

/-- The bytes on their way to the server, behind those it has received. -/
def Link.toServerBytes (link : Link σ μ) : List Byte := link.server.incoming ++ link.client.sent

/-- The bytes on their way to the client, behind those it has received. -/
def Link.toClientBytes (link : Link σ μ) : List Byte := link.client.incoming ++ link.server.sent

/-- What is between the two ends of a connection, by where the current call is:
not started, on its way to the server, with its header taken there, answered, or
with the header of the answer taken by the client. -/
inductive Phase (snappy : Snappy) (server : Server σ μ) (link : Link σ μ)
    (mine : List (Execution ι σ μ)) : Prop where
  | idle (waiting : link.waiting = .idle) (serving : link.serving = some .header)
      (toServer : link.toServerBytes = []) (toClient : link.toClientBytes = [])
      (answered : List.Forall₂ (Answered server) mine link.returned)
  | requested (id : BitVec 64) (call : Call μ) (service : Service σ μ)
      (method : MethodDescriptor) (pb : StdString)
      (accepts : Accepts snappy server call service method pb)
      (waiting : link.waiting = .header id call) (serving : link.serving = some .header)
      (toServer : link.toServerBytes = messageBytes snappy id call.method pb)
        (toClient : link.toClientBytes = [])
      (answered : List.Forall₂ (Answered server) mine link.returned)
  | taken (id : BitVec 64) (call : Call μ) (service : Service σ μ)
      (method : MethodDescriptor) (pb : StdString)
      (accepts : Accepts snappy server call service method pb) (waiting : link.waiting = .header id call)
      (serving : link.serving = some (.body
        (messageHeader id call.method pb (snappy.compress pb) (hashCRC32 (snappy.compress pb)))
          service method))
      (toServer : link.toServerBytes = frame (snappy.compress pb)) (toClient : link.toClientBytes = [])
      (answered : List.Forall₂ (Answered server) mine link.returned)
  | answered (id : BitVec 64) (call : Call μ) (earlier : List (Execution ι σ μ))
      (execution : Execution ι σ μ)
      (pb : StdString) (mine_ : mine = earlier ++ [execution])
      (carried : Carried snappy (execution.service.responsePrototype execution.method) call.responseType
        execution.response pb)
      (shortError : execution.rv.text.length ≤ 992)
      (waiting : link.waiting = .header id call) (serving : link.serving = some .header)
      (toServer : link.toServerBytes = [])
      (toClient : link.toClientBytes = messageBytes snappy id execution.rv.text pb)
      (answered : List.Forall₂ (Answered server) earlier link.returned)
      (last : Answered server execution
        (call, if execution.rv.text = [] then .ok execution.response else .error execution.rv))
  | headed (id : BitVec 64) (call : Call μ) (earlier : List (Execution ι σ μ))
      (execution : Execution ι σ μ)
      (pb : StdString) (mine_ : mine = earlier ++ [execution])
      (carried : Carried snappy (execution.service.responsePrototype execution.method) call.responseType
        execution.response pb)
      (waiting : link.waiting = .body id
        (messageHeader id execution.rv.text pb (snappy.compress pb) (hashCRC32 (snappy.compress pb))) call)
      (serving : link.serving = some .header) (toServer : link.toServerBytes = [])
      (toClient : link.toClientBytes = frame (snappy.compress pb))
      (answered : List.Forall₂ (Answered server) earlier link.returned)
      (last : Answered server execution
        (call, if execution.rv.text = [] then .ok execution.response else .error execution.rv))

/-- Nobody has closed a connection, and both ends take all bytes. -/
structure Link.Quiet (link : Link σ μ) : Prop where
  clientOpen : link.client.peerClosed = false
  clientHealthy : link.client.accepts = none
  serverOpen : link.server.peerClosed = false
  serverHealthy : link.server.accepts = none

/-- The invariant of the system. -/
structure Invariant [DecidableEq ι] (snappy : Snappy) (server : Server σ μ) (start : σ)
    (system : System ι σ μ) :
    Prop where
  quiet : ∀ i, (system.links i).Quiet
  phases : ∀ i, Phase snappy server (system.links i) (system.executedOf i)
  replays : Replays start system.executed system.shared

end Statements

section Link

variable {ι σ μ : Type} {snappy : Snappy} {server : Server σ μ} {link link' : Link σ μ}
variable {mine : List (Execution ι σ μ)}

/-!
### One connection

The phases of one call as they can be seen from the bytes on a connection:
requested, taken, answered, headed.
-/

theorem recvFrame_nil {c : Conn} (isOpen : c.peerClosed = false) (empty : c.incoming = [])
    (data : StdString) :
    c.recvFrame data = .error .blocks := by
  have number : c.readUvarint = .error .blocks := by
    rw [readUvarint_eq, empty]
    simp [Varint.groupWithin, isOpen]
  rw [Conn.recvFrame, number]
  rfl

theorem recvHeader_nil {c : Conn} (isOpen : c.peerClosed = false) (empty : c.incoming = [])
    (function : String) :
    recvHeader function c = .error .blocks := by
  rw [recvHeader, recvFrame_nil isOpen empty]
  rfl

/-- A server without bytes waits. -/
theorem processHeader_nil {c : Conn} (isOpen : c.peerClosed = false) (empty : c.incoming = []) :
    processHeader snappy server c = .error .blocks := by
  rw [processHeader, recvRequestHeader, recvHeader_nil isOpen empty]
  rfl

/-- A client that does not run a call starts one that fits. -/
theorem Phase.call {call : Call μ} (phase : Phase snappy server link mine) (quiet : link.Quiet)
    (fits : Fits snappy server call)
    (stepped : link.call snappy call = some link') : Phase snappy server link' mine ∧ link'.Quiet := by
  obtain ⟨service, method, pb, accepts⟩ := fits
  cases phase with
  | idle waiting serving toServer toClient answered =>
      have header := @length_messageHeader_le call.method pb (snappy.compress pb) link.seq
        (hashCRC32 (snappy.compress pb)) accepts.shortName
      have sent : sendRequest snappy call.requestType link.client link.seq call.method (some call.request) =
          .ok (.nil, { link.client with
            sent := link.client.sent ++ messageBytes snappy link.seq call.method pb }) := by
        rw [sendRequest, marshal, accepts.requestCarried.serialized,
          send_eq quiet.clientHealthy accepts.requestCarried.short, if_neg (Nat.not_lt.mpr header)]
      simp only [Link.call, waiting, sent] at stepped
      cases stepped
      refine ⟨.requested link.seq call service method pb accepts rfl serving ?_ toClient answered, ?_⟩
      · show link.server.incoming ++ (link.client.sent ++ _) = _
        rw [← List.append_assoc]
        rw [Link.toServerBytes] at toServer
        rw [toServer, List.nil_append]
      · exact ⟨quiet.clientOpen, quiet.clientHealthy, quiet.serverOpen, quiet.serverHealthy⟩
  | requested id call service method pb accepts waiting serving toServer toClient answered =>
      simp only [Link.call, waiting] at stepped
      cases stepped
  | taken id call service method pb accepts waiting serving toServer toClient answered =>
      simp only [Link.call, waiting] at stepped
      cases stepped
  | answered id call earlier execution pb mine_ carried shortError waiting serving toServer
      toClient answered last =>
      simp only [Link.call, waiting] at stepped
      cases stepped
  | headed id call earlier execution pb mine_ carried waiting serving toServer toClient answered last =>
      simp only [Link.call, waiting] at stepped
      cases stepped

/-- A client that waits for nothing can call. -/
theorem Link.Quiet.call_of_idle {call : Call μ} (quiet : link.Quiet) (fits : Fits snappy server call)
    (idle : link.waiting = .idle) : ∃ link', link.call snappy call = some link' := by
  obtain ⟨service, method, pb, accepts⟩ := fits
  have header := @length_messageHeader_le call.method pb (snappy.compress pb) link.seq
    (hashCRC32 (snappy.compress pb)) accepts.shortName
  rw [Link.call, idle, sendRequest, marshal, accepts.requestCarried.serialized]
  simp only [send_eq quiet.clientHealthy accepts.requestCarried.short, if_neg (Nat.not_lt.mpr header)]
  exact ⟨_, rfl⟩

/-- What a client receives of an answer is the answer, and what it returns of it
is what the service gave. -/
theorem Phase.receive (lossless : snappy.Lossless) (phase : Phase snappy server link mine)
    (quiet : link.Quiet)
    (stepped : link.receive snappy = some link') : Phase snappy server link' mine ∧ link'.Quiet := by
  have nothing : link.toClientBytes = [] → link.client.incoming = [] := by
    intro empty
    exact (List.append_eq_nil_iff.mp empty).1
  cases phase with
  | idle waiting serving toServer toClient answered =>
      simp only [Link.receive, waiting] at stepped
      cases stepped
  | requested id call service method pb accepts waiting serving toServer toClient answered =>
      simp only [Link.receive, waiting, recvResponseHeader,
        recvHeader_nil quiet.clientOpen (nothing toClient)] at stepped
      cases stepped
  | taken id call service method pb accepts waiting serving toServer toClient answered =>
      simp only [Link.receive, waiting, recvResponseHeader,
        recvHeader_nil quiet.clientOpen (nothing toClient)] at stepped
      cases stepped
  | answered id call earlier execution pb mine_ carried shortError waiting serving toServer
      toClient answered last =>
      obtain ⟨wellFormed, fits⟩ := @messageHeader_fits snappy execution.rv.text pb shortError id
      rw [Link.toClientBytes, messageBytes] at toClient
      rcases recvHeader_partial "RecvResponseHeader" wellFormed fits quiet.clientOpen toClient with
        waits | ⟨more, behind, arrived⟩
      · simp only [Link.receive, waiting, recvResponseHeader, waits] at stepped
        cases stepped
      · simp only [Link.receive, waiting, recvResponseHeader, arrived] at stepped
        cases stepped
        refine ⟨.headed id call earlier execution pb mine_ carried rfl serving toServer
          behind answered last, ?_⟩
        exact ⟨quiet.clientOpen, quiet.clientHealthy, quiet.serverOpen, quiet.serverHealthy⟩
  | headed id call earlier execution pb mine_ carried waiting serving toServer toClient answered last =>
      rw [Link.toClientBytes, ← List.append_nil (frame (snappy.compress pb))] at toClient
      rcases recvBody_partial "RecvResponseBody" id execution.rv.text lossless carried.parsed carried.counted
        carried.short quiet.clientOpen toClient with waits | ⟨more, behind, arrived⟩
      · simp only [Link.receive, waiting, recvResponseBody, waits] at stepped
        cases stepped
      · simp only [Link.receive, waiting, recvResponseBody, arrived] at stepped
        cases stepped
        have finished : finishCall id
            (messageHeader id execution.rv.text pb (snappy.compress pb) (hashCRC32 (snappy.compress pb)))
            (.ok execution.response) =
              if execution.rv.text = [] then .ok execution.response else .error execution.rv := by
          rw [finishCall, WireHeader.idValue, messageHeader, Option.getD_some, if_pos rfl]
          rfl
        refine ⟨.idle rfl serving toServer behind ?_, ?_⟩
        · rw [mine_, finished]
          exact List.rel_append answered (.cons last .nil)
        · exact ⟨quiet.clientOpen, quiet.clientHealthy, quiet.serverOpen, quiet.serverHealthy⟩

/-- A thread at the head of `ProcessOneCall` waits, or takes the header of the
client's call. -/
theorem Phase.processHeader (phase : Phase snappy server link mine) (quiet : link.Quiet)
    (serving : link.serving = some .header) :
    processHeader snappy server link.server = .error .blocks ∨
      ∃ next c, processHeader snappy server link.server = .ok (.inr next, c) ∧
        Phase snappy server { link with server := c, serving := some next } mine ∧
        ({ link with server := c, serving := some next } : Link σ μ).Quiet := by
  have nothing : link.toServerBytes = [] →
      Rpc.processHeader snappy server link.server = .error .blocks := by
    intro empty
    exact processHeader_nil quiet.serverOpen (List.append_eq_nil_iff.mp empty).1
  cases phase with
  | idle waiting _ toServer toClient answered => exact Or.inl (nothing toServer)
  | requested id call service method pb accepts waiting _ toServer toClient answered =>
      obtain ⟨wellFormed, fits⟩ := @messageHeader_fits snappy call.method pb accepts.shortName id
      rw [Link.toServerBytes, messageBytes] at toServer
      rcases recvHeader_partial "RecvRequestHeader" wellFormed fits quiet.serverOpen toServer with
        waits | ⟨more, behind, arrived⟩
      · refine Or.inl ?_
        rw [Rpc.processHeader, recvRequestHeader, waits]
        rfl
      · refine Or.inr ⟨.body (messageHeader id call.method pb (snappy.compress pb)
          (hashCRC32 (snappy.compress pb))) service method, { link.server with incoming := more },
            ?_, ?_, ?_⟩
        · have asked : RequestHeader.method (messageHeader id call.method pb (snappy.compress pb)
              (hashCRC32 (snappy.compress pb))) = call.method := rfl
          simp only [Rpc.processHeader, recvRequestHeader, arrived, bind, Except.bind, asked,
            accepts.methodFound,
            accepts.serviceFound, pure, Except.pure]
        · exact .taken id call service method pb accepts waiting rfl behind toClient answered
        · exact ⟨quiet.clientOpen, quiet.clientHealthy, quiet.serverOpen, quiet.serverHealthy⟩
  | taken id call service method pb accepts waiting atBody toServer toClient answered =>
      rw [serving] at atBody
      cases atBody
  | answered id call earlier execution pb mine_ carried shortError waiting _ toServer
      toClient answered last =>
      exact Or.inl (nothing toServer)
  | headed id call earlier execution pb mine_ carried waiting _ toServer toClient answered last =>
      exact Or.inl (nothing toServer)

/-- A thread at the body of a call waits, or takes the request, calls the
service and answers. -/
theorem Phase.processBody (lossless : snappy.Lossless) (phase : Phase snappy server link mine)
    (quiet : link.Quiet)
    {header : RequestHeader} {service : Service σ μ} {method : MethodDescriptor}
    (serving : link.serving = some (.body header service method)) :
    recvRequestBody snappy (service.requestPrototype method) header link.server = .error .blocks ∨
      ∃ request c, recvRequestBody snappy (service.requestPrototype method) header link.server =
          .ok (.ok request, c) ∧
        ∀ (i : ι) (shared : σ), ∃ c', answerCall snappy header service method request c shared =
            .ok (.nil, c', (service.callMethod method request shared).2.2) ∧
          Phase snappy server { link with server := c', serving := some .header }
            (mine ++ [execution i service method request shared]) ∧
          ({ link with server := c', serving := some .header } : Link σ μ).Quiet := by
  cases phase with
  | idle waiting atHeader toServer toClient answered =>
      rw [serving] at atHeader
      cases atHeader
  | requested id call service method pb accepts waiting atHeader toServer toClient answered =>
      rw [serving] at atHeader
      cases atHeader
  | answered id call earlier execution pb mine_ carried shortError waiting atHeader toServer
      toClient answered last =>
      rw [serving] at atHeader
      cases atHeader
  | headed id call earlier execution pb mine_ carried waiting atHeader toServer toClient answered last =>
      rw [serving] at atHeader
      cases atHeader
  | taken id call service' method' pb accepts waiting atBody toServer toClient answered =>
      rw [serving] at atBody
      cases atBody
      have request := accepts.requestCarried
      rw [Link.toServerBytes, ← List.append_nil (frame (snappy.compress pb))] at toServer
      rcases recvBody_partial "RecvRequestBody" id call.method lossless request.parsed
        request.counted request.short
        quiet.serverOpen toServer with waits | ⟨more, behind, arrived⟩
      · exact Or.inl waits
      · refine Or.inr ⟨call.request, { link.server with incoming := more }, arrived, ?_⟩
        intro i shared
        obtain ⟨pb', carried⟩ := accepts.responseCarried shared
        have fits := @length_messageHeader_le (service.callMethod method call.request shared).1.text pb'
          (snappy.compress pb') id (hashCRC32 (snappy.compress pb')) (accepts.shortError shared)
        have sent : sendResponse snappy (service.responsePrototype method)
            { link.server with incoming := more } id
            (service.callMethod method call.request shared).1.text
            (some (service.callMethod method call.request shared).2.1) =
              .ok (.nil, { link.server with
                incoming := more
                sent := link.server.sent ++
                  messageBytes snappy id (service.callMethod method call.request shared).1.text pb' }) := by
          have healthy : ({ link.server with incoming := more } : Conn).accepts = none := quiet.serverHealthy
          rw [sendResponse, marshal, carried.serialized, send_eq healthy carried.short,
            if_neg (Nat.not_lt.mpr fits)]
        refine ⟨{ link.server with
          incoming := more
          sent := link.server.sent ++
            messageBytes snappy id (service.callMethod method call.request shared).1.text pb' }, ?_,
          .answered id call mine _ pb' rfl carried (accepts.shortError shared) waiting rfl behind
            ?_ answered ?_, ?_⟩
        · have sameId : WireHeader.idValue (messageHeader id call.method pb (snappy.compress pb)
              (hashCRC32 (snappy.compress pb))) = id := rfl
          simp only [answerCall, sameId, sent, bind, Except.bind, pure, Except.pure]
        · rw [Link.toClientBytes] at toClient ⊢
          show link.client.incoming ++ (link.server.sent ++ _) = _
          rw [← List.append_assoc, toClient, List.nil_append]
          rfl
        · exact ⟨accepts.methodFound, accepts.serviceFound, rfl, rfl⟩
        · exact ⟨quiet.clientOpen, quiet.clientHealthy, quiet.serverOpen, quiet.serverHealthy⟩

/-- What the network does changes nothing about where a call is. -/
theorem Phase.congr (phase : Phase snappy server link mine) (waiting : link'.waiting = link.waiting)
    (serving : link'.serving = link.serving) (toServer : link'.toServerBytes = link.toServerBytes)
    (toClient : link'.toClientBytes = link.toClientBytes) (returned : link'.returned = link.returned) :
    Phase snappy server link' mine := by
  cases phase with
  | idle waits serves there back answered =>
      exact .idle (waiting.trans waits) (serving.trans serves) (toServer.trans there) (toClient.trans back)
        (by rw [returned]; exact answered)
  | requested id call service method pb accepts waits serves there back answered =>
      exact .requested id call service method pb accepts (waiting.trans waits) (serving.trans serves)
        (toServer.trans there) (toClient.trans back) (by rw [returned]; exact answered)
  | taken id call service method pb accepts waits serves there back answered =>
      exact .taken id call service method pb accepts (waiting.trans waits) (serving.trans serves)
        (toServer.trans there) (toClient.trans back) (by rw [returned]; exact answered)
  | answered id call earlier execution pb mine_ carried shortError waits serves there back answered last =>
      exact .answered id call earlier execution pb mine_ carried shortError (waiting.trans waits)
        (serving.trans serves) (toServer.trans there) (toClient.trans back)
          (by rw [returned]; exact answered) last
  | headed id call earlier execution pb mine_ carried waits serves there back answered last =>
      exact .headed id call earlier execution pb mine_ carried (waiting.trans waits) (serving.trans serves)
        (toServer.trans there) (toClient.trans back) (by rw [returned]; exact answered) last

/-- Carrying bytes to the server keeps the phase. -/
theorem toServer_phase (phase : Phase snappy server link mine) (count : Nat) :
    Phase snappy server (link.toServer count) mine := by
  refine phase.congr rfl rfl ?_ rfl rfl
  show link.server.incoming ++ link.client.sent.take count ++ link.client.sent.drop count = _
  rw [List.append_assoc, List.take_append_drop]
  rfl

/-- Carrying bytes to the client keeps the phase. -/
theorem toClient_phase (phase : Phase snappy server link mine) (count : Nat) :
    Phase snappy server (link.toClient count) mine := by
  refine phase.congr rfl rfl rfl ?_ rfl
  show link.client.incoming ++ link.server.sent.take count ++ link.server.sent.drop count = _
  rw [List.append_assoc, List.take_append_drop]
  rfl

end Link

section Echo

/-!
### A server that answers what it was asked

Two clients and the example's server. The call of one has returned, that of the
other is in progress.
-/

theorem echoCall_fits : Fits plainSnappy echoServer echoCall := by
  refine ⟨echoService, echoMethod, [7#8], by decide, findMethodDescriptor_echo, rfl,
    ⟨rfl, rfl, by decide, by decide⟩, ?_, ?_⟩
  · intro calls
    exact Nat.zero_le _
  · intro calls
    exact ⟨[7#8], rfl, rfl, by decide, by decide⟩

/-- Two clients call, and one of them is answered. -/
def echoRun : List (Action Bool StdString) :=
  [.call true echoCall, .call false echoCall, .toServer true 5, .toServer true 95, .serve true,
    .toServer false 100,
    .serve false, .serve true, .toClient true 100, .receive true, .serve false, .receive true]

theorem echoRun_fits : ∀ action ∈ echoRun, ActionFits plainSnappy echoServer action := by
  intro action among
  cases action with
  | call i call =>
      have same : call = echoCall := by
        simp only [echoRun, List.mem_cons, Action.call.injEq, List.not_mem_nil, or_false, reduceCtorEq]
          at among
        rcases among with ⟨_, same⟩ | ⟨_, same⟩ <;> exact same
      rw [same]
      exact echoCall_fits
  | _ => trivial

theorem echoRun_runs : ((Transition.run (step plainSnappy echoServer) (System.start 0) echoRun).map
    fun system =>
    ((system.links true).returned.length, (system.links false).returned.length, system.shared)) =
      some (1, 0, 2) := by
  decide +kernel

end Echo

section Runs

variable {ι σ μ : Type} [DecidableEq ι] {snappy : Snappy} {server : Server σ μ} {start : σ}
variable {system system' : System ι σ μ}

/-!
### The whole system

The invariant has one phase for each connection and a log of the executions. A
step changes the phase of one connection, and an execution moves the state that
all share.
-/

omit [DecidableEq ι] in
/-- One more execution leads on from where the others ended. -/
theorem replays_append {executed : List (Execution ι σ μ)} {shared final : σ}
    {execution : Execution ι σ μ}
    (replays : Replays start executed shared)
    (gave : execution.service.callMethod execution.method execution.request shared =
      (execution.rv, execution.response, final)) :
    Replays start (executed ++ [execution]) final := by
  induction executed generalizing start with
  | nil =>
      rw [Replays] at replays
      rw [replays] at gave
      exact ⟨final, gave, rfl⟩
  | cons first executed inductionHypothesis =>
      obtain ⟨between, first_, others⟩ := replays
      exact ⟨between, first_, inductionHypothesis others⟩

theorem executedOf_append {links : ι → Link σ μ} {shared : σ} (added : Execution ι σ μ) (j : ι) :
    ({ links := links, shared := shared, executed := system.executed ++ [added] } :
      System ι σ μ).executedOf j =
      if j = added.link then system.executedOf j ++ [added] else system.executedOf j := by
  simp only [System.executedOf, List.filter_append, List.filter_cons, List.filter_nil]
  by_cases mine : added.link = j
  · simp [mine]
  · have other : j ≠ added.link := fun same => mine same.symm
    simp [mine, other]

/-- A step of one client that calls no service. -/
theorem Invariant.update (invariant : Invariant snappy server start system) {i : ι} {link : Link σ μ}
    (phase : Phase snappy server link (system.executedOf i)) (quiet : link.Quiet) :
    Invariant snappy server start { system with links := Function.update system.links i link } := by
  refine ⟨?_, ?_, invariant.replays⟩
  · intro j
    show (Function.update system.links i link j).Quiet
    by_cases same : j = i
    · rw [same, Function.update_self]
      exact quiet
    · rw [Function.update_of_ne same]
      exact invariant.quiet j
  · intro j
    show Phase snappy server (Function.update system.links i link j) (system.executedOf j)
    by_cases same : j = i
    · rw [same, Function.update_self]
      exact phase
    · rw [Function.update_of_ne same]
      exact invariant.phases j

/-- A step of one client's thread that calls a service. -/
theorem Invariant.execute (invariant : Invariant snappy server start system) {i : ι} {link : Link σ μ}
    {service : Service σ μ} {method : MethodDescriptor} {request : μ}
    (phase : Phase snappy server link
      (system.executedOf i ++ [execution i service method request system.shared])) (quiet : link.Quiet) :
    Invariant snappy server start
      { links := Function.update system.links i link
        shared := (service.callMethod method request system.shared).2.2
        executed := system.executed ++ [execution i service method request system.shared] } := by
  refine ⟨?_, ?_, replays_append invariant.replays rfl⟩
  · intro j
    show (Function.update system.links i link j).Quiet
    by_cases same : j = i
    · rw [same, Function.update_self]
      exact quiet
    · rw [Function.update_of_ne same]
      exact invariant.quiet j
  · intro j
    have owner : (execution i service method request system.shared).link = i := rfl
    rw [executedOf_append, owner]
    show Phase snappy server (Function.update system.links i link j) _
    by_cases same : j = i
    · rw [same, Function.update_self, if_pos rfl]
      exact phase
    · rw [Function.update_of_ne same, if_neg same]
      exact invariant.phases j

/-- The turns of a thread are `ProcessOneCall`: what it gives on the thread's
connection, one turn or two give, with the other clients where they are. -/
theorem serve_eq_processOneCall {i : ι} {err : Error} {c : Conn} {shared : σ}
    (serving : (system.links i).serving = some .header)
    (returned : processOneCall snappy server (system.links i).server system.shared = .ok (err, c, shared)) :
    ∃ turns system', (turns = [Action.serve i] ∨ turns = [Action.serve i, Action.serve i]) ∧
      Transition.run (step snappy server) system turns = some system' ∧ system'.shared = shared ∧
      system'.links =
        Function.update system.links i { system.links i with server := c, serving := afterCall err } := by
  rw [processOneCall] at returned
  cases reached : processHeader snappy server (system.links i).server with
  | error halt =>
      rw [reached] at returned
      cases returned
  | ok result =>
      obtain ⟨outcome, between⟩ := result
      rw [reached] at returned
      simp only [bind, Except.bind] at returned
      cases outcome with
      | inl early =>
          cases returned
          have first : step snappy server system (.serve i) = some { system with
              links := Function.update system.links i { system.links i with
                server := c, serving := afterCall err } } := by
            simp only [step, System.serve, serving, reached]
          exact ⟨_, _, Or.inl rfl, Transition.run_cons_eq_some.mpr ⟨_, first, rfl⟩, rfl, rfl⟩
      | inr behind =>
          have first : step snappy server system (.serve i) = some { system with
              links := Function.update system.links i { system.links i with
                server := between, serving := some behind } } := by
            simp only [step, System.serve, serving, reached]
          cases behind with
          | header =>
              cases returned
              exact ⟨_, _, Or.inl rfl, Transition.run_cons_eq_some.mpr ⟨_, first, rfl⟩, rfl, rfl⟩
          | body header service method =>
              simp only [processBody, bind, Except.bind] at returned
              cases request : recvRequestBody snappy (service.requestPrototype method) header between with
              | error halt =>
                  rw [request] at returned
                  cases returned
              | ok result =>
                  obtain ⟨message, after⟩ := result
                  rw [request] at returned
                  cases message with
                  | error failed =>
                      cases returned
                      have second : step snappy server { system with
                          links := Function.update system.links i { system.links i with
                            server := between, serving := some (.body header service method) } } (.serve i) =
                          some { system with
                            links := Function.update system.links i { system.links i with
                              server := after, serving := afterCall err } } := by
                        simp only [step, System.serve, Function.update_self, request, Function.update_idem]
                      exact ⟨_, _, Or.inr rfl, Transition.run_cons_eq_some.mpr ⟨_, first,
                        Transition.run_cons_eq_some.mpr ⟨_, second, rfl⟩⟩, rfl, rfl⟩
                  | ok message =>
                      simp only [] at returned
                      have second : step snappy server { system with
                          links := Function.update system.links i { system.links i with
                            server := between, serving := some (.body header service method) } } (.serve i) =
                          some {
                            links := Function.update system.links i { system.links i with
                              server := c, serving := afterCall err }
                            shared := shared
                            executed := system.executed ++
                              [execution i service method message system.shared] } := by
                        simp only [step, System.serve, Function.update_self, request, returned,
                          Function.update_idem]
                      exact ⟨_, _, Or.inr rfl, Transition.run_cons_eq_some.mpr ⟨_, first,
                        Transition.run_cons_eq_some.mpr ⟨_, second, rfl⟩⟩, rfl, rfl⟩

/-- At the start every connection is quiet. -/
theorem invariant_start (shared : σ) :
    Invariant snappy server shared (System.start shared : System ι σ μ) := by
  refine ⟨fun _ => ⟨rfl, rfl, rfl, rfl⟩, fun _ => ?_, rfl⟩
  exact .idle rfl rfl rfl rfl .nil

/-- A thread takes its turn. -/
theorem Invariant.serve (lossless : snappy.Lossless)
    (invariant : Invariant snappy server start system) {i : ι}
    (stepped : system.serve snappy server i = some system') : Invariant snappy server start system' := by
  have phase := invariant.phases i
  have quiet := invariant.quiet i
  rw [System.serve] at stepped
  cases serving : (system.links i).serving with
  | none =>
      rw [serving] at stepped
      cases stepped
  | some place =>
      rw [serving] at stepped
      cases place with
      | header =>
          rcases phase.processHeader quiet serving with waits | ⟨next, c, taken, nextPhase, nextQuiet⟩
          · simp only [waits] at stepped
            cases stepped
          · simp only [taken] at stepped
            cases stepped
            exact invariant.update nextPhase nextQuiet
      | body header service method =>
          rcases phase.processBody lossless quiet serving with waits | ⟨request, c, taken, answers⟩
          · simp only [waits] at stepped
            cases stepped
          · obtain ⟨c', answered, nextPhase, nextQuiet⟩ := answers i system.shared
            simp only [taken, answered] at stepped
            cases stepped
            exact invariant.execute nextPhase nextQuiet

/-- Every step keeps the invariant. -/
theorem invariant_step (lossless : snappy.Lossless) {action : Action ι μ}
    (invariant : Invariant snappy server start system) (fits : ActionFits snappy server action)
    (stepped : step snappy server system action = some system') : Invariant snappy server start system' := by
  cases action with
  | call i call =>
      obtain ⟨link, called, rfl⟩ := Option.map_eq_some_iff.mp stepped
      obtain ⟨phase, quiet⟩ := (invariant.phases i).call (invariant.quiet i) fits called
      exact invariant.update phase quiet
  | receive i =>
      obtain ⟨link, received, rfl⟩ := Option.map_eq_some_iff.mp stepped
      obtain ⟨phase, quiet⟩ := (invariant.phases i).receive lossless (invariant.quiet i) received
      exact invariant.update phase quiet
  | serve i => exact invariant.serve lossless stepped
  | toServer i count =>
      cases stepped
      obtain ⟨clientOpen, clientHealthy, serverOpen, serverHealthy⟩ := invariant.quiet i
      exact invariant.update (toServer_phase (invariant.phases i) count)
        ⟨clientOpen, clientHealthy, serverOpen, serverHealthy⟩
  | toClient i count =>
      cases stepped
      obtain ⟨clientOpen, clientHealthy, serverOpen, serverHealthy⟩ := invariant.quiet i
      exact invariant.update (toClient_phase (invariant.phases i) count)
        ⟨clientOpen, clientHealthy, serverOpen, serverHealthy⟩

/-- The invariant holds in every reachable state. -/
theorem invariant_run (lossless : snappy.Lossless) {actions : List (Action ι μ)} {shared : σ}
    (fits : ∀ action ∈ actions, ActionFits snappy server action)
    (ran : Transition.run (step snappy server) (System.start shared) actions = some system) :
    Invariant snappy server shared system := by
  exact @Transition.run_invariant_of_stepsMeet _ _ (step snappy server) (System.start shared) system actions
    (fun system => Invariant snappy server shared system) (fun _ action => ActionFits snappy server action)
    (fun invariant here stepped => invariant_step lossless invariant here stepped) (invariant_start shared)
    (Transition.stepsMeet_of_actions fits) ran

/-- A thread's turn changes the server's end of its own connection only. -/
theorem serve_links {i : ι} (stepped : system.serve snappy server i = some system') :
    ∃ c serving, system'.links =
      Function.update system.links i { system.links i with server := c, serving := serving } := by
  rw [System.serve] at stepped
  cases serving : (system.links i).serving with
  | none =>
      rw [serving] at stepped
      cases stepped
  | some place =>
      rw [serving] at stepped
      cases place with
      | header =>
          simp only [] at stepped
          cases taken : processHeader snappy server (system.links i).server with
          | error halt =>
              rw [taken] at stepped
              cases stepped
          | ok result =>
              obtain ⟨reached, c⟩ := result
              rw [taken] at stepped
              cases reached <;> cases stepped <;> exact ⟨_, _, rfl⟩
      | body header service method =>
          simp only [] at stepped
          cases taken : recvRequestBody snappy (service.requestPrototype method) header
            (system.links i).server with
          | error halt =>
              rw [taken] at stepped
              cases stepped
          | ok result =>
              obtain ⟨request, c⟩ := result
              rw [taken] at stepped
              cases request with
              | error err =>
                  cases stepped
                  exact ⟨_, _, rfl⟩
              | ok request =>
                  simp only [] at stepped
                  cases answered : answerCall snappy header service method request c system.shared with
                  | error halt =>
                      rw [answered] at stepped
                      cases stepped
                  | ok result =>
                      rw [answered] at stepped
                      cases stepped
                      exact ⟨_, _, rfl⟩

/-- The call a client waits for. -/
def Waiting.call : Waiting μ → List (Call μ)
  | .idle => []
  | .header _ call => [call]
  | .body _ _ call => [call]

@[simp] theorem Waiting.call_idle : (Waiting.idle : Waiting μ).call = [] := rfl

theorem Waiting.call_eq_nil {waiting : Waiting μ} : waiting.call = [] ↔ waiting = .idle := by
  cases waiting <;> simp [Waiting.call]

/-- The calls a client has made. -/
def Link.issued (link : Link σ μ) : List (Call μ) := link.returned.map Prod.fst ++ link.waiting.call

/-- The calls of one client among some actions. -/
def callsOf (i : ι) (actions : List (Action ι μ)) : List (Call μ) :=
  actions.filterMap fun
    | .call j call => if j = i then some call else none
    | _ => none

/-- What the start of a call does to what a client waits for and has got: it
waits for the call, or the call has failed already. -/
theorem call_cases {link link' : Link σ μ} {call : Call μ} (called : link.call snappy call = some link') :
    link.waiting = .idle ∧
      (link'.waiting.call = [call] ∧ link'.returned = link.returned ∨
        link'.waiting = .idle ∧ ∃ result, link'.returned = link.returned ++ [(call, result)]) := by
  rw [Link.call] at called
  cases waiting : link.waiting with
  | header id pending =>
      rw [waiting] at called
      cases called
  | body id header pending =>
      rw [waiting] at called
      cases called
  | idle =>
      rw [waiting] at called
      simp only [] at called
      cases sent : sendRequest snappy call.requestType link.client link.seq call.method
        (some call.request) with
      | error halt =>
          rw [sent] at called
          cases called
      | ok result =>
          rw [sent] at called
          simp only [] at called
          split_ifs at called
          · cases called
            exact ⟨rfl, Or.inl ⟨rfl, rfl⟩⟩
          · cases called
            exact ⟨rfl, Or.inr ⟨rfl, _, rfl⟩⟩

/-- What a turn of a client does: it goes on waiting for its call, or the call
returns. -/
theorem receive_cases {link link' : Link σ μ} (received : link.receive snappy = some link') :
    link'.waiting.call = link.waiting.call ∧ link'.returned = link.returned ∨
      ∃ call result, link.waiting.call = [call] ∧ link'.waiting = .idle ∧
        link'.returned = link.returned ++ [(call, result)] := by
  rw [Link.receive] at received
  cases waiting : link.waiting with
  | idle =>
      rw [waiting] at received
      cases received
  | header id pending =>
      rw [waiting] at received
      simp only [] at received
      cases arrived : recvResponseHeader link.client with
      | error halt =>
          rw [arrived] at received
          cases received
      | ok result =>
          obtain ⟨header, c⟩ := result
          rw [arrived] at received
          cases header with
          | error err =>
              cases received
              exact Or.inr ⟨pending, _, rfl, rfl, rfl⟩
          | ok header =>
              cases received
              exact Or.inl ⟨rfl, rfl⟩
  | body id header pending =>
      rw [waiting] at received
      simp only [] at received
      cases arrived : recvResponseBody snappy pending.responseType header link.client with
      | error halt =>
          rw [arrived] at received
          cases received
      | ok result =>
          obtain ⟨response, c⟩ := result
          rw [arrived] at received
          cases received
          exact Or.inr ⟨pending, _, rfl, rfl, rfl⟩

/-- A step that starts no call leaves every client waiting for what it waits
for, or its call returns. -/
theorem step_cases {action : Action ι μ} (stepped : step snappy server system action = some system')
    (noCall : action.startsCall = false) (i : ι) :
    (system'.links i).waiting.call = (system.links i).waiting.call ∧
        (system'.links i).returned = (system.links i).returned ∨
      ∃ call result, (system.links i).waiting.call = [call] ∧ (system'.links i).waiting = .idle ∧
        (system'.links i).returned = (system.links i).returned ++ [(call, result)] := by
  have silent : ∀ {j : ι} {link : Link σ μ}, link.waiting = (system.links j).waiting →
      link.returned = (system.links j).returned →
        (Function.update system.links j link i).waiting.call = (system.links i).waiting.call ∧
          (Function.update system.links j link i).returned = (system.links i).returned := by
    intro j link sameWaiting sameReturned
    by_cases mine : i = j
    · rw [mine, Function.update_self, sameWaiting, sameReturned]
      exact ⟨rfl, rfl⟩
    · rw [Function.update_of_ne mine]
      exact ⟨rfl, rfl⟩
  cases action with
  | call j call => cases noCall
  | receive j =>
      obtain ⟨link, received, rfl⟩ := Option.map_eq_some_iff.mp stepped
      simp only []
      by_cases mine : i = j
      · rw [mine, Function.update_self]
        exact receive_cases received
      · rw [Function.update_of_ne mine]
        exact Or.inl ⟨rfl, rfl⟩
  | serve j =>
      obtain ⟨c, serving, links⟩ := serve_links stepped
      rw [links]
      exact Or.inl (silent rfl rfl)
  | toServer j count =>
      cases stepped
      exact Or.inl (silent rfl rfl)
  | toClient j count =>
      cases stepped
      exact Or.inl (silent rfl rfl)

/-- No step of a client loses a call, and only the start of a call adds one. -/
theorem issued_step {action : Action ι μ} (stepped : step snappy server system action = some system')
    (i : ι) :
    (system'.links i).issued = (system.links i).issued ++ callsOf i [action] := by
  by_cases starts : action.startsCall = true
  · cases action with
    | call j call =>
        obtain ⟨link, called, rfl⟩ := Option.map_eq_some_iff.mp stepped
        simp only []
        by_cases mine : i = j
        · rw [mine, Function.update_self]
          obtain ⟨idle, ⟨waits, same⟩ | ⟨idleAgain, result, more⟩⟩ := call_cases called
          · simp [Link.issued, idle, waits, same, callsOf]
          · simp [Link.issued, idle, idleAgain, more, callsOf]
        · have notMine : ¬j = i := fun same => mine same.symm
          rw [Function.update_of_ne mine]
          simp [callsOf, notMine]
    | receive j => cases starts
    | serve j => cases starts
    | toServer j count => cases starts
    | toClient j count => cases starts
  · have noCall : action.startsCall = false := Bool.eq_false_iff.mpr starts
    have nothing : callsOf i [action] = [] := by
      cases action with
      | call j call => cases noCall
      | _ => rfl
    rw [nothing, List.append_nil, Link.issued, Link.issued]
    rcases step_cases stepped noCall i with
      ⟨sameCall, sameReturned⟩ | ⟨call, result, waits, idle, more⟩
    · rw [sameCall, sameReturned]
    · simp [idle, more, waits]

/-- The calls a client has made are those of the run's actions, in their order. -/
theorem issued_run {actions : List (Action ι μ)}
    (ran : Transition.run (step snappy server) system actions = some system') (i : ι) :
    (system'.links i).issued = (system.links i).issued ++ callsOf i actions := by
  induction actions generalizing system with
  | nil =>
      cases ran
      exact (List.append_nil _).symm
  | cons action actions inductionHypothesis =>
      obtain ⟨between, first, others⟩ := Transition.run_cons_eq_some.mp ran
      have split : callsOf i (action :: actions) = callsOf i [action] ++ callsOf i actions := by
        rw [callsOf, callsOf, callsOf, ← List.filterMap_append, List.singleton_append]
      rw [inductionHypothesis others, issued_step first, split, List.append_assoc]

omit [DecidableEq ι] in
/-- The executions for a client are those of the calls that have returned, and
at most that of a call that waits. -/
theorem Phase.executions {link : Link σ μ} {mine : List (Execution ι σ μ)}
    (phase : Phase snappy server link mine) :
    ∃ earlier pending, mine = earlier ++ pending ∧
      List.Forall₂ (Answered server) earlier link.returned ∧
      pending.length ≤ link.waiting.call.length ∧
      ∀ execution ∈ pending, ∀ call ∈ link.waiting.call,
        Answered server execution (call, execution.result) := by
  have nothing (calls : List (Call μ)) : ∀ execution ∈ ([] : List (Execution ι σ μ)),
      ∀ call ∈ calls,
      Answered server execution (call, execution.result) := fun _ among => absurd among List.not_mem_nil
  cases phase with
  | idle waiting serving toServer toClient answered =>
      exact ⟨_, [], (List.append_nil _).symm, answered, Nat.zero_le _, nothing _⟩
  | requested id call service method pb accepts waiting serving toServer toClient answered =>
      exact ⟨_, [], (List.append_nil _).symm, answered, Nat.zero_le _, nothing _⟩
  | taken id call service method pb accepts waiting serving toServer toClient answered =>
      exact ⟨_, [], (List.append_nil _).symm, answered, Nat.zero_le _, nothing _⟩
  | answered id call earlier execution pb mine_ carried shortError waiting serving toServer
      toClient answered last =>
      refine ⟨earlier, [execution], mine_, answered, ?_⟩
      rw [waiting]
      exact ⟨Nat.le_refl _, fun _ one _ waits => List.mem_singleton.mp one ▸
        List.mem_singleton.mp waits ▸ last⟩
  | headed id call earlier execution pb mine_ carried waiting serving toServer toClient answered last =>
      refine ⟨earlier, [execution], mine_, answered, ?_⟩
      rw [waiting]
      exact ⟨Nat.le_refl _, fun _ one _ waits => List.mem_singleton.mp one ▸
        List.mem_singleton.mp waits ▸ last⟩

/-- In every order of steps: the executions of the services, one after the
other, explain what the services share and what they gave; a client's calls are
those that have returned and at most one that waits; and the executions for it
are, in order, those of the calls that have returned, with what they returned,
and at most one more, which is that of the call that waits: of its method and
with its request. -/
theorem session_exactly_once (lossless : snappy.Lossless) {actions : List (Action ι μ)} {shared : σ}
    (fits : ∀ action ∈ actions, ActionFits snappy server action)
    (ran : Transition.run (step snappy server) (System.start shared) actions = some system) :
    Replays shared system.executed system.shared ∧
      ∀ i, callsOf i actions = (system.links i).returned.map Prod.fst ++ (system.links i).waiting.call ∧
        ∃ earlier pending, system.executedOf i = earlier ++ pending ∧
          List.Forall₂ (Answered server) earlier (system.links i).returned ∧
            pending.length ≤ (system.links i).waiting.call.length ∧
            ∀ execution ∈ pending, ∀ call ∈ (system.links i).waiting.call,
              Answered server execution (call, execution.result) := by
  have invariant := invariant_run lossless fits ran
  exact ⟨invariant.replays, fun i => ⟨(issued_run ran i).symm, (invariant.phases i).executions⟩⟩

/-- Two clients of the echo server, one of them answered. -/
theorem session_exactly_once_echo : ∃ system,
    Transition.run (step plainSnappy echoServer) (System.start 0) echoRun = some system ∧
      Replays 0 system.executed system.shared ∧
        ∀ i, callsOf i echoRun = (system.links i).returned.map Prod.fst ++ (system.links i).waiting.call ∧
          ∃ earlier pending, system.executedOf i = earlier ++ pending ∧
            List.Forall₂ (Answered echoServer) earlier (system.links i).returned ∧
              pending.length ≤ (system.links i).waiting.call.length ∧
              ∀ execution ∈ pending, ∀ call ∈ (system.links i).waiting.call,
                Answered echoServer execution (call, execution.result) := by
  obtain ⟨system, ran, _⟩ := Option.map_eq_some_iff.mp echoRun_runs
  exact ⟨system, ran, session_exactly_once (fun _ => rfl) echoRun_fits ran⟩

/-!
### A call that waits can be completed

From each phase the next one can be reached, by carrying the bytes over and
letting the server go on.
-/

/-- How far a call is from its end. -/
def Link.stage (link : Link σ μ) : Nat :=
  match link.waiting, link.serving with
  | .idle, _ => 0
  | .body _ _ _, _ => 1
  | .header _ _, some (.body _ _ _) => 3
  | .header _ _, _ => if link.toServerBytes = [] then 2 else 4

/-- Everything in flight handed on. -/
def Link.flush (link : Link σ μ) : Link σ μ :=
  (link.toServer link.client.sent.length).toClient link.server.sent.length

theorem flush_server (link : Link σ μ) : link.flush.server = { link.server with
    incoming := link.toServerBytes, sent := [] } := by
  simp [Link.flush, Link.toServer, Link.toClient, Conn.arrive, Link.toServerBytes]

theorem flush_client (link : Link σ μ) : link.flush.client = { link.client with
    incoming := link.toClientBytes, sent := [] } := by
  simp [Link.flush, Link.toServer, Link.toClient, Conn.arrive, Link.toClientBytes]

/-- A step can be made after all bytes have been carried over. -/
theorem run_flush (i : ι) (last : Action ι μ) :
    Transition.run (step snappy server) system
        [.toServer i (system.links i).client.sent.length,
          .toClient i (system.links i).server.sent.length, last] =
      step snappy server { system with links := Function.update system.links i (system.links i).flush }
        last := by
  simp only [Transition.run, step, Option.bind_some, Function.update_self, Function.update_idem, Link.flush,
    Option.bind_fun_some]

/-- A message has bytes. -/
theorem messageBytes_ne_nil (id : BitVec 64) (text pb : StdString) :
    messageBytes snappy id text pb ≠ [] := by
  intro empty
  have first := (List.append_eq_nil_iff.mp (List.append_eq_nil_iff.mp empty).1).1
  have positive := Varint.length_encode_pos
    (messageHeader id text pb (snappy.compress pb) (hashCRC32 (snappy.compress pb))).serializeToString.length
  rw [first] at positive
  cases positive

/-- A turn that leaves one client's connection nearer to its end. -/
def Nearer (snappy : Snappy) (server : Server σ μ) (system : System ι σ μ) (i : ι)
    (stage : Nat) : Prop :=
  ∃ action : Action ι μ, action.link = i ∧ action.startsCall = false ∧
    ∃ links link shared executed, step snappy server system action =
      some { links := Function.update links i link, shared := shared, executed := executed } ∧
      link.stage < stage

section Turns

variable {i : ι} {id : BitVec 64} {call : Call μ} {service : Service σ μ}
  {method : MethodDescriptor} {pb : StdString}
variable {execution : Execution ι σ μ}

/-- A request that has arrived is taken by the server's thread. -/
theorem advance_requested (accepts : Accepts snappy server call service method pb)
    (waiting : (system.links i).waiting = .header id call) (serving : (system.links i).serving = some .header)
    (toServer : (system.links i).toServerBytes = messageBytes snappy id call.method pb) :
    Nearer snappy server { system with links := Function.update system.links i (system.links i).flush } i
      (system.links i).stage := by
  obtain ⟨wellFormed, fits⟩ := @messageHeader_fits snappy call.method pb accepts.shortName id
  have arrived : (system.links i).flush.server.incoming =
      frame (messageHeader id call.method pb (snappy.compress pb)
        (hashCRC32 (snappy.compress pb))).serializeToString ++ frame (snappy.compress pb) := by
    rw [flush_server]
    exact toServer
  have received := recvHeader_frame "RecvRequestHeader" wellFormed fits arrived
  have taken : Rpc.processHeader snappy server (system.links i).flush.server =
      .ok (.inr (.body (messageHeader id call.method pb (snappy.compress pb)
        (hashCRC32 (snappy.compress pb))) service method),
        { (system.links i).flush.server with incoming := frame (snappy.compress pb) }) := by
    have asked : RequestHeader.method (messageHeader id call.method pb (snappy.compress pb)
        (hashCRC32 (snappy.compress pb))) = call.method := rfl
    simp only [Rpc.processHeader, recvRequestHeader, received, bind, Except.bind, asked, accepts.methodFound,
      accepts.serviceFound, pure, Except.pure]
  have serves : (system.links i).flush.serving = some .header := serving
  refine ⟨.serve i, rfl, rfl, Function.update system.links i (system.links i).flush,
    { (system.links i).flush with
      server := { (system.links i).flush.server with incoming := frame (snappy.compress pb) }
      serving := some (.body (messageHeader id call.method pb (snappy.compress pb)
        (hashCRC32 (snappy.compress pb))) service method) }, system.shared, system.executed, ?_, ?_⟩
  · simp only [step, System.serve, Function.update_self, serves, taken]
  · have before : (system.links i).stage = 4 := by
      simp only [Link.stage, waiting, serving, toServer, if_neg (messageBytes_ne_nil id call.method pb)]
    have stillWaits : (system.links i).flush.waiting = .header id call := waiting
    rw [before]
    simp only [Link.stage, stillWaits]
    decide

/-- A request whose header has been taken is answered. -/
theorem advance_taken (lossless : snappy.Lossless) (quiet : (system.links i).Quiet)
    (accepts : Accepts snappy server call service method pb)
    (waiting : (system.links i).waiting = .header id call)
    (serving : (system.links i).serving = some (.body
      (messageHeader id call.method pb (snappy.compress pb) (hashCRC32 (snappy.compress pb))) service method))
    (toServer : (system.links i).toServerBytes = frame (snappy.compress pb))
    (toClient : (system.links i).toClientBytes = [])
    (answered : List.Forall₂ (Answered server) (system.executedOf i) (system.links i).returned) :
    Nearer snappy server { system with links := Function.update system.links i (system.links i).flush } i
      (system.links i).stage := by
  have request := accepts.requestCarried
  have arrived : (system.links i).flush.server.incoming = frame (snappy.compress pb) ++ [] := by
    rw [flush_server, List.append_nil]
    exact toServer
  have received := recvBody_frame "RecvRequestBody" id call.method lossless request.parsed request.counted
    request.short arrived
  have serves : (system.links i).flush.serving = some (.body (messageHeader id call.method pb
    (snappy.compress pb) (hashCRC32 (snappy.compress pb))) service method) := serving
  have flushed : Phase snappy server (system.links i).flush (system.executedOf i) :=
    toClient_phase (toServer_phase
      (.taken id call service method pb accepts waiting serving toServer toClient answered) _) _
  have calm : (system.links i).flush.Quiet :=
    ⟨quiet.clientOpen, quiet.clientHealthy, quiet.serverOpen, quiet.serverHealthy⟩
  rcases flushed.processBody lossless calm serves with blocked | ⟨request', c, taken, answers⟩
  · rw [recvRequestBody, received] at blocked
    cases blocked
  · rw [recvRequestBody, received] at taken
    cases taken
    obtain ⟨c', answer, _, _⟩ := answers i system.shared
    have left : c'.incoming = [] := incoming_answerCall answer
    refine ⟨.serve i, rfl, rfl, Function.update system.links i (system.links i).flush,
      { (system.links i).flush with server := c', serving := some .header },
      (service.callMethod method call.request system.shared).2.2,
      system.executed ++ [execution i service method call.request system.shared], ?_, ?_⟩
    · simp only [step, System.serve, Function.update_self, serves, recvRequestBody, received, answer]
      exact rfl
    · have before : (system.links i).stage = 3 := by
        simp only [Link.stage, waiting, serving]
      have stillWaits : (system.links i).flush.waiting = .header id call := waiting
      have nothing : (system.links i).flush.client.sent = [] := by rw [flush_client]
      rw [before]
      simp only [Link.stage, stillWaits, Link.toServerBytes, left, nothing]
      decide

/-- The client takes the header of an answer. -/
theorem advance_answered (shortError : execution.rv.text.length ≤ 992)
    (waiting : (system.links i).waiting = .header id call) (serving : (system.links i).serving = some .header)
    (toServer : (system.links i).toServerBytes = [])
    (toClient : (system.links i).toClientBytes = messageBytes snappy id execution.rv.text pb) :
    Nearer snappy server { system with links := Function.update system.links i (system.links i).flush } i
      (system.links i).stage := by
  obtain ⟨wellFormed, fits⟩ := @messageHeader_fits snappy execution.rv.text pb shortError id
  have arrived : (system.links i).flush.client.incoming =
      frame (messageHeader id execution.rv.text pb (snappy.compress pb)
        (hashCRC32 (snappy.compress pb))).serializeToString ++ frame (snappy.compress pb) := by
    rw [flush_client]
    exact toClient
  have received := recvHeader_frame "RecvResponseHeader" wellFormed fits arrived
  have stillWaits : (system.links i).flush.waiting = .header id call := waiting
  refine ⟨.receive i, rfl, rfl, Function.update system.links i (system.links i).flush,
    { (system.links i).flush with
      client := { (system.links i).flush.client with incoming := frame (snappy.compress pb) }
      waiting := .body id (messageHeader id execution.rv.text pb (snappy.compress pb)
        (hashCRC32 (snappy.compress pb))) call }, system.shared, system.executed, ?_, ?_⟩
  · simp only [step, Link.receive, Function.update_self, stillWaits, recvResponseHeader, received,
      Option.map_some]
  · have before : (system.links i).stage = 2 := by
      simp only [Link.stage, waiting, serving, toServer, if_true]
    rw [before]
    simp only [Link.stage]
    decide

/-- The client takes the body of an answer, and its call returns. -/
theorem advance_headed (lossless : snappy.Lossless)
    (carried : Carried snappy (execution.service.responsePrototype execution.method) call.responseType
      execution.response pb)
    (waiting : (system.links i).waiting = .body id
      (messageHeader id execution.rv.text pb (snappy.compress pb) (hashCRC32 (snappy.compress pb))) call)
    (toClient : (system.links i).toClientBytes = frame (snappy.compress pb)) :
    Nearer snappy server { system with links := Function.update system.links i (system.links i).flush } i
      (system.links i).stage := by
  have arrived : (system.links i).flush.client.incoming = frame (snappy.compress pb) ++ [] := by
    rw [flush_client, List.append_nil]
    exact toClient
  have received := recvBody_frame "RecvResponseBody" id execution.rv.text lossless
      carried.parsed carried.counted
    carried.short arrived
  have stillWaits : (system.links i).flush.waiting = .body id (messageHeader id execution.rv.text pb
    (snappy.compress pb) (hashCRC32 (snappy.compress pb))) call := waiting
  refine ⟨.receive i, rfl, rfl, Function.update system.links i (system.links i).flush,
    { (system.links i).flush with
      client := { (system.links i).flush.client with incoming := [] }
      waiting := .idle
      returned := (system.links i).flush.returned ++
        [(call, finishCall id (messageHeader id execution.rv.text pb
        (snappy.compress pb) (hashCRC32 (snappy.compress pb))) (.ok execution.response))] }, system.shared,
    system.executed, ?_, ?_⟩
  · simp only [step, Link.receive, Function.update_self, stillWaits, recvResponseBody, received,
      Option.map_some]
  · have before : (system.links i).stage = 1 := by
      simp only [Link.stage, waiting]
    rw [before]
    simp only [Link.stage]
    decide

end Turns

/-- With everything handed on, the end that is waited for can take its turn, and
the call comes nearer to its end. -/
theorem Phase.advance (lossless : snappy.Lossless) {i : ι}
    (phase : Phase snappy server (system.links i) (system.executedOf i)) (quiet : (system.links i).Quiet)
    (waits : (system.links i).waiting ≠ .idle) :
    Nearer snappy server { system with links := Function.update system.links i (system.links i).flush } i
      (system.links i).stage := by
  cases phase with
  | idle waiting serving toServer toClient answered => exact absurd waiting waits
  | requested id call service method pb accepts waiting serving toServer toClient answered =>
      exact advance_requested accepts waiting serving toServer
  | taken id call service method pb accepts waiting serving toServer toClient answered =>
      exact advance_taken lossless quiet accepts waiting serving toServer toClient answered
  | answered id call earlier execution pb mine_ carried shortError waiting serving toServer
      toClient answered last =>
      exact advance_answered shortError waiting serving toServer toClient
  | headed id call earlier execution pb mine_ carried waiting serving toServer toClient answered last =>
      exact advance_headed lossless carried waiting toClient

/-- A step leaves the other clients alone. -/
theorem step_other {action : Action ι μ}
    (stepped : step snappy server system action = some system') {j : ι}
    (other : j ≠ action.link) : system'.links j = system.links j := by
  cases action with
  | call i call =>
      obtain ⟨link, _, rfl⟩ := Option.map_eq_some_iff.mp stepped
      exact Function.update_of_ne other ..
  | receive i =>
      obtain ⟨link, _, rfl⟩ := Option.map_eq_some_iff.mp stepped
      exact Function.update_of_ne other ..
  | serve i =>
      obtain ⟨c, serving, links⟩ := serve_links stepped
      rw [links]
      exact Function.update_of_ne other ..
  | toServer i count =>
      cases stepped
      exact Function.update_of_ne other ..
  | toClient i count =>
      cases stepped
      exact Function.update_of_ne other ..

/-- A run that names no other connection leaves all others alone. -/
theorem run_other {actions : List (Action ι μ)}
    (ran : Transition.run (step snappy server) system actions = some system') {j : ι}
    (others : ∀ action ∈ actions, j ≠ action.link) : system'.links j = system.links j := by
  induction actions generalizing system with
  | nil =>
      cases ran
      rfl
  | cons action actions inductionHypothesis =>
      obtain ⟨between, first, rest⟩ := Transition.run_cons_eq_some.mp ran
      rw [inductionHypothesis rest fun action among => others action (List.mem_cons_of_mem _ among),
        step_other first (others action List.mem_cons_self)]

/-- From a state of the system a call that waits is completed by turns of its
own connection. -/
theorem Invariant.completes (lossless : snappy.Lossless) (invariant : Invariant snappy server start system)
    (i : ι) :
    ∃ actions : List (Action ι μ),
      (∀ action ∈ actions, action.link = i ∧ action.startsCall = false) ∧
      ∃ system', Transition.run (step snappy server) system actions = some system' ∧
        (system'.links i).waiting = .idle := by
  generalize far : (system.links i).stage = stage
  induction stage using Nat.strongRecOn generalizing system with
  | ind stage inductionHypothesis =>
      by_cases idle : (system.links i).waiting = .idle
      · exact ⟨[], fun _ among => absurd among List.not_mem_nil, system, rfl, idle⟩
      · obtain ⟨action, mine, noCall, links, link, shared, executed, stepped, nearer⟩ :=
          (invariant.phases i).advance lossless (invariant.quiet i) idle
        have ran : Transition.run (step snappy server) system
            [.toServer i (system.links i).client.sent.length, .toClient i (system.links i).server.sent.length,
              action] =
            some { links := Function.update links i link, shared := shared, executed := executed } := by
          rw [run_flush]
          exact stepped
        have fits : ∀ next ∈ [.toServer i (system.links i).client.sent.length,
            .toClient i (system.links i).server.sent.length, action], ActionFits snappy server next := by
          intro next among
          rcases List.mem_cons.mp among with rfl | among
          · trivial
          · rcases List.mem_cons.mp among with rfl | among
            · trivial
            · rw [List.mem_singleton.mp among]
              cases action with
              | call i call => cases noCall
              | _ => trivial
        have kept := @Transition.run_invariant_of_stepsMeet _ _ (step snappy server) system _ _
          (fun system => Invariant snappy server start system)
            (fun _ action => ActionFits snappy server action)
          (fun invariant here stepped => invariant_step lossless invariant here stepped) invariant
          (Transition.stepsMeet_of_actions fits) ran
        have closer : (({ links := Function.update links i link, shared := shared, executed := executed } :
            System ι σ μ).links i).stage < stage := by
          rw [← far]
          simp only [Function.update_self]
          exact nearer
        obtain ⟨actions, own, system', others, idleAtEnd⟩ := inductionHypothesis _ closer kept rfl
        refine ⟨[.toServer i (system.links i).client.sent.length,
          .toClient i (system.links i).server.sent.length, action] ++ actions, ?_, system', ?_, idleAtEnd⟩
        · intro next among
          rcases List.mem_append.mp among with first | later
          · rcases List.mem_cons.mp first with rfl | first
            · exact ⟨rfl, rfl⟩
            · rcases List.mem_cons.mp first with rfl | first
              · exact ⟨rfl, rfl⟩
              · rw [List.mem_singleton.mp first]
                exact ⟨mine, noCall⟩
          · exact own next later
        · exact Transition.run_append_eq_some.mpr ⟨_, ran, others⟩

/-- Wherever a run has led, every call that waits can be completed by turns of
its own connection, with the other clients where they are. -/
theorem session_completes (lossless : snappy.Lossless) {actions : List (Action ι μ)} {shared : σ}
    (fits : ∀ action ∈ actions, ActionFits snappy server action)
    (ran : Transition.run (step snappy server) (System.start shared) actions = some system) (i : ι) :
    ∃ more : List (Action ι μ), (∀ action ∈ more, action.link = i ∧ action.startsCall = false) ∧
      ∃ system', Transition.run (step snappy server) system more = some system' ∧
        (system'.links i).waiting = .idle ∧
          (system'.links i).returned.map Prod.fst =
            (system.links i).returned.map Prod.fst ++ (system.links i).waiting.call ∧
          ∀ j ≠ i, system'.links j = system.links j := by
  obtain ⟨more, own, system', further, idle⟩ := (invariant_run lossless fits ran).completes lossless i
  refine ⟨more, own, system', further, idle, ?_, ?_⟩
  · have kept := issued_run further i
    have none_ : callsOf i more = [] := by
      apply List.filterMap_eq_nil_iff.mpr
      intro action among
      cases action with
      | call j call => cases (own _ among).2
      | _ => rfl
    rw [none_, List.append_nil, Link.issued, Link.issued, idle] at kept
    exact (List.append_nil _).symm.trans kept
  · intro j other
    apply run_other further
    intro action among
    rw [(own action among).1]
    exact other

/-- The call of the other client of the echo server. -/
theorem session_completes_echo : ∃ system,
    Transition.run (step plainSnappy echoServer) (System.start 0) echoRun = some system ∧
      ∃ more : List (Action Bool StdString),
        (∀ action ∈ more, action.link = false ∧ action.startsCall = false) ∧
        ∃ system', Transition.run (step plainSnappy echoServer) system more = some system' ∧
          (system'.links false).waiting = .idle ∧
            (system'.links false).returned.map Prod.fst =
              (system.links false).returned.map Prod.fst ++ (system.links false).waiting.call ∧
            ∀ j ≠ false, system'.links j = system.links j := by
  obtain ⟨system, ran, _⟩ := Option.map_eq_some_iff.mp echoRun_runs
  exact ⟨system, ran, session_completes (fun _ => rfl) echoRun_fits ran false⟩

end Runs

end Q3df.Rpc
