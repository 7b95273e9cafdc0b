/-
Module: Q3df.Rpc.Call
Layer: Rpc
Purpose: One call from both ends. The server's side and the client's side are cut where they wait
  for bytes. Whatever bytes a server sends, the client hands out a response only from a reply to
  this very call; the server calls a service only for a method it has registered; a call of an
  unknown method is refused, if its name leaves room for that, but its body stays on the stream,
  where it is taken for the next header.
Imports: Q3df.Rpc.Registry
Trusted boundary: human-reviewed transcription of ProcessOneCall of
  tools/protobuf/src/google/protobuf/rpc/rpc_server_conn.cc and of callMethod of rpc_client.cc;
  allocations do not fail
Main exports: Serving, processHeader, answerCall, processBody, processOneCall, Client, Call,
  finishCall, receiveResponse, checkMothdValid, Client.callMethod, Client.CallMethod,
  Client.callMethods, callMethod_ok, callMethods_connected, processHeader_body,
  processHeader_of_known, next_header_of_unknown, processBody_of_burst
Open obligations: none
-/
import Q3df.Rpc.Registry

namespace Q3df.Rpc

variable {σ μ : Type}

/-!
### The server's side

A call is read in two halves, the header and the body, with the lookup of the
method in between.
-/

/-- Where `ProcessOneCall` stands: at the header of a call, or at the body of
one whose method it knows. -/
inductive Serving (σ μ : Type) where
  | header
  | body (header : RequestHeader) (service : Service σ μ) (method : MethodDescriptor)

/-- The error text for a method that is not there. -/
def RequestHeader.refusal (header : RequestHeader) : StdString :=
  ascii "Can't find ServiceMethod: " ++ header.method

/-- `SendResponse` with a null pointer, for a method that is not there. -/
def refuse (snappy : Snappy) (c : Conn) (header : RequestHeader) : Except Halt (Error × Conn) :=
  send "SendResponse" snappy c header.idValue header.refusal (some [])

/-- `ProcessOneCall` up to the body: what it returns if it returns here. What
`SendResponse` reports is not looked at. -/
def processHeader (snappy : Snappy) (server : Server σ μ) (c : Conn) :
    Except Halt ((Error ⊕ Serving σ μ) × Conn) := do
  let (header, c) ← recvRequestHeader c
  match header with
  | .error err => return (.inl err, c)
  | .ok header =>
      match server.findMethodDescriptor header.method with
      | none => do
          let (_, c) ← refuse snappy c header
          return (.inl .nil, c)
      | some method =>
          match server.findService header.method with
          | none => do
              let (_, c) ← refuse snappy c header
              return (.inl .nil, c)
          | some service => return (.inr (.body header service method), c)

/-- `ProcessOneCall` from the call of the service on. -/
def answerCall (snappy : Snappy) (header : RequestHeader) (service : Service σ μ)
    (method : MethodDescriptor)
    (request : μ) (c : Conn) (shared : σ) : Except Halt (Error × Conn × σ) := do
  let (rv, response, shared) := service.callMethod method request shared
  let (err, c) ← sendResponse snappy (service.responsePrototype method) c header.idValue
      rv.text (some response)
  return (err, c, shared)

/-- `ProcessOneCall` from the body on. -/
def processBody (snappy : Snappy) (header : RequestHeader) (service : Service σ μ)
    (method : MethodDescriptor)
    (c : Conn) (shared : σ) : Except Halt (Error × Conn × σ) := do
  let (request, c) ← recvRequestBody snappy (service.requestPrototype method) header c
  match request with
  | .error err => return (err, c, shared)
  | .ok request => answerCall snappy header service method request c shared

/-- `ProcessOneCall`. -/
def processOneCall (snappy : Snappy) (server : Server σ μ) (c : Conn) (shared : σ) :
    Except Halt (Error × Conn × σ) := do
  let (reached, c) ← processHeader snappy server c
  match reached with
  | .inl err => return (err, c, shared)
  | .inr .header => return (.nil, c, shared)
  | .inr (.body header service method) => processBody snappy header service method c shared

/-!
### The client's side

`CallMethod` dials if its connection is not valid, sends the request under the
next sequence number and waits for the response. It never gives a connection up.
-/

/-- `Client`. The connection is `none` while it is not valid. -/
structure Client where
  conn : Option Conn
  host : StdString
  port : Int
  seq : BitVec 64

/-- What `callMethod` is asked for, with the types of the two messages. -/
structure Call (μ : Type) where
  requestType : MessageType μ
  responseType : MessageType μ
  method : StdString
  request : μ

/-- The end of `callMethod`, behind the body. -/
def finishCall (id : BitVec 64) (header : ResponseHeader) (response : Except Error μ) : Except Error μ :=
  match response with
  | .error err => .error err
  | .ok response =>
      if header.idValue = id then
        if header.error = [] then .ok response else .error { text := header.error }
      else .error { text := ascii "Client::CallMethod: unexpected call id." }

/-- `callMethod` behind the request. -/
def receiveResponse (snappy : Snappy) (responseType : MessageType μ) (id : BitVec 64) (c : Conn) :
    Except Halt (Except Error μ × Conn) := do
  let (header, c) ← recvResponseHeader c
  match header with
  | .error err => return (.error err, c)
  | .ok header => do
      let (response, c) ← recvResponseBody snappy responseType header c
      return (finishCall id header response, c)

/-- `callMethod`, with what `DialTCP` would give (`none` for false). -/
def Client.callMethod (snappy : Snappy) (requestType responseType : MessageType μ) (client : Client)
    (dial : Option Conn) (method : StdString) (request : μ) : Except Halt (Except Error μ × Client) :=
  match client.conn <|> dial with
  | none =>
      .ok (.error { text := ascii "Client: DialTCP fail, " ++ (ascii "host: " ++ client.host ++ ascii ":" ++
        ascii (toString client.port)) }, client)
  | some c => do
      let id := client.seq
      let (err, c) ← sendRequest snappy requestType c id method (some request)
      if err.isNil then
        let (response, c) ← receiveResponse snappy responseType id c
        return (response, { client with conn := some c, seq := client.seq + 1 })
      else return (.error err, { client with conn := some c, seq := client.seq + 1 })

/-- `checkMothdValid`. -/
def checkMothdValid (method : StdString) (request : Option μ) (hasResponse : Bool) : Bool :=
  !method.isEmpty && request.isSome && hasResponse

/-- `CallMethod`, with the method's name. -/
def Client.CallMethod (snappy : Snappy) (requestType responseType : MessageType μ) (client : Client)
    (dial : Option Conn) (method : StdString) (request : Option μ) (hasResponse : Bool) :
    Except Halt (Except Error μ × Client) :=
  match request with
  | some message =>
      if checkMothdValid method request hasResponse then
        client.callMethod snappy requestType responseType dial method message
      else .ok (.error { text := ascii "Client: Invalid method, method: " ++ method }, client)
  | none => .ok (.error { text := ascii "Client: Invalid method, method: " ++ method }, client)

variable {snappy : Snappy} {server : Server σ μ} {c c' : Conn} {shared : σ} {rest : List Byte}

/-!
### What the client hands out

Whatever bytes a server sends, a response is handed out only if it answers the
request that was made.
-/

/-- A response is handed out only from a reply that carries the id of this call
and no error, whose body came in one frame of the checksum and the length the
header announces. -/
theorem receiveResponse_ok {responseType : MessageType μ} {id : BitVec 64} {response : μ}
    (returned : receiveResponse snappy responseType id c = .ok (.ok response, c')) :
    ∃ header between compressed pb, recvResponseHeader c = .ok (.ok header, between) ∧
      header.idValue = id ∧
      header.error = [] ∧ between.recvFrame [] = .ok ((true, compressed), c') ∧
      hashCRC32 compressed = header.checksumValue ∧ snappy.uncompress compressed = some pb ∧
      pb.length = header.rawResponseLen.toNat ∧ responseType.parseFromString pb = some response := by
  rw [receiveResponse] at returned
  cases first : recvResponseHeader c with
  | error halt =>
      rw [first] at returned
      cases returned
  | ok result =>
      obtain ⟨header, between⟩ := result
      rw [first] at returned
      cases header with
      | error err => cases returned
      | ok header =>
          simp only [bind, Except.bind] at returned
          cases second : recvResponseBody snappy responseType header between with
          | error halt =>
              rw [second] at returned
              cases returned
          | ok result =>
              obtain ⟨message, after⟩ := result
              rw [second] at returned
              simp only [pure, Except.pure, Except.ok.injEq, Prod.mk.injEq] at returned
              obtain ⟨finished, same⟩ := returned
              cases message with
              | error err => cases finished
              | ok message =>
                  rw [finishCall] at finished
                  split_ifs at finished with sameId noError
                  cases finished
                  rw [same] at second
                  obtain ⟨compressed, pb, frame, hash, unpacked, length, parsed⟩ :=
                      recvBody_accepted second
                  exact ⟨header, between, compressed, pb, rfl, sameId, noError, frame, hash,
                    unpacked, length, parsed⟩

/-- `callMethod` of a client on whatever connection, with whatever a server has
sent: a response is one to this call, and every call has an id of its own until
the counter wraps. -/
theorem callMethod_ok {requestType responseType : MessageType μ} {client client' : Client}
    {dial : Option Conn}
    {method : StdString} {request response : μ}
    (returned : client.callMethod snappy requestType responseType dial method request =
      .ok (.ok response, client')) :
    client'.seq = client.seq + 1 ∧
      ∃ c sent c' header between compressed pb, (client.conn <|> dial) = some c ∧
        sendRequest snappy requestType c client.seq method (some request) = .ok (.nil, sent) ∧
        recvResponseHeader sent = .ok (.ok header, between) ∧ header.idValue = client.seq ∧
          header.error = [] ∧
        between.recvFrame [] = .ok ((true, compressed), c') ∧ client'.conn = some c' ∧
        hashCRC32 compressed = header.checksumValue ∧ snappy.uncompress compressed = some pb ∧
        responseType.parseFromString pb = some response := by
  rw [Client.callMethod] at returned
  cases reached : client.conn <|> dial with
  | none =>
      rw [reached] at returned
      cases returned
  | some c =>
      rw [reached] at returned
      simp only [] at returned
      cases first : sendRequest snappy requestType c client.seq method (some request) with
      | error halt =>
          rw [first] at returned
          cases returned
      | ok result =>
          obtain ⟨err, sent⟩ := result
          rw [first] at returned
          simp only [bind, Except.bind] at returned
          split_ifs at returned with isNil
          · cases second : receiveResponse snappy responseType client.seq sent with
            | error halt =>
                rw [second] at returned
                cases returned
            | ok result =>
                obtain ⟨answer, after⟩ := result
                rw [second] at returned
                cases returned
                obtain ⟨header, between, compressed, pb, one, sameId, noError, frame, hash,
                    unpacked, _, parsed⟩ :=
                  receiveResponse_ok second
                have success : err = .nil := by
                  obtain ⟨text⟩ := err
                  exact congrArg Error.mk (List.isEmpty_iff.mp isNil)
                rw [success] at first
                exact ⟨rfl, c, sent, after, header, between, compressed, pb, rfl, first,
                  one, sameId, noError,
                  frame, rfl, hash, unpacked, parsed⟩
          · cases returned

/-- What a peer has sent so far, over a connection that is open. -/
def Conn.having (incoming : List Byte) : Conn :=
  { incoming := incoming, peerClosed := false, sent := [], accepts := none }

/-- A client to which the answers to its first two calls of the echo server have
been sent. -/
def echoClient : Client :=
  { conn := some (.having (messageBytes plainSnappy 0 [] [7#8] ++ messageBytes plainSnappy 1 [] [9#8]))
    host := ascii "localhost"
    port := 1
    seq := 0 }

theorem echoClient_answered :
    (((echoClient.callMethod plainSnappy plainType plainType none (ascii "echo.say") [7#8]).toOption.bind
      fun result => result.1.toOption) = some [7#8]) := by
  decide +kernel

/-- The first of the two calls. -/
theorem callMethod_ok_echo : ∃ client',
    echoClient.callMethod plainSnappy plainType plainType none (ascii "echo.say") [7#8] =
      .ok (.ok [7#8], client') ∧ client'.seq = 1 ∧
      ∃ c sent c' header between compressed pb, (echoClient.conn <|> none) = some c ∧
        sendRequest plainSnappy plainType c 0 (ascii "echo.say") (some [7#8]) = .ok (.nil, sent) ∧
        recvResponseHeader sent = .ok (.ok header, between) ∧ header.idValue = 0 ∧ header.error = [] ∧
        between.recvFrame [] = .ok ((true, compressed), c') ∧ client'.conn = some c' ∧
        hashCRC32 compressed = header.checksumValue ∧ plainSnappy.uncompress compressed = some pb ∧
        plainType.parseFromString pb = some [7#8] := by
  have answered := echoClient_answered
  cases called : echoClient.callMethod plainSnappy plainType plainType none (ascii "echo.say") [7#8] with
  | error halt =>
      rw [called] at answered
      cases answered
  | ok result =>
      obtain ⟨response, client'⟩ := result
      rw [called] at answered
      cases response with
      | error err => cases answered
      | ok response =>
          cases answered
          exact ⟨client', rfl, callMethod_ok called⟩

def echoCall : Call StdString :=
  { requestType := plainType, responseType := plainType, method := ascii "echo.say", request := [7#8] }

/-- Calls one after the other, each with what `DialTCP` would give, and what
each of them returned. -/
def Client.callMethods (snappy : Snappy) :
    Client → List (Call μ × Option Conn) → Except Halt (List (Except Error μ) × Client)
  | client, [] => .ok ([], client)
  | client, (call, dial) :: calls => do
      let (result, client) ← client.callMethod snappy call.requestType call.responseType dial
          call.method call.request
      let (results, client) ← client.callMethods snappy calls
      return (result :: results, client)

/-- A call over a valid connection keeps it valid, counts on, and does not depend on
what dialling would give. -/
theorem callMethod_connected {requestType responseType : MessageType μ} {client client' : Client} {c : Conn}
    (connected : client.conn = some c) {dial dial' : Option Conn} {method : StdString} {request : μ}
    {result : Except Error μ}
    (returned : client.callMethod snappy requestType responseType dial method request =
      .ok (result, client')) :
    client'.conn.isSome ∧ client'.seq = client.seq + 1 ∧
      client.callMethod snappy requestType responseType dial' method request = .ok (result, client') := by
  have shape : ∃ after, client' = { client with conn := some after, seq := client.seq + 1 } := by
    rw [Client.callMethod, connected] at returned
    simp only [Option.orElse_eq_orElse, Option.orElse_eq_or, Option.some_or] at returned
    cases first : sendRequest snappy requestType c client.seq method (some request) with
    | error halt =>
        rw [first] at returned
        cases returned
    | ok sent =>
        rw [first] at returned
        simp only [bind, Except.bind] at returned
        split_ifs at returned
        · cases second : receiveResponse snappy responseType client.seq sent.2 with
          | error halt =>
              rw [second] at returned
              cases returned
          | ok answer =>
              rw [second] at returned
              cases returned
              exact ⟨_, rfl⟩
        · cases returned
          exact ⟨_, rfl⟩
  obtain ⟨after, same⟩ := shape
  refine ⟨by rw [same]; rfl, by rw [same], ?_⟩
  rw [Client.callMethod, connected] at returned ⊢
  exact returned

/-- Once connected, a client keeps its connection whatever its calls return:
what dialling would give makes no difference any more, and every call takes the
next id. -/
theorem callMethods_connected {client client' : Client} {c : Conn} (connected : client.conn = some c)
    {calls calls' : List (Call μ × Option Conn)} (sameCalls : calls'.map Prod.fst = calls.map Prod.fst)
    {results : List (Except Error μ)} (returned : client.callMethods snappy calls = .ok (results, client')) :
    client'.conn.isSome ∧ client'.seq = client.seq + BitVec.ofNat 64 calls.length ∧
      client.callMethods snappy calls' = .ok (results, client') := by
  induction calls generalizing client c calls' results with
  | nil =>
      cases returned
      have none_ : calls' = [] := List.map_eq_nil_iff.mp sameCalls
      rw [none_, connected]
      exact ⟨rfl, by simp, rfl⟩
  | cons call calls inductionHypothesis =>
      obtain ⟨call, dial⟩ := call
      cases calls' with
      | nil => cases sameCalls
      | cons call' calls' =>
          obtain ⟨call', dial'⟩ := call'
          obtain ⟨rfl, sameOthers⟩ := List.cons.inj sameCalls
          rw [Client.callMethods] at returned
          cases first : client.callMethod snappy call'.requestType call'.responseType dial call'.method
              call'.request with
          | error halt =>
              rw [first] at returned
              cases returned
          | ok result =>
              obtain ⟨answer, between⟩ := result
              rw [first] at returned
              simp only [bind, Except.bind] at returned
              cases others : between.callMethods snappy calls with
              | error halt =>
                  rw [others] at returned
                  cases returned
              | ok rest =>
                  obtain ⟨answers, after⟩ := rest
                  rw [others] at returned
                  cases returned
                  obtain ⟨still, counted, same⟩ := @callMethod_connected _ _ _ _ _ _ _ connected
                      _ dial' _ _ _ first
                  obtain ⟨kept, present⟩ := Option.isSome_iff_exists.mp still
                  obtain ⟨atEnd, total, later⟩ := inductionHypothesis present sameOthers others
                  refine ⟨atEnd, ?_, ?_⟩
                  · rw [total, counted, List.length_cons, BitVec.add_assoc, Nat.add_comm calls.length 1,
                      BitVec.ofNat_add]
                    rfl
                  · rw [Client.callMethods]
                    simp only [same, bind, Except.bind, later, pure, Except.pure]

/-- Both calls, with and without a server that could be dialled. -/
theorem callMethods_connected_echo : ∃ results client',
    echoClient.callMethods plainSnappy [(echoCall, none), (echoCall, none)] = .ok (results, client') ∧
      client'.conn.isSome ∧ client'.seq = echoClient.seq + BitVec.ofNat 64 2 ∧
      echoClient.callMethods plainSnappy [(echoCall, some (.having [])), (echoCall, none)] =
        .ok (results, client') := by
  have answered : (echoClient.callMethods plainSnappy [(echoCall, none),
      (echoCall, none)]).toOption.isSome := by
    decide +kernel
  cases called : echoClient.callMethods plainSnappy [(echoCall, none), (echoCall, none)] with
  | error halt =>
      rw [called] at answered
      cases answered
  | ok result => exact ⟨result.1, result.2, rfl, callMethods_connected rfl rfl called⟩

/-!
### What the server does with a call

From the header on: the method that is named, what happens when there is none,
and what a damaged body leads to.
-/

/-- The second look for the service never fails: a call of a registered server
is answered with an error of the server itself, or reaches its service. -/
theorem processHeader_of_known {header : RequestHeader} {method : MethodDescriptor}
    (registered : Registered server)
    (received : recvRequestHeader c = .ok (.ok header, c'))
    (found : server.findMethodDescriptor header.method = some method) :
    ∃ service, server.findService header.method = some service ∧
      processHeader snappy server c = .ok (.inr (.body header service method), c') := by
  obtain ⟨service, there, _, _⟩ := findService_of_registered registered found
  refine ⟨service, there, ?_⟩
  rw [processHeader, received]
  simp only [bind, Except.bind, found, there, pure, Except.pure]

/-- A service is reached only through a method it has registered, under the name
that was asked for. -/
theorem processHeader_body {header : RequestHeader} {service : Service σ μ} {method : MethodDescriptor}
    (registered : Registered server)
    (reached : processHeader snappy server c = .ok (.inr (.body header service method), c')) :
    recvRequestHeader c = .ok (.ok header, c') ∧ method ∈ service.descriptor.methodDescriptors ∧
      getServiceMethodName method = camelCase header.method := by
  rw [processHeader] at reached
  cases first : recvRequestHeader c with
  | error halt =>
      rw [first] at reached
      cases reached
  | ok result =>
      obtain ⟨received, between⟩ := result
      rw [first] at reached
      cases received with
      | error err => cases reached
      | ok header' =>
          simp only [bind, Except.bind] at reached
          cases found : server.findMethodDescriptor header'.method with
          | none =>
              rw [found] at reached
              simp only [] at reached
              cases sent : refuse snappy between header' with
              | error halt =>
                  rw [sent] at reached
                  cases reached
              | ok result =>
                  rw [sent] at reached
                  cases reached
          | some method' =>
              obtain ⟨service', there, among, name⟩ := findService_of_registered registered found
              rw [found] at reached
              simp only [there] at reached
              cases reached
              exact ⟨rfl, among, name⟩

/-- The call of a client of the echo server. -/
theorem processHeader_body_echo : ∃ header service method c',
    processHeader plainSnappy echoServer (.having (messageBytes plainSnappy 0 (ascii "echo.say") [7#8])) =
      .ok (.inr (.body header service method), c') ∧
    recvRequestHeader (.having (messageBytes plainSnappy 0 (ascii "echo.say") [7#8])) =
      .ok (.ok header, c') ∧
      method ∈ service.descriptor.methodDescriptors ∧ getServiceMethodName method =
        camelCase header.method := by
  obtain ⟨wellFormed, fits⟩ := @messageHeader_fits plainSnappy (ascii "echo.say") [7#8] (by decide) 0
  have came := @recvHeader_frame (.having (messageBytes plainSnappy 0 (ascii "echo.say") [7#8])) _
    "RecvRequestHeader" _ wellFormed fits rfl
  obtain ⟨service, _, reached⟩ := @processHeader_of_known _ _ plainSnappy echoServer _ _ _ _
      registered_echoServer
    came findMethodDescriptor_echo
  exact ⟨_, service, echoMethod, _, reached, processHeader_body registered_echoServer reached⟩

/-- A call of a method that is not there is answered, whatever it is, and the
server goes on without looking at the body: that stays in front of the next
call. -/
theorem processOneCall_of_unknown {header : RequestHeader} {err : Error}
    (received : recvRequestHeader c = .ok (.ok header, c'))
    (unknown : server.findMethodDescriptor header.method = none)
    {answered : Conn} (sent : refuse snappy c' header = .ok (err, answered)) :
    processOneCall snappy server c shared = .ok (.nil, answered, shared) := by
  rw [processOneCall, processHeader, received]
  simp only [bind, Except.bind, unknown, sent, pure, Except.pure]

/-- Sending takes nothing from what has arrived. -/
theorem incoming_sendFrame (c : Conn) (data : Option StdString) :
    (c.sendFrame data).2.incoming = c.incoming := by
  have written : ∀ (c : Conn) (buf : List Byte) (len : Int), (c.write buf len).2.incoming = c.incoming := by
    intro c buf len
    rw [Conn.write]
    cases c.accepts with
    | none => rfl
    | some room =>
        simp only []
        split_ifs <;> rfl
  cases data with
  | none => exact written ..
  | some data =>
      rw [Conn.sendFrame, Conn.writeUvarint]
      simp only []
      split_ifs
      · rw [written, written]
      · exact written ..

/-- Sending takes nothing from what has arrived. -/
theorem incoming_send {function : String} {id : BitVec 64} {text : StdString}
    {pb : Option StdString} {err : Error}
    (sent : send function snappy c id text pb = .ok (err, c')) : c'.incoming = c.incoming := by
  cases pb with
  | none =>
      cases sent
      rfl
  | some pb =>
      rw [send] at sent
      cases hashed : checksumOf (snappy.compress pb) with
      | error halt =>
          rw [hashed] at sent
          cases sent
      | ok checksum =>
          rw [hashed] at sent
          simp only [Except.map, Except.ok.injEq] at sent
          split_ifs at sent
          · cases sent
            rfl
          · cases sent
            rw [incoming_sendFrame, incoming_sendFrame]
          · cases sent
            rw [incoming_sendFrame, incoming_sendFrame]
          · cases sent
            rw [incoming_sendFrame]

/-- The answer to a call takes nothing from what has arrived either. -/
theorem incoming_answerCall {header : RequestHeader} {service : Service σ μ}
    {method : MethodDescriptor} {request : μ} {shared' : σ} {err : Error}
    (answered : answerCall snappy header service method request c shared = .ok (err, c', shared')) :
    c'.incoming = c.incoming := by
  simp only [answerCall, bind, Except.bind] at answered
  split at answered
  · cases answered
  · rename_i response
    cases answered
    exact incoming_send response

/-- The refusal of a method repeats its name behind a fixed text. -/
theorem length_refusal (header : RequestHeader) : header.refusal.length = 26 + header.method.length := by
  rw [RequestHeader.refusal, List.length_append]
  rfl

/-- On a connection whose `send` reports no error, the refusal goes out if the
method has a name of up to 966 bytes, and does not if it has 988 or more: it
does not fit the header then. -/
theorem refuse_sends (header : RequestHeader) (healthy : c.accepts = none)
    (short : (snappy.compress []).length < 2147483648) :
    ∃ err answered, refuse snappy c header = .ok (err, answered) ∧
      (header.method.length ≤ 966 →
        answered.sent = c.sent ++ messageBytes snappy header.idValue header.refusal []) ∧
      (988 ≤ header.method.length → answered.sent = c.sent) := by
  have length := length_refusal header
  rw [refuse, send_eq healthy short]
  by_cases large : maxHeaderLen < (messageHeader header.idValue header.refusal [] (snappy.compress [])
      (hashCRC32 (snappy.compress []))).serializeToString.length
  · rw [if_pos large]
    refine ⟨_, _, rfl, ?_, fun _ => rfl⟩
    intro fits
    exact absurd large (Nat.not_lt.mpr (length_messageHeader_le (by omega)))
  · rw [if_neg large]
    refine ⟨_, _, rfl, fun _ => rfl, ?_⟩
    intro long
    exact absurd (lt_length_messageHeader (by omega)) large

/-- A call of an unknown method is refused, as far as its name leaves room for
the refusal, and what the server takes for the header of the next call is the
body of that call. -/
theorem next_header_of_unknown {header : RequestHeader} {body : StdString}
    (received : recvRequestHeader c = .ok (.ok header, c'))
    (unknown : server.findMethodDescriptor header.method = none)
    (small : body.length < 2147483648) (follows : c'.incoming = frame body ++ rest)
    (healthy : c'.accepts = none) (short : (snappy.compress []).length < 2147483648) :
    ∃ answered, processOneCall snappy server c shared = .ok (.nil, answered, shared) ∧
      (header.method.length ≤ 966 →
        answered.sent = c'.sent ++ messageBytes snappy header.idValue header.refusal []) ∧
      (988 ≤ header.method.length → answered.sent = c'.sent) ∧
      recvRequestHeader answered =
        .ok (acceptHeader "RecvRequestHeader" true body, { answered with incoming := rest }) := by
  obtain ⟨err, answered, sent, fits, tooLong⟩ := @refuse_sends snappy c' header healthy short
  refine ⟨answered, processOneCall_of_unknown received unknown sent, fits, tooLong, ?_⟩
  have left : answered.incoming = frame body ++ rest := by
    rw [incoming_send sent]
    exact follows
  rw [recvRequestHeader, recvHeader, recvFrame_frame small left]
  rfl

/-- The body of a call of an unknown method that is itself the header of a call:
the server takes it for one. -/
theorem next_header_of_unknown_smuggled : ∃ answered,
    processOneCall plainSnappy echoServer (.having (messageBytes plainSnappy 0 (ascii "echo.sing")
        (messageHeader 7 (ascii "echo.say") [9#8] [9#8] (hashCRC32 [9#8])).serializeToString ++
          frame [9#8])) 0 =
      .ok (.nil, answered, 0) ∧
    answered.sent = messageBytes plainSnappy 0 (ascii "Can't find ServiceMethod: echo.sing") [] ∧
    recvRequestHeader answered = .ok (.ok (messageHeader 7 (ascii "echo.say") [9#8] [9#8] (hashCRC32 [9#8])),
      { answered with incoming := frame [9#8] }) := by
  obtain ⟨wellFormed, fits⟩ := @messageHeader_fits plainSnappy (ascii "echo.sing")
    (messageHeader 7 (ascii "echo.say") [9#8] [9#8] (hashCRC32 [9#8])).serializeToString (by decide) 0
  obtain ⟨innerWellFormed, innerFits⟩ := @messageHeader_fits plainSnappy (ascii "echo.say")
      [9#8] (by decide) 7
  have came := @recvHeader_frame (.having (messageBytes plainSnappy 0 (ascii "echo.sing")
      (messageHeader 7 (ascii "echo.say") [9#8] [9#8] (hashCRC32 [9#8])).serializeToString ++ frame [9#8])) _
    "RecvRequestHeader" _ wellFormed fits (List.append_assoc ..)
  have accepted := @acceptHeader_serialize "RecvRequestHeader" _ innerWellFormed innerFits
  have small := Nat.lt_of_le_of_lt innerFits (show maxHeaderLen < 2147483648 by decide)
  obtain ⟨answered, served, answers, -, next⟩ := @next_header_of_unknown _ _ plainSnappy echoServer _ _ 0
    (frame [9#8]) _ _ came findMethodDescriptor_sing small rfl rfl (by decide)
  rw [accepted] at next
  exact ⟨answered, served, answers (by decide), next⟩

/-- A body with a burst of wrong bits ends the connection's thread with an
error; no service is called. -/
theorem processBody_of_burst {header : RequestHeader} {service : Service σ μ} {method : MethodDescriptor}
    {body body' : StdString} {front burst burst' after : List Bool}
    (announced : header.checksum = some (hashCRC32 body)) (small : body'.length < 2147483648)
    (bits : bitsOf body = front ++ burst ++ after) (bits' : bitsOf body' = front ++ burst' ++ after)
    (sameLength : burst.length = burst'.length) (short : burst.length ≤ 32) (differ : burst ≠ burst')
    (arrived : c.incoming = frame body' ++ rest) :
    processBody snappy header service method c shared =
      .ok (failure "RecvRequestBody" "Unexpected checksum.", { c with incoming := rest }, shared) := by
  rw [processBody, recvRequestBody, recvBody_of_burst announced small bits bits' sameLength
    short differ arrived]
  rfl

/-- A request one bit of which has changed on its way to the echo server. -/
theorem processBody_of_burst_echo :
    processBody plainSnappy (messageHeader 0 (ascii "echo.say") [7#8] [7#8] (hashCRC32 [7#8]))
      echoService echoMethod
        (.having (frame [5#8])) 0 =
      .ok (failure "RecvRequestBody" "Unexpected checksum.", .having [], 0) :=
  @processBody_of_burst _ _ plainSnappy (.having (frame [5#8])) 0 [] _ echoService echoMethod [7#8]
    [5#8] [true]
    [true] [false] [true, false, false, false, false, false] rfl (by decide) (by decide) (by decide) rfl
    (by decide) (by decide) rfl

end Q3df.Rpc
