/-
Module: Q3df.Server.Q3dfApiImpl
Layer: Server
Purpose: The calls of the API as the daemon answers them: what each one reads of its request and of the
  daemon, prints on the console, changes and replies.
Imports: Q3df.Server.Commands, Q3df.Server.Q3dfEnv
Trusted boundary: human-reviewed transcription of server/Q3dfApiImpl.cc and of the messages of
  tools/q3df_api/q3df_api.proto; inet_ntoa as the four numbers with dots between; the file with the
  current client is a parameter
Main exports: Identifier, Request, Response, InAddr, DaemonEnv, GlobalObject, Q3dfApiImpl.callMethod,
  callMethod_eq_ok, AsksClient, callMethod_eq_missingClient_iff
Open obligations: none
-/
import Q3df.Server.Commands
import Q3df.Server.Q3dfEnv

namespace Q3df.Server

open Q3df.Printf

/-- `service.Identifier`. -/
structure Identifier where
  serverId : Int
  playernum : Int
  uniqueId : StdString
deriving Repr, DecidableEq

structure ServerRegisterRequest where
  serverId : Int
  serverKey : StdString
  serverInfoString : StdString
deriving Repr, DecidableEq

/-- The fields the daemon reads, with the identifier. -/
structure RecordRequest where
  identifier : Identifier
  name : StdString
  mapname : StdString
  mstime : Int
deriving Repr, DecidableEq

structure ClientInfoRequest where
  identifier : Identifier
  userId : Int
  userinfostring : StdString
deriving Repr, DecidableEq

structure ClientCommandRequest where
  identifier : Identifier
  command : StdString
  args : List StdString
deriving Repr, DecidableEq

structure LoginRequest where
  identifier : Identifier
  q3dfkey : StdString
deriving Repr, DecidableEq

/-- A call with its request message. -/
inductive Request where
  | register (request : ServerRegisterRequest)
  | clientConnected (request : ClientInfoRequest)
  | clientDisconnected (request : ClientInfoRequest)
  | clientCommand (request : ClientCommandRequest)
  | login (request : LoginRequest)
  | printf (msg : StdString)
  | saveRecord (request : RecordRequest)
  | checkForUpdates (version : StdString)
deriving Repr, DecidableEq

inductive LoginResult where
  | failed
  | passed
deriving Repr, DecidableEq

structure ClientCommandResponse where
  identifier : Identifier
  messageToPrint : Option StdString
deriving Repr, DecidableEq

structure LoginResponse where
  identifier : Identifier
  result : LoginResult
  hash : StdString
  userId : Int
deriving Repr, DecidableEq

structure UpdateResponse where
  available : Bool
  version : Option StdString
  data : Option StdString
deriving Repr, DecidableEq

inductive Response where
  | null
  | clientCommand (response : ClientCommandResponse)
  | login (response : LoginResponse)
  | update (response : UpdateResponse)
deriving Repr, DecidableEq

/-- The address of a peer. -/
structure InAddr where
  a : Fin 256
  b : Fin 256
  c : Fin 256
  d : Fin 256
deriving Repr, DecidableEq

/-- `inet_ntoa`, the text of `RemoteIpAdress`. -/
def InAddr.ntoa (addr : InAddr) : CString :=
  (toString addr.a.val).toList ++ '.' :: (toString addr.b.val).toList ++
    '.' :: (toString addr.c.val).toList ++ '.' :: (toString addr.d.val).toList

/-- The code outside and the peers' addresses. `clientFile` holds the current
client, if it can be opened. -/
structure DaemonEnv (κ : Type*) extends CommandEnv where
  remoteAddr : κ → InAddr
  clientFile : Option StdString

/-- Arguments without options, an empty database and no file to update to. -/
def DaemonEnv.plainArguments {κ : Type*} : DaemonEnv κ :=
  { parseTop := fun args => some { help := false, startat := 0, optionalOptions := args }
    parseAdmin := fun args => some { help := false, command := args.head? }
    rankings := fun _ _ => .ok []
    remoteAddr := fun _ => { a := 127, b := 0, c := 0, d := 1 }
    clientFile := none }

/-- `GlobalObject`, with the texts the console's colour printer was given by the
calls. -/
structure GlobalObject (κ : Type*) where
  settings : SettingsMap
  clients : ClientList κ
  console : List CString

namespace GlobalObject

variable {κ : Type*}

def empty : GlobalObject κ := { settings := ∅, clients := ∅, console := [] }

/-- Print on the console, if the formatters get the text through. -/
def print (global : GlobalObject κ) (texts : Except Fault (List CString)) :
    Except Stop (GlobalObject κ) :=
  match texts with
  | .error fault => .error (.format fault)
  | .ok texts => .ok { global with console := global.console ++ texts }

end GlobalObject

namespace Q3dfApiImpl

variable {κ : Type*} [DecidableEq κ] (env : DaemonEnv κ) (con : κ) (global : GlobalObject κ)

/-- The text `Printf` sends to the console. -/
def printfTexts (remote : CString) (msg : StdString) : Except Fault (List CString) := do
  let text ← va "CL(%s): %s".toList [.str remote, .str (cStr msg)]
  ConsoleTty.print text []

/-- The text `SaveRecord` sends to the console. -/
def saveRecordTexts (request : RecordRequest) : Except Fault (List CString) := do
  let text ← va "RECORD %s %s %i\n".toList
    [.str (cStr request.mapname), .str (cStr request.name), .int request.mstime]
  ConsoleTty.printInfo text []

/-- `Q3dfApiImpl::ClientCommand`. The identifier of the reply is the one of the
request. -/
def clientCommand (args : ClientCommandRequest) : Except Stop Response := do
  let result ← handleCommand (cmdList κ) env.toCommandEnv global.clients args.command args.args true
    (some con) []
  return .clientCommand
    { identifier := args.identifier
      messageToPrint := if result.executed then some (cStr result.output) else none }

/-- `Q3dfApiImpl::Login`, which lets everybody in. -/
def login (args : LoginRequest) : Response :=
  .login { identifier := args.identifier, result := .passed, hash := "TEST".toList, userId := 11 }

def clientVersionKey : StdString := "client_version".toList

/-- The reply of `Q3dfApiImpl::CheckForUpdates`. -/
def updateResponse : UpdateResponse :=
  match env.clientFile with
  | none => { available := false, version := none, data := none }
  | some file =>
      let version := (global.settings.lookup clientVersionKey).getD []
      if version ≠ [] then { available := true, version := some version, data := some file }
      else { available := false, version := none, data := none }

/-- `CallMethod`, one call on the connection `con`. `Register` takes the id of
its request and never looks at its key. -/
def callMethod : Request → Except Stop (GlobalObject κ × Response)
  | .register request => do
      let global ← global.print
        (ConsoleTty.print "SERVERINFO: %s\n".toList [.str (cStr request.serverInfoString)])
      return ({ global with
        clients := global.clients.insertClient con request.serverId request.serverInfoString }, .null)
  | .clientConnected _ => .ok (global, .null)
  | .clientDisconnected _ => .ok (global, .null)
  | .clientCommand args => (clientCommand env con global args).map fun response => (global, response)
  | .login args => .ok (global, login args)
  | .printf msg => do
      let global ← global.print (printfTexts (env.remoteAddr con).ntoa msg)
      return (global, .null)
  | .saveRecord request => do
      let global ← global.print (saveRecordTexts request)
      return (global, .null)
  | .checkForUpdates version => do
      let global ← global.print
        (ConsoleTty.print "UpdateInfo with version %s\n".toList [.str (cStr version)])
      return (global, .update (updateResponse env global))

end Q3dfApiImpl

/-!
### What a call can do

A call prints, asks the database and changes the list of clients. It fails where
its commands do, and where a client is missing.
-/

section Calls

variable {κ : Type*} [DecidableEq κ] {env : DaemonEnv κ} {con : κ} {global global' : GlobalObject κ}
  {request : Request} {response : Response}

/-- The client list after a call: only `Register` touches it. -/
def Request.clientsAfter (clients : ClientList κ) (con : κ) : Request → ClientList κ
  | .register request => clients.insertClient con request.serverId request.serverInfoString
  | _ => clients

omit [DecidableEq κ] in
/-- A call that prints and is answered has put its texts on the console. -/
theorem ok_of_print {texts : Except Fault (List CString)}
    {after : GlobalObject κ → GlobalObject κ × Response}
    (answer : (global.print texts >>= fun printed => pure (after printed)) =
      .ok (global', response)) :
    ∃ printed, after { global with console := global.console ++ printed } = (global', response) := by
  cases texts with
  | error fault => cases answer
  | ok printed => exact ⟨printed, Except.ok.inj answer⟩

omit [DecidableEq κ] in
/-- A call that only prints stops the daemon at most through a formatter. -/
theorem error_of_print_ne {texts : Except Fault (List CString)}
    {after : GlobalObject κ → GlobalObject κ × Response} :
    (global.print texts >>= fun printed => pure (after printed)) ≠ .error .missingClient := by
  cases texts with
  | error fault => rintro ⟨⟩
  | ok printed => rintro ⟨⟩

/-- An answered call leaves the settings, prints, and changes the client list if
it is `Register`. -/
theorem callMethod_eq_ok
    (answer : Q3dfApiImpl.callMethod env con global request = .ok (global', response)) :
    global'.settings = global.settings ∧
      global'.clients = request.clientsAfter global.clients con := by
  cases request with
  | register request =>
      rw [Q3dfApiImpl.callMethod] at answer
      obtain ⟨texts, printed⟩ := ok_of_print answer
      cases printed
      exact ⟨rfl, rfl⟩
  | clientConnected request =>
      cases answer
      exact ⟨rfl, rfl⟩
  | clientDisconnected request =>
      cases answer
      exact ⟨rfl, rfl⟩
  | clientCommand args =>
      rw [Q3dfApiImpl.callMethod] at answer
      cases replied : Q3dfApiImpl.clientCommand env con global args with
      | error reason =>
          rw [replied] at answer
          cases answer
      | ok reply =>
          rw [replied] at answer
          cases answer
          exact ⟨rfl, rfl⟩
  | login args =>
      cases answer
      exact ⟨rfl, rfl⟩
  | printf msg =>
      rw [Q3dfApiImpl.callMethod] at answer
      obtain ⟨texts, printed⟩ := ok_of_print answer
      cases printed
      exact ⟨rfl, rfl⟩
  | saveRecord request =>
      rw [Q3dfApiImpl.callMethod] at answer
      obtain ⟨texts, printed⟩ := ok_of_print answer
      cases printed
      exact ⟨rfl, rfl⟩
  | checkForUpdates version =>
      rw [Q3dfApiImpl.callMethod] at answer
      obtain ⟨texts, printed⟩ := ok_of_print answer
      cases printed
      exact ⟨rfl, rfl⟩

/-- The command asks the client list for the entry of its connection. -/
def AsksClient (env : DaemonEnv κ) (args : ClientCommandRequest) : Prop :=
  args.command = "!top".toList ∧ (env.parseTop args.args).isSome

omit [DecidableEq κ] in
instance (env : DaemonEnv κ) (args : ClientCommandRequest) : Decidable (AsksClient env args) :=
  inferInstanceAs (Decidable (_ ∧ _))

/-- `ClientCommand` misses the client exactly if it asks for one and the
connection has not registered. -/
theorem clientCommand_eq_missingClient_iff {args : ClientCommandRequest} :
    Q3dfApiImpl.clientCommand env con global args = .error .missingClient ↔
      AsksClient env args ∧ con ∉ global.clients := by
  have asked := @handleCommand_eq_missingClient_iff κ _ env.toCommandEnv global.clients args.command []
    args.args true (some con)
  rw [Q3dfApiImpl.clientCommand, AsksClient, and_assoc]
  simp only [Option.some.injEq, exists_eq_left'] at asked
  rw [← asked]
  cases handleCommand (cmdList κ) env.toCommandEnv global.clients args.command args.args true
    (some con) [] with
  | error reason => simp [bind, Except.bind]
  | ok result => simp [bind, Except.bind, pure, Except.pure]

/-- The calls that use a missing client. -/
theorem callMethod_eq_missingClient_iff :
    Q3dfApiImpl.callMethod env con global request = .error .missingClient ↔
      ∃ args, request = .clientCommand args ∧ AsksClient env args ∧ con ∉ global.clients := by
  cases request with
  | register request =>
      rw [Q3dfApiImpl.callMethod]
      exact iff_of_false error_of_print_ne (by rintro ⟨_, ⟨⟩, -⟩)
  | clientConnected request => exact iff_of_false (by rintro ⟨⟩) (by rintro ⟨_, ⟨⟩, -⟩)
  | clientDisconnected request => exact iff_of_false (by rintro ⟨⟩) (by rintro ⟨_, ⟨⟩, -⟩)
  | clientCommand args =>
      simp only [Request.clientCommand.injEq, exists_eq_left', ← clientCommand_eq_missingClient_iff,
        Q3dfApiImpl.callMethod]
      cases Q3dfApiImpl.clientCommand env con global args with
      | error reason => simp [Except.map]
      | ok response => simp [Except.map]
  | login args => exact iff_of_false (by rintro ⟨⟩) (by rintro ⟨_, ⟨⟩, -⟩)
  | printf msg =>
      rw [Q3dfApiImpl.callMethod]
      exact iff_of_false error_of_print_ne (by rintro ⟨_, ⟨⟩, -⟩)
  | saveRecord request =>
      rw [Q3dfApiImpl.callMethod]
      exact iff_of_false error_of_print_ne (by rintro ⟨_, ⟨⟩, -⟩)
  | checkForUpdates version =>
      rw [Q3dfApiImpl.callMethod]
      exact iff_of_false error_of_print_ne (by rintro ⟨_, ⟨⟩, -⟩)

end Calls

end Q3df.Server
