/-
Module: Q3df.Client.ProxyWorld
Layer: Client
Purpose: What the plugins act on: the users, the engine's side of the game interface, the requests whose
  callback has not run yet, and the reply lines of the user commands. The messages of the API are the
  fields the handlers write and read. History fields record who a request, a line or a server command is
  for, which the code itself does not keep.
Imports: Mathlib.Logic.Function.Basic, Q3df.Client.Q3User
Trusted boundary: human-reviewed transcription of tools/q3df_api/q3df_api.proto; the server fills the
  identifier of a response from the request, as server/Q3dfApiImpl.cc does
Main exports: ApiRequest, ApiItem, CallOutcome, ServerCommand, ProxyWorld, ProxyWorld.submit,
  ProxyWorld.sendServerCommand
Open obligations: none
-/
import Mathlib.Logic.Function.Basic
import Q3df.Client.Q3User

namespace Q3df.Client

/-!
### Messages of the API

The fields of the protobuf messages that the plugins read or write. Fields
nobody reads are left out.
-/

structure ClientInfoRequest where
  identifier : Identifier
  userId : Int
  userinfostring : CString
deriving Repr, DecidableEq

structure LoginRequest where
  identifier : Identifier
  q3dfkey : CString
deriving Repr, DecidableEq

structure LoginResponse where
  identifier : Identifier
  userId : Int
deriving Repr, DecidableEq

structure ClientCommandRequest where
  identifier : Identifier
  command : CString
  args : List CString
deriving Repr, DecidableEq

structure ClientCommandResponse where
  identifier : Identifier
  messageToPrint : CString
deriving Repr, DecidableEq

/-- The calls the two plugins make. -/
inductive ApiRequest where
  | clientConnected (request : ClientInfoRequest)
  | clientDisconnected (request : ClientInfoRequest)
  | login (request : LoginRequest)
  | clientCommand (request : ClientCommandRequest)
deriving Repr, DecidableEq

/-- The text of an `rpc::Error`; the empty text is `Error::Nil()`. -/
abbrev ErrorText := { text : CString // text ≠ [] }

/-- What the server put into the response, of the fields the callbacks read. -/
structure ServerReply where
  userId : Int
  messageToPrint : CString
deriving Repr, DecidableEq

/-- How a call ended: with a response, with a response and the server's error
text in the response header, or with an error of the transport, which leaves the
response object as it was constructed. -/
inductive CallOutcome where
  | succeeded (reply : ServerReply)
  | rejected (error : ErrorText)
  | transport (error : ErrorText)
deriving Repr, DecidableEq

/-- The error handed to the callback. -/
def CallOutcome.error : CallOutcome → CString
  | .succeeded _ => []
  | .rejected error | .transport error => error.val

/-- The response object handed to the callback of a `Login`. -/
def LoginRequest.response (request : LoginRequest) : CallOutcome → LoginResponse
  | .succeeded reply => { identifier := request.identifier, userId := reply.userId }
  | .rejected _ => { identifier := request.identifier, userId := 0 }
  | .transport _ => { identifier := .unfilled, userId := 0 }

/-- The response object handed to the callback of a `ClientCommand`. -/
def ClientCommandRequest.response (request : ClientCommandRequest) :
    CallOutcome → ClientCommandResponse
  | .succeeded reply => { identifier := request.identifier, messageToPrint := reply.messageToPrint }
  | .rejected _ => { identifier := request.identifier, messageToPrint := [] }
  | .transport _ => { identifier := .unfilled, messageToPrint := [] }

/-- A queued call. `slot` and `session` are history: the player slot the call
was made for and the slot's `uniqueId` at that time. -/
structure ApiItem where
  request : ApiRequest
  slot : Slot
  session : CString
deriving Repr, DecidableEq

/-- A line of a reply in `sentTextLinesToClient`; `owner` is history: who issued
the command. -/
structure ReplyLine where
  owner : Slot
  text : CString
deriving Repr, DecidableEq

/-- What a server command is sent for. History only, except for `other`. -/
inductive CommandPurpose where
  | replyLines (lines : List ReplyLine)
  | commandError (owner : Slot) (error : CString)
  | other
deriving Repr, DecidableEq

/-- One `SendServerCommand`. -/
structure ServerCommand where
  clientNum : Int
  text : CString
  purpose : CommandPurpose
deriving Repr, DecidableEq

/-- A delivered `Login`: the id the server returned, `none` if the call failed.
History only. -/
structure LoginRecord where
  slot : Slot
  session : CString
  q3dfkey : CString
  userId : Option Int
deriving Repr, DecidableEq

/-- The users, the engine and the plugins' own fields. `userinfo`, `loginState`
(the cvars `loginstate0` to `loginstate63`), the other cvars, `argv`,
`randomUuid` (what the generator returns next), `console` and `serverCommands`
are the outside world; `pending` holds the calls whose callback has not run. -/
structure ProxyWorld where
  users : (playernum : Slot) → Q3User playernum
  userinfo : Slot → InfoString
  loginState : Slot → Int
  rsNoNewClients : Int
  rsWelcome1 : CString
  rsWelcome2 : CString
  rsWelcome3 : CString
  argv : List CString
  randomUuid : CString
  console : List CString
  serverCommands : List ServerCommand
  pending : List ApiItem
  counter : Nat
  sentTextLinesToClient : List ReplyLine
  submitted : List ApiItem
  replied : List ReplyLine
  logins : List LoginRecord

/-- What the engine has when a map starts. -/
structure EngineSetup where
  userinfo : Slot → InfoString
  loginState : Slot → Int
  rsNoNewClients : Int
  rsWelcome1 : CString
  rsWelcome2 : CString
  rsWelcome3 : CString

/-- An engine with empty strings and unset cvars. -/
def EngineSetup.blank : EngineSetup where
  userinfo := fun _ => .empty
  loginState := fun _ => 0
  rsNoNewClients := 0
  rsWelcome1 := []
  rsWelcome2 := []
  rsWelcome3 := []

/-- `va` with a single `%i`. -/
def intText (value : Int) : CString := (toString value).toList

namespace ProxyWorld

/-- After `GAME_INIT`: all slots reset, nothing asked and nothing sent. -/
def initial (engine : EngineSetup) : ProxyWorld where
  users := fun _ => .initial
  userinfo := engine.userinfo
  loginState := engine.loginState
  rsNoNewClients := engine.rsNoNewClients
  rsWelcome1 := engine.rsWelcome1
  rsWelcome2 := engine.rsWelcome2
  rsWelcome3 := engine.rsWelcome3
  argv := []
  randomUuid := []
  console := []
  serverCommands := []
  pending := []
  counter := 0
  sentTextLinesToClient := []
  submitted := []
  replied := []
  logins := []

/-- Assign the user of one slot. -/
def setUser (w : ProxyWorld) (p : Slot) (cl : Q3User p) : ProxyWorld :=
  { w with users := Function.update w.users p cl }

/-- `RS_Print` and its relatives. -/
def print (w : ProxyWorld) (text : CString) : ProxyWorld :=
  { w with console := w.console ++ [text] }

/-- `RS_Syscall->SendServerCommand`. -/
def sendServerCommand (w : ProxyWorld) (clientNum : Int) (text : CString)
    (purpose : CommandPurpose) : ProxyWorld :=
  let command : ServerCommand := { clientNum := clientNum, text := text, purpose := purpose }
  { w with serverCommands := w.serverCommands ++ [command] }

/-- `EXECUTE_API_ASYNC`, made for slot `p`. -/
def submit (w : ProxyWorld) (p : Slot) (request : ApiRequest) : ProxyWorld :=
  let item : ApiItem := { request := request, slot := p, session := (w.users p).uniqueId }
  { w with pending := w.pending ++ [item], submitted := w.submitted ++ [item] }

section Fields

variable (w : ProxyWorld) (p q : Slot) (cl : Q3User p) (text : CString) (clientNum : Int)
  (purpose : CommandPurpose) (request : ApiRequest)

@[simp] theorem users_setUser_same : (w.setUser p cl).users p = cl := by
  simp [setUser]

@[simp] theorem users_setUser_other (other : q ≠ p) : (w.setUser p cl).users q = w.users q := by
  simp [setUser, other]

@[simp] theorem pending_setUser : (w.setUser p cl).pending = w.pending := rfl
@[simp] theorem serverCommands_setUser : (w.setUser p cl).serverCommands = w.serverCommands := rfl
@[simp] theorem logins_setUser : (w.setUser p cl).logins = w.logins := rfl
@[simp] theorem loginState_setUser : (w.setUser p cl).loginState = w.loginState := rfl
@[simp] theorem lines_setUser :
    (w.setUser p cl).sentTextLinesToClient = w.sentTextLinesToClient := rfl
@[simp] theorem replied_setUser : (w.setUser p cl).replied = w.replied := rfl

@[simp] theorem users_print : (w.print text).users = w.users := rfl
@[simp] theorem pending_print : (w.print text).pending = w.pending := rfl
@[simp] theorem serverCommands_print : (w.print text).serverCommands = w.serverCommands := rfl
@[simp] theorem logins_print : (w.print text).logins = w.logins := rfl
@[simp] theorem loginState_print : (w.print text).loginState = w.loginState := rfl
@[simp] theorem lines_print : (w.print text).sentTextLinesToClient = w.sentTextLinesToClient := rfl
@[simp] theorem replied_print : (w.print text).replied = w.replied := rfl

@[simp] theorem users_sendServerCommand :
    (w.sendServerCommand clientNum text purpose).users = w.users := rfl
@[simp] theorem pending_sendServerCommand :
    (w.sendServerCommand clientNum text purpose).pending = w.pending := rfl
@[simp] theorem serverCommands_sendServerCommand :
    (w.sendServerCommand clientNum text purpose).serverCommands =
      w.serverCommands ++ [{ clientNum := clientNum, text := text, purpose := purpose }] := rfl
@[simp] theorem logins_sendServerCommand :
    (w.sendServerCommand clientNum text purpose).logins = w.logins := rfl
@[simp] theorem loginState_sendServerCommand :
    (w.sendServerCommand clientNum text purpose).loginState = w.loginState := rfl
@[simp] theorem lines_sendServerCommand :
    (w.sendServerCommand clientNum text purpose).sentTextLinesToClient =
      w.sentTextLinesToClient := rfl
@[simp] theorem replied_sendServerCommand :
    (w.sendServerCommand clientNum text purpose).replied = w.replied := rfl

@[simp] theorem users_submit : (w.submit p request).users = w.users := rfl
@[simp] theorem pending_submit :
    (w.submit p request).pending =
      w.pending ++ [{ request := request, slot := p, session := (w.users p).uniqueId }] := rfl
@[simp] theorem serverCommands_submit : (w.submit p request).serverCommands = w.serverCommands := rfl
@[simp] theorem logins_submit : (w.submit p request).logins = w.logins := rfl
@[simp] theorem loginState_submit : (w.submit p request).loginState = w.loginState := rfl
@[simp] theorem lines_submit :
    (w.submit p request).sentTextLinesToClient = w.sentTextLinesToClient := rfl
@[simp] theorem replied_submit : (w.submit p request).replied = w.replied := rfl

end Fields

end ProxyWorld

end Q3df.Client
