/-
Module: Q3df.Server.Commands
Layer: Server
Purpose: The commands of the daemon and their dispatch, for players through the API and for the operator
  at the console. A command takes the server it is asked from out of the client list.
Imports: Mathlib.Tactic.SplitIfs, Q3df.Server.ConsoleTty
Trusted boundary: human-reviewed transcription of server/Commands/*.cc and of
  GlobalObject::HandleCommand; option parsing (boost) and the ranking query (MySQL) are parameters, the
  latter with the text its rows append
Main exports: Stop, TopOptions, AdminOptions, Ranking, CommandEnv, Command, topCommand, adminCommand,
  cmdList, handleCommand, handleCommand_eq_missingClient_iff
Open obligations: none
-/
import Mathlib.Tactic.SplitIfs
import Q3df.Server.ConsoleTty

namespace Q3df.Server

open Q3df.Printf

/-- What ends the daemon: an exception nobody catches, the use of a missing
`ClientInfo`, or a fault of a formatter. -/
inductive Stop where
  | exception
  | missingClient
  | format (fault : Fault)
deriving Repr, DecidableEq

/-- The options of `!top`, and the arguments that are none. -/
structure TopOptions where
  help : Bool
  startat : Int
  optionalOptions : List StdString
deriving Repr, DecidableEq

/-- The options of `!admin`; `command` is the first of its values. -/
structure AdminOptions where
  help : Bool
  command : Option StdString
deriving Repr, DecidableEq

/-- The ranking list to show. -/
structure Ranking where
  map : StdString
  mode : StdString
  physic : StdString
deriving Repr, DecidableEq

/-- The code outside: `ParseOptions` of the two commands, which throws on
options it cannot parse, and the query, which gives the text of its rows or the
text of an SQL error. -/
structure CommandEnv where
  parseTop : List StdString → Option TopOptions
  parseAdmin : List StdString → Option AdminOptions
  rankings : Ranking → Int → Except StdString StdString

/-- What `Execute` and `HandleCommand` return, and the output they leave. -/
structure CommandResult where
  executed : Bool
  output : StdString
deriving Repr, DecidableEq

/-- `CommandBase`. -/
structure Command (κ : Type*) where
  name : StdString
  isAlsoProxymodCommand : Bool
  execute : CommandEnv → ClientList κ → List StdString → Option κ → StdString →
    Except Stop CommandResult

namespace TopCommand

/-- The list without a server to ask from. -/
def defaultRanking : Ranking :=
  { map := "cpmjump".toList, mode := "-1".toList, physic := "1".toList }

/-- The list of the server's own map. -/
def clientRanking {κ : Type*} (client : ClientInfo κ) : Ranking :=
  { map := cStr (client.getServerInfo "mapname".toList)
    mode := cStr (client.getServerInfo "defrag_mode".toList)
    physic := cStr (client.getServerInfo "df_promode".toList) }

/-- `GetClient` of the context is used without a test. -/
def contextRanking {κ : Type*} [DecidableEq κ] (clients : ClientList κ) :
    Option κ → Except Stop Ranking
  | none => .ok defaultRanking
  | some con =>
      match clients.getClient con with
      | none => .error .missingClient
      | some client => .ok (clientRanking client)

/-- The seven fastcaps modes of a physic. -/
def ctfItems (physic : StdString) : List StdString :=
  "1234567".toList.map fun digit => physic ++ "ctf".toList ++ [digit]

/-- One argument that is no option. -/
def selectItem (ranking : Ranking) (item : StdString) : Ranking :=
  if item = "cpm".toList then { ranking with physic := "1".toList, mode := "-1".toList }
  else if item = "vq3".toList then { ranking with physic := "0".toList, mode := "-1".toList }
  else if item ∈ ctfItems "vq3".toList then
    { ranking with physic := "0".toList, mode := (item.drop 6).take 1 }
  else if item ∈ ctfItems "cpm".toList then
    { ranking with physic := "1".toList, mode := (item.drop 6).take 1 }
  else { ranking with map := item }

def headline (ranking : Ranking) : Except Fault CString :=
  va "^3  Rankings on %s (^1%s%s^3)^7\n".toList
    [.str (cStr ranking.map),
      .str (if ranking.physic = "1".toList then "cpm".toList else "vq3".toList),
      .str (if ranking.mode = "-1".toList then [] else "ctf-".toList ++ ranking.mode)]

def ruler : StdString :=
  "^5-----------------------------------------------------------------------------^7\n".toList

/-- The rest of `Execute`, with the ranking list selected. -/
def showRanking (env : CommandEnv) (options : TopOptions) (ranking : Ranking) (output : StdString) :
    Except Fault CommandResult := do
  let rankingsOn ← headline ranking
  let output := output ++ rankingsOn ++ ruler
  if options.help then return { executed := true, output := output }
  match env.rankings ranking options.startat with
  | .ok rows => return { executed := true, output := output ++ rows }
  | .error what =>
      let message ← va "REMOTE ERROR: Q3dfApiImpl::ClientCommand::SqlError: '%s'\n".toList
        [.str (cStr what)]
      return { executed := true, output := message }

/-- `TopCommand::Execute`. -/
def execute {κ : Type*} [DecidableEq κ] (env : CommandEnv) (clients : ClientList κ)
    (args : List StdString) (contextCon : Option κ) (output : StdString) :
    Except Stop CommandResult :=
  match env.parseTop args with
  | none => .error .exception
  | some options =>
      match contextRanking clients contextCon with
      | .error reason => .error reason
      | .ok context =>
          (showRanking env options (options.optionalOptions.foldl selectItem context) output).mapError
            .format

end TopCommand

def topCommand (κ : Type*) [DecidableEq κ] : Command κ :=
  { name := "!top".toList, isAlsoProxymodCommand := true, execute := TopCommand.execute }

/-- `AdminCommand::Execute`. -/
def AdminCommand.execute {κ : Type*} (env : CommandEnv) (_clients : ClientList κ)
    (args : List StdString) (_contextCon : Option κ) (output : StdString) :
    Except Stop CommandResult :=
  match env.parseAdmin args with
  | none => .error .exception
  | some options =>
      if options.help then .ok { executed := true, output := output }
      else
        match options.command with
        | none => .ok { executed := true, output := output }
        | some cmd =>
            if cmd = "test1".toList then
              .ok { executed := true, output := output ++ "test1 command...\n".toList }
            else if cmd = "test2".toList then
              .ok { executed := true, output := output ++ "test2 command...\n".toList }
            else .ok { executed := true, output := output }

def adminCommand (κ : Type*) : Command κ :=
  { name := "!admin".toList, isAlsoProxymodCommand := true, execute := AdminCommand.execute }

/-- `cmdList_`. -/
def cmdList (κ : Type*) [DecidableEq κ] : List (Command κ) := [adminCommand κ, topCommand κ]

def unknownCommand : CommandResult := { executed := false, output := "unknown command".toList }

/-- `GlobalObject::HandleCommand`: the first command of that name decides. -/
def handleCommand {κ : Type*} (commands : List (Command κ)) (env : CommandEnv)
    (clients : ClientList κ) (cmd : StdString) (args : List StdString) (fromApi : Bool)
    (contextCon : Option κ) (output : StdString) : Except Stop CommandResult :=
  match commands.find? fun command => command.name = cmd with
  | none => .ok unknownCommand
  | some command =>
      if (fromApi && command.isAlsoProxymodCommand) || !fromApi then
        command.execute env clients args contextCon output
      else .ok unknownCommand

/-!
### The dispatch, command by command

The loop over the list of commands finds the first one with the given name.
-/

section Dispatch

variable {κ : Type*} [DecidableEq κ] {env : CommandEnv} {clients : ClientList κ}
  {cmd output : StdString} {args : List StdString} {fromApi : Bool} {contextCon : Option κ}

theorem handleCommand_admin :
    handleCommand (cmdList κ) env clients "!admin".toList args fromApi contextCon output =
      AdminCommand.execute env clients args contextCon output := by
  have found : (cmdList κ).find? (fun command => command.name = "!admin".toList) =
      some (adminCommand κ) :=
    List.find?_cons_of_pos (decide_eq_true rfl)
  rw [handleCommand, found]
  cases fromApi <;> rfl

theorem handleCommand_top :
    handleCommand (cmdList κ) env clients "!top".toList args fromApi contextCon output =
      TopCommand.execute env clients args contextCon output := by
  have notAdmin : "!admin".toList ≠ "!top".toList := by decide
  have found : (cmdList κ).find? (fun command => command.name = "!top".toList) = some (topCommand κ) := by
    refine (List.find?_cons_of_neg ?_).trans (List.find?_cons_of_pos (decide_eq_true rfl))
    exact mt of_decide_eq_true notAdmin
  rw [handleCommand, found]
  cases fromApi <;> rfl

/-- A name that no command has is answered with a fixed text. -/
theorem handleCommand_unknown (notAdmin : cmd ≠ "!admin".toList) (notTop : cmd ≠ "!top".toList) :
    handleCommand (cmdList κ) env clients cmd args fromApi contextCon output = .ok unknownCommand := by
  have notFound : (cmdList κ).find? (fun command => command.name = cmd) = none := by
    refine (List.find?_cons_of_neg ?_).trans (List.find?_cons_of_neg ?_)
    · exact mt of_decide_eq_true (Ne.symm notAdmin)
    · exact mt of_decide_eq_true (Ne.symm notTop)
  rw [handleCommand, notFound]

end Dispatch

/-!
### When a command uses a missing client

`!top` alone asks for the client of the connection it is called on, and does not
look whether there is one.
-/

section MissingClient

variable {κ : Type*} [DecidableEq κ] {env : CommandEnv} {clients : ClientList κ}
  {cmd output : StdString} {args : List StdString} {fromApi : Bool} {contextCon : Option κ}

/-- A fault of a formatter is another reason to stop. -/
theorem mapError_format_ne_missingClient {α : Type*} (result : Except Fault α) :
    result.mapError Stop.format ≠ .error .missingClient := by
  cases result with
  | error fault => simp [Except.mapError]
  | ok value => simp [Except.mapError]

/-- `!top` needs the client exactly if it is called on a connection that has not
registered. -/
theorem contextRanking_eq_missingClient_iff :
    TopCommand.contextRanking clients contextCon = .error .missingClient ↔
      ∃ con, contextCon = some con ∧ con ∉ clients := by
  cases contextCon with
  | none => simp [TopCommand.contextRanking]
  | some con =>
      simp only [TopCommand.contextRanking, Option.some.injEq, exists_eq_left',
        ClientList.mem_iff_getClient]
      cases clients.getClient con with
      | none => simp
      | some client => simp

/-- `!top` uses a missing client if its options parse and its server is not in
the list. -/
theorem topCommand_eq_missingClient_iff :
    TopCommand.execute env clients args contextCon output = .error .missingClient ↔
      (env.parseTop args).isSome ∧ ∃ con, contextCon = some con ∧ con ∉ clients := by
  rw [← contextRanking_eq_missingClient_iff, TopCommand.execute]
  cases env.parseTop args with
  | none => simp
  | some options =>
      simp only [Option.isSome_some, true_and]
      cases TopCommand.contextRanking clients contextCon with
      | error reason => simp only [Except.error.injEq]
      | ok context =>
          simp only [reduceCtorEq, iff_false]
          apply mapError_format_ne_missingClient

omit [DecidableEq κ] in
/-- `!admin` never asks for a client. -/
theorem adminCommand_ne_missingClient :
    AdminCommand.execute env clients args contextCon output ≠ .error .missingClient := by
  unfold AdminCommand.execute
  intro missing
  split at missing
  · cases missing
  · split at missing
    · cases missing
    · split at missing
      · cases missing
      · split_ifs at missing

/-- Only `!top` uses a client. -/
theorem handleCommand_eq_missingClient_iff :
    handleCommand (cmdList κ) env clients cmd args fromApi contextCon output =
        .error .missingClient ↔
      cmd = "!top".toList ∧ (env.parseTop args).isSome ∧ ∃ con, contextCon = some con ∧
        con ∉ clients := by
  rw [← @topCommand_eq_missingClient_iff κ _ env clients output args contextCon]
  by_cases isAdmin : cmd = "!admin".toList
  · subst isAdmin
    rw [handleCommand_admin]
    apply iff_of_false
    · exact adminCommand_ne_missingClient
    · rintro ⟨isTop, -⟩
      exact absurd isTop (by decide)
  · by_cases isTop : cmd = "!top".toList
    · subst isTop
      rw [handleCommand_top, and_iff_right rfl]
    · rw [handleCommand_unknown isAdmin isTop]
      apply iff_of_false
      · rintro ⟨⟩
      · intro asked
        exact isTop asked.1

end MissingClient

end Q3df.Server
