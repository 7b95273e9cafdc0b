/-
Module: Q3df.Server.CommandFailures
Layer: Server
Purpose: A command with every step of it that can fail, and the pool it takes its connection from.
  When `HandleCommand` returns, it returns what the dispatch without the pool returns; and exactly
  when it returns, with the connection given back.
Imports: Q3df.Server.Commands, Q3df.Server.MstimeToDftime, Q3df.Server.MysqlPool
Trusted boundary: human-reviewed transcription of server/Commands/*.cc, of
  GlobalObject::HandleCommand and of ConsoleTty::PrintError; option parsing (boost), the result of
  the query and how it ends (MySQL), the bytes a block of `malloc` has, and the text of a time stamp
  (gmtime, strftime) are parameters; the console is a terminal; nobody else uses the pool meanwhile
Main exports: RankingRow, QueryEnd, QueryEnv, CommandOutcome, PooledCommand, handlePooled,
  handlePooled_refines, SoundPool, ReturnsNormally, StepsSucceed, returnsNormally_iff
Open obligations: none
-/
import Q3df.Server.Commands
import Q3df.Server.MstimeToDftime
import Q3df.Server.MysqlPool

namespace Q3df.Server

open Q3df.Decimal
open Q3df.Printf
open Q3df.Transition

/-- A row of the result, by its columns, as `getInt`, `getInt64` and `getString`
give them. -/
structure RankingRow where
  mstime : BitVec 32
  visname : StdString
  stripVisname : StdString
  rank : BitVec 32
  recOne : BitVec 32
  defragVersion : BitVec 32
  timestamp : BitVec 64
  country : StdString
deriving Repr, DecidableEq

/-- What comes behind the last row that could be read: the end of the result, an
`sql::SQLException` with its `what()`, or any other exception. -/
inductive QueryEnd where
  | finished
  | sqlException (what : StdString)
  | otherException
deriving Repr, DecidableEq

/-- The code outside: `ParseOptions` of the two commands, which throws on
options it cannot parse; the statement on a connection, from its preparation to
its last row; the bytes there are in a block of `malloc`; and the text of a time
stamp. -/
structure QueryEnv (C : Type*) where
  parseTop : List StdString → Option TopOptions
  parseAdmin : List StdString → Option AdminOptions
  topQuery : C → Ranking → Int → List RankingRow × QueryEnd
  malloc : Int → Int
  timestr : BitVec 64 → CString

/-- What a call of `HandleCommand` leads to, and the pool it leaves; it waits
where `Get` does. -/
inductive CommandOutcome (C : Type*) where
  | returned (result : CommandResult) (pool : MysqlPool C)
  | stopped (reason : Stop) (pool : MysqlPool C)
  | waits

/-- `ConsoleTty::PrintError`: the texts handed to `AnsiColorPrint`. -/
def ConsoleTty.printError (msg : CString) (args : List Arg) : Except Fault (List CString) :=
  if msg = [] then .ok []
  else do
    let string ← sprintf formatBuffer msg args
    let text ← ConsoleTty.va "^7[^1Error^7]: %s".toList [.str string]
    return [text]

namespace TopCommand

variable {C : Type*}

/-- What is printed for a time. -/
def timeText (mstime opt : Int) : CString := (mstimeToDftime mstime opt).text.getD []

/-- The block that was allocated for a time holds its text and the terminator. -/
def TimeFits (env : QueryEnv C) (mstime opt : Int) : Prop :=
  ((timeText mstime opt).length + 1 : Int) ≤ env.malloc (mstimeToDftime mstime opt).size

instance (env : QueryEnv C) (mstime opt : Int) : Decidable (TimeFits env mstime opt) :=
  inferInstanceAs (Decidable ((_ : Int) ≤ _))

/-- `MstimeToDftime`, with what it prints to its block. -/
def printTime (env : QueryEnv C) (mstime opt : Int) : Except Fault CString :=
  if TimeFits env mstime opt then .ok (timeText mstime opt) else .error .overflow

/-- `col_nick`: colour codes take no room on the screen. -/
def colNick (row : RankingRow) : Nat :=
  if row.stripVisname.length < row.visname.length then
    22 + (row.visname.length - row.stripVisname.length)
  else 22

def recColor (row : RankingRow) : CString :=
  if row.defragVersion.toInt < 19112 then "^7".toList else "^3".toList

/-- What the two formats of a row spell: rank, country, name, colour and time,
then the time stamp, with the difference to the record in front if there is one. -/
def rowText (row : RankingRow) (dftime diffDftime timestr : CString) : CString :=
  "^3 ".toList ++ (toString row.rank.toInt).toList.leftpad 3 ' ' ++ ". ^7".toList ++ cStr row.country ++
    (cStr row.visname).rightpad (colNick row) ' ' ++ "^3".toList ++ recColor row ++
    " ".toList ++ dftime.leftpad 9 ' ' ++
    if row.mstime = row.recOne then " ^3".toList ++ timestr.leftpad 32 ' ' ++ " ^7\n".toList
    else
      "^7  ^1".toList ++ diffDftime.leftpad 10 ' ' ++ " ^3".toList ++ timestr.leftpad 20 ' ' ++
        "^7\n".toList

/-- What `vsprintf` does with a text it has spelled. -/
def intoBuffer (text : CString) : Except Fault CString :=
  if text.length < formatBuffer then .ok text else .error .overflow

/-- One round of the loop over the result. -/
def showRow (env : QueryEnv C) (row : RankingRow) : Except Fault CString := do
  let diffDftime ← printTime env (row.mstime - row.recOne).toInt 2
  let dftime ← printTime env row.mstime.toInt 0
  intoBuffer (rowText row dftime diffDftime (env.timestr row.timestamp))

/-- `while (res->next())`. -/
def showRows (env : QueryEnv C) (output : StdString) : List RankingRow → Except Fault StdString
  | [] => .ok output
  | row :: rows => do
      let text ← showRow env row
      showRows env (output ++ text) rows

/-- The handler of `sql::SQLException`: it tells the player, and the console. -/
def reportError (what : StdString) : Except Fault StdString := do
  let message ← va "REMOTE ERROR: Q3dfApiImpl::ClientCommand::SqlError: '%s'\n".toList [.str (cStr what)]
  let _ ← ConsoleTty.printError "Q3dfApiImpl::ClientCommand::SqlError: '%s'\n".toList [.str (cStr what)]
  return message

/-- The `try` block with its handler: the output they leave, if none of it
leaves `Execute`. -/
def tryQuery (env : QueryEnv C) (con : C) (ranking : Ranking) (startat : Int) (output : StdString) :
    Except Stop StdString :=
  let queried := env.topQuery con ranking startat
  match showRows env output queried.1 with
  | .error fault => .error (.format fault)
  | .ok output =>
      match queried.2 with
      | .finished => .ok output
      | .sqlException what => (reportError what).mapError .format
      | .otherException => .error .exception

/-- The rest of `Execute`, with the ranking list selected. -/
def showPooled [DecidableEq C] (env : QueryEnv C) (pool : MysqlPool C) (options : TopOptions)
    (ranking : Ranking) (output : StdString) : CommandOutcome C :=
  match headline ranking with
  | .error fault => .stopped (.format fault) pool
  | .ok rankingsOn =>
      let output := output ++ rankingsOn ++ ruler
      if options.help then .returned { executed := true, output := output } pool
      else
        match pool.get with
        | none => .waits
        | some (con, lent) =>
            match tryQuery env con ranking options.startat output with
            | .error reason => .stopped reason lent
            | .ok output => .returned { executed := true, output := output } (lent.return_ con)

/-- `TopCommand::Execute`. -/
def executePooled {κ : Type*} [DecidableEq κ] [DecidableEq C] (env : QueryEnv C)
    (clients : ClientList κ) (pool : MysqlPool C) (args : List StdString) (contextCon : Option κ)
    (output : StdString) : CommandOutcome C :=
  match env.parseTop args with
  | none => .stopped .exception pool
  | some options =>
      match contextRanking clients contextCon with
      | .error reason => .stopped reason pool
      | .ok context => showPooled env pool options (options.optionalOptions.foldl selectItem context) output

end TopCommand

/-- The commands without the pool, where the query is on this connection and its
rows are joined to one text. -/
def QueryEnv.commandEnv {C : Type*} (env : QueryEnv C) (con : Option C) : CommandEnv where
  parseTop := env.parseTop
  parseAdmin := env.parseAdmin
  rankings ranking startat :=
    match con.map fun con => env.topQuery con ranking startat with
    | none => .ok []
    | some (_, .sqlException what) => .error what
    | some (rows, _) => .ok (rows.flatMap fun row => (TopCommand.showRow env row).toOption.getD [])

/-- `AdminCommand::Execute` asks for no connection. -/
def AdminCommand.executePooled {κ C : Type*} (env : QueryEnv C) (clients : ClientList κ)
    (pool : MysqlPool C) (args : List StdString) (contextCon : Option κ) (output : StdString) :
    CommandOutcome C :=
  match AdminCommand.execute (env.commandEnv none) clients args contextCon output with
  | .error reason => .stopped reason pool
  | .ok result => .returned result pool

/-- `CommandBase`, for a command that may ask for a connection. -/
structure PooledCommand (κ C : Type*) where
  name : StdString
  isAlsoProxymodCommand : Bool
  execute : QueryEnv C → ClientList κ → MysqlPool C → List StdString → Option κ → StdString →
    CommandOutcome C

/-- `cmdList_`. -/
def pooledCmdList (κ C : Type*) [DecidableEq κ] [DecidableEq C] : List (PooledCommand κ C) :=
  [{ name := "!admin".toList, isAlsoProxymodCommand := true, execute := AdminCommand.executePooled },
    { name := "!top".toList, isAlsoProxymodCommand := true, execute := TopCommand.executePooled }]

/-- `GlobalObject::HandleCommand`. -/
def handlePooled {κ C : Type*} (commands : List (PooledCommand κ C)) (env : QueryEnv C)
    (clients : ClientList κ) (pool : MysqlPool C) (cmd : StdString) (args : List StdString)
    (fromApi : Bool) (contextCon : Option κ) (output : StdString) : CommandOutcome C :=
  match commands.find? fun command => command.name = cmd with
  | none => .returned unknownCommand pool
  | some command =>
      if (fromApi && command.isAlsoProxymodCommand) || !fromApi then
        command.execute env clients pool args contextCon output
      else .returned unknownCommand pool

/-- A pool between two calls: its list has no connection twice, and the
semaphore counts it within the size of the pool. -/
structure SoundPool (C : Type*) where
  pool : MysqlPool C
  nodup : pool.objList.Nodup
  counted : pool.mutex = some pool.objList.length
  bounded : (pool.objList.length : Int) ≤ pool.size.toInt

/-- `HandleCommand` returns, and the pool has back what was taken from it. -/
def ReturnsNormally {κ C : Type*} [DecidableEq κ] [DecidableEq C] (env : QueryEnv C)
    (clients : ClientList κ) (pool : SoundPool C) (cmd : StdString) (args : List StdString)
    (fromApi : Bool) (contextCon : Option κ) (output : StdString) : Prop :=
  ∃ result, handlePooled (pooledCmdList κ C) env clients pool.pool cmd args fromApi contextCon output =
    .returned result pool.pool

namespace TopCommand

variable {C : Type*}

/-- The text of `headline`. -/
def headlineText (ranking : Ranking) : CString :=
  "^3  Rankings on ".toList ++ (cStr ranking.map ++ (" (^1".toList ++
    ((if ranking.physic = "1".toList then "cpm".toList else "vq3".toList) ++
      ((if ranking.mode = "-1".toList then [] else "ctf-".toList ++ ranking.mode) ++ "^3)^7\n".toList))))

/-- The longer one of the two texts about an SQL error. -/
def errorText (what : StdString) : CString :=
  "^7[^1Error^7]: ".toList ++ ("Q3dfApiImpl::ClientCommand::SqlError: '".toList ++
    (cStr what ++ "'\n".toList))

/-- A row can be shown: its times fit their blocks and its line fits the buffer. -/
def RowFits (env : QueryEnv C) (row : RankingRow) : Prop :=
  TimeFits env (row.mstime - row.recOne).toInt 2 ∧ TimeFits env row.mstime.toInt 0 ∧
    (rowText row (timeText row.mstime.toInt 0) (timeText (row.mstime - row.recOne).toInt 2)
      (env.timestr row.timestamp)).length < formatBuffer

/-- What the query gave can be shown. -/
def QueryFits (env : QueryEnv C) (queried : List RankingRow × QueryEnd) : Prop :=
  (∀ row ∈ queried.1, RowFits env row) ∧
    match queried.2 with
    | .finished => True
    | .sqlException what => (errorText what).length < formatBuffer
    | .otherException => False

/-- The list that is asked for. -/
def selectedRanking {κ : Type*} [DecidableEq κ] (clients : ClientList κ) (contextCon : Option κ)
    (options : TopOptions) : Ranking :=
  options.optionalOptions.foldl selectItem
    ((contextRanking clients contextCon).toOption.getD defaultRanking)

/-- The options parse, the server is registered, the headline fits the buffer
and, without `--help`, a connection is idle and what it gives can be shown. -/
def StepsSucceed {κ : Type*} [DecidableEq κ] (env : QueryEnv C) (clients : ClientList κ)
    (pool : MysqlPool C) (args : List StdString) (contextCon : Option κ) : Prop :=
  ∃ options, env.parseTop args = some options ∧ (∀ con, contextCon = some con → con ∈ clients) ∧
    (headlineText (selectedRanking clients contextCon options)).length < formatBuffer ∧
      (options.help = false → ∃ con, pool.objList.getLast? = some con ∧
        QueryFits env (env.topQuery con (selectedRanking clients contextCon options) options.startat))

end TopCommand

/-- What each command needs of its arguments and of the state it is called in. -/
def StepsSucceed {κ C : Type*} [DecidableEq κ] (env : QueryEnv C) (clients : ClientList κ)
    (pool : MysqlPool C) (cmd : StdString) (args : List StdString) (contextCon : Option κ) : Prop :=
  (cmd = "!admin".toList → (env.parseAdmin args).isSome) ∧
    (cmd = "!top".toList → TopCommand.StepsSucceed env clients pool args contextCon)

/-!
### The steps of `!top`

Each step with the condition under which it succeeds: the texts fit their
buffers, the times are representable, the queries return.
-/

namespace TopCommand

variable {C : Type*} {env : QueryEnv C} {row : RankingRow} {rows : List RankingRow}
  {ranking : Ranking} {what output shown : StdString} {con : C} {startat : Int}

/-- A step and the rest of the steps. -/
theorem bind_eq_ok {ε α β : Type} {step : Except ε α} {rest : α → Except ε β} {result : β} :
    step >>= rest = .ok result ↔ ∃ value, step = .ok value ∧ rest value = .ok result := by
  cases step with
  | error reason =>
      apply iff_of_false
      · rintro ⟨⟩
      · rintro ⟨value, same, -⟩
        cases same
  | ok value =>
      constructor
      · intro ended
        exact ⟨value, rfl, ended⟩
      · rintro ⟨value, same, ended⟩
        cases same
        exact ended

/-- A text goes into a buffer if there is room for its terminator. -/
theorem intoBuffer_eq_ok {spelled text : CString} :
    intoBuffer spelled = .ok text ↔ spelled.length < formatBuffer ∧ spelled = text := by
  rw [intoBuffer]
  by_cases fits : spelled.length < formatBuffer
  · rw [if_pos fits, Except.ok.injEq, and_iff_right fits]
  · rw [if_neg fits]
    apply iff_of_false
    · rintro ⟨⟩
    · intro both
      exact fits both.1

theorem format_headline {map physic mode : CString} :
    format "^3  Rankings on %s (^1%s%s^3)^7\n".toList [.str map, .str physic, .str mode] =
      .ok ("^3  Rankings on ".toList ++ (map ++ (" (^1".toList ++
        (physic ++ (mode ++ "^3)^7\n".toList))))) := by
  have letters : "^3  Rankings on %s (^1%s%s^3)^7\n".toList =
      "^3  Rankings on ".toList ++ '%' :: 's' :: (" (^1".toList ++
        '%' :: 's' :: '%' :: 's' :: "^3)^7\n".toList) := by
    decide +kernel
  refine (congrArg (fun fmt => format fmt _) letters).trans ?_
  rw [format_plain_append (by decide +kernel), format_str, format_plain_append (by decide +kernel),
    format_str, format_str, format_of_plain (by decide +kernel), map_ok, map_ok, map_ok, map_ok, map_ok]

theorem headline_eq : headline ranking = intoBuffer (headlineText ranking) := by
  unfold headline va headlineText
  exact sprintf_of_format format_headline

/-- A time is printed if it fits its own little buffer. -/
theorem printTime_eq_ok {mstime opt : Int} {text : CString} :
    printTime env mstime opt = .ok text ↔ TimeFits env mstime opt ∧ timeText mstime opt = text := by
  rw [printTime]
  by_cases fits : TimeFits env mstime opt
  · rw [if_pos fits, Except.ok.injEq, and_iff_right fits]
  · rw [if_neg fits]
    apply iff_of_false
    · rintro ⟨⟩
    · intro both
      exact fits both.1

/-- A row is shown if its time and its texts fit. -/
theorem showRow_isOk : (∃ text, showRow env row = .ok text) ↔ RowFits env row := by
  simp only [showRow, bind_eq_ok, printTime_eq_ok, intoBuffer_eq_ok]
  constructor
  · rintro ⟨text, diffDftime, ⟨diffFits, rfl⟩, dftime, ⟨timeFits, rfl⟩, lineFits, rfl⟩
    exact ⟨diffFits, timeFits, lineFits⟩
  · rintro ⟨diffFits, timeFits, lineFits⟩
    exact ⟨_, _, ⟨diffFits, rfl⟩, _, ⟨timeFits, rfl⟩, lineFits, rfl⟩

/-- The rows are shown if each of them is. -/
theorem showRows_isOk (output : StdString) :
    (∃ shown, showRows env output rows = .ok shown) ↔ ∀ row ∈ rows, RowFits env row := by
  induction rows generalizing output with
  | nil =>
      apply iff_of_true
      · exact ⟨output, rfl⟩
      · intro row impossible
        cases impossible
  | cons row rows inductionHypothesis =>
      rw [List.forall_mem_cons, ← showRow_isOk]
      constructor
      · rintro ⟨shown, shownAll⟩
        obtain ⟨text, first, rest⟩ := bind_eq_ok.mp shownAll
        refine ⟨⟨text, first⟩, ?_⟩
        exact (inductionHypothesis (output ++ text)).mp ⟨shown, rest⟩
      · rintro ⟨⟨text, first⟩, fit⟩
        obtain ⟨shown, rest⟩ := (inductionHypothesis (output ++ text)).mpr fit
        exact ⟨shown, bind_eq_ok.mpr ⟨text, first, rest⟩⟩

/-- The rows are appended one after the other. -/
theorem showRows_joined (shownAll : showRows env output rows = .ok shown) :
    shown = output ++ rows.flatMap fun row => (showRow env row).toOption.getD [] := by
  induction rows generalizing output with
  | nil =>
      cases shownAll
      exact (List.append_nil _).symm
  | cons row rows inductionHypothesis =>
      obtain ⟨text, first, rest⟩ := bind_eq_ok.mp shownAll
      rw [inductionHypothesis rest, List.flatMap_cons, first, List.append_assoc]
      rfl

theorem format_remoteError : format "REMOTE ERROR: Q3dfApiImpl::ClientCommand::SqlError: '%s'\n".toList
    [.str (cStr what)] =
      .ok ("REMOTE ERROR: Q3dfApiImpl::ClientCommand::SqlError: '".toList ++
        (cStr what ++ "'\n".toList)) := by
  have letters : "REMOTE ERROR: Q3dfApiImpl::ClientCommand::SqlError: '%s'\n".toList =
      "REMOTE ERROR: Q3dfApiImpl::ClientCommand::SqlError: '".toList ++ '%' :: 's' :: "'\n".toList := by
    decide +kernel
  exact (congrArg (fun fmt => format fmt _) letters).trans
    (format_around (by decide +kernel) (by decide +kernel))

theorem format_sqlError : format "Q3dfApiImpl::ClientCommand::SqlError: '%s'\n".toList [.str (cStr what)] =
    .ok ("Q3dfApiImpl::ClientCommand::SqlError: '".toList ++ (cStr what ++ "'\n".toList)) := by
  have letters : "Q3dfApiImpl::ClientCommand::SqlError: '%s'\n".toList =
      "Q3dfApiImpl::ClientCommand::SqlError: '".toList ++ '%' :: 's' :: "'\n".toList := by
    decide +kernel
  exact (congrArg (fun fmt => format fmt _) letters).trans
    (format_around (by decide +kernel) (by decide +kernel))

theorem format_label {text : CString} : format "^7[^1Error^7]: %s".toList [.str text] =
    .ok ("^7[^1Error^7]: ".toList ++ text) := by
  have letters : "^7[^1Error^7]: %s".toList = "^7[^1Error^7]: ".toList ++ '%' :: 's' :: [] := by
    decide +kernel
  refine (congrArg (fun fmt => format fmt _) letters).trans ?_
  rw [format_around (by decide +kernel) List.not_mem_nil, List.append_nil]

/-- The label is the last thing that is put in front, so it decides whether the
message fits. -/
theorem printError_isOk {msg : CString} {args : List Arg} {text : CString} (nonempty : msg ≠ [])
    (formatted : format msg args = .ok text) :
    (∃ texts, ConsoleTty.printError msg args = .ok texts) ↔
      ("^7[^1Error^7]: ".toList ++ text).length < formatBuffer := by
  have labelled : ConsoleTty.va "^7[^1Error^7]: %s".toList [.str text] =
      intoBuffer ("^7[^1Error^7]: ".toList ++ text) := sprintf_of_format format_label
  simp only [ConsoleTty.printError, if_neg nonempty, sprintf_of_format formatted, bind_eq_ok]
  constructor
  · rintro ⟨texts, string, shorter, label, printed, -⟩
    rw [← (intoBuffer_eq_ok.mp shorter).2, labelled] at printed
    exact (intoBuffer_eq_ok.mp printed).1
  · intro fits
    have shorter : text.length < formatBuffer := by
      rw [List.length_append] at fits
      exact Nat.lt_of_le_of_lt (Nat.le_add_left _ _) fits
    have string := intoBuffer_eq_ok.mpr ⟨shorter, rfl⟩
    have label := labelled.trans (intoBuffer_eq_ok.mpr ⟨fits, rfl⟩)
    exact ⟨_, text, string, _, label, rfl⟩

theorem length_le_of_front {front front' rest : CString} (shorter : front.length ≤ front'.length) :
    (front ++ rest).length ≤ (front' ++ rest).length := by
  rw [List.length_append, List.length_append]
  exact Nat.add_le_add_right shorter _

/-- The text for the player is the shorter one. -/
theorem length_remoteError_le :
    ("REMOTE ERROR: Q3dfApiImpl::ClientCommand::SqlError: '".toList ++ (cStr what ++ "'\n".toList)).length ≤
      (errorText what).length := by
  have shorter : "REMOTE ERROR: Q3dfApiImpl::ClientCommand::SqlError: '".toList.length ≤
      ("^7[^1Error^7]: ".toList ++ "Q3dfApiImpl::ClientCommand::SqlError: '".toList).length := by
    decide +kernel
  refine (length_le_of_front shorter).trans (Nat.le_of_eq ?_)
  exact congrArg List.length (List.append_assoc _ _ _)

/-- An error is reported if its text fits the buffer. -/
theorem reportError_isOk :
    (∃ message, reportError what = .ok message) ↔ (errorText what).length < formatBuffer := by
  have nonempty : "Q3dfApiImpl::ClientCommand::SqlError: '%s'\n".toList ≠ [] := by decide +kernel
  have printed_iff : _ ↔ (errorText what).length < formatBuffer := printError_isOk nonempty format_sqlError
  constructor
  · rintro ⟨message, reported⟩
    obtain ⟨message', told, rest⟩ := bind_eq_ok.mp reported
    obtain ⟨texts, printed, -⟩ := bind_eq_ok.mp rest
    exact printed_iff.mp ⟨texts, printed⟩
  · intro fits
    obtain ⟨texts, printed⟩ := printed_iff.mpr fits
    have told := (sprintf_of_format format_remoteError).trans
      (intoBuffer_eq_ok.mpr ⟨length_remoteError_le.trans_lt fits, rfl⟩)
    exact ⟨_, bind_eq_ok.mpr ⟨_, told, bind_eq_ok.mpr ⟨texts, printed, rfl⟩⟩⟩

theorem mapError_format_eq_ok {result : Except Fault StdString} :
    result.mapError Stop.format = .ok shown ↔ result = .ok shown := by
  cases result with
  | error fault => simp [Except.mapError]
  | ok value => simp [Except.mapError]

/-- Nothing leaves the `try` block exactly if what the query gave can be shown. -/
theorem tryQuery_isOk : (∃ shown, tryQuery env con ranking startat output = .ok shown) ↔
    QueryFits env (env.topQuery con ranking startat) := by
  rw [tryQuery, QueryFits, ← showRows_isOk output]
  generalize env.topQuery con ranking startat = queried
  obtain ⟨rows, ending⟩ := queried
  dsimp only
  cases showRows env output rows with
  | error fault =>
      apply iff_of_false
      · rintro ⟨shown, impossible⟩
        cases impossible
      · rintro ⟨⟨shown, impossible⟩, -⟩
        cases impossible
  | ok shownRows =>
      rw [and_iff_right ⟨shownRows, rfl⟩]
      cases ending with
      | finished => exact iff_of_true ⟨shownRows, rfl⟩ trivial
      | sqlException what =>
          simp only [mapError_format_eq_ok]
          exact reportError_isOk
      | otherException =>
          apply iff_of_false
          · rintro ⟨shown, impossible⟩
            cases impossible
          · exact id

/-- What the `try` block leaves is what the query without the pool would be
answered with. -/
theorem tryQuery_refines (left : tryQuery env con ranking startat output = .ok shown) :
    (∃ rows, (env.commandEnv (some con)).rankings ranking startat = .ok rows ∧ shown = output ++ rows) ∨
      ∃ what, (env.commandEnv (some con)).rankings ranking startat = .error what ∧
        va "REMOTE ERROR: Q3dfApiImpl::ClientCommand::SqlError: '%s'\n".toList [.str (cStr what)] =
          .ok shown := by
  rw [tryQuery] at left
  simp only [QueryEnv.commandEnv, Option.map_some]
  generalize env.topQuery con ranking startat = queried at left ⊢
  obtain ⟨rows, ending⟩ := queried
  dsimp only at left ⊢
  cases shownAll : showRows env output rows with
  | error fault =>
      rw [shownAll] at left
      cases left
  | ok shownRows =>
      rw [shownAll] at left
      cases ending with
      | finished =>
          cases left
          exact .inl ⟨_, rfl, showRows_joined shownAll⟩
      | sqlException what =>
          obtain ⟨message, told, rest⟩ := bind_eq_ok.mp (mapError_format_eq_ok.mp left)
          obtain ⟨texts, printed, same⟩ := bind_eq_ok.mp rest
          cases same
          exact .inr ⟨what, rfl, told⟩
      | otherException => cases left

end TopCommand

/-!
### The connection that is taken

`Get` takes the last connection of the list and `Return` puts it back where it
was, so a command that returns leaves the pool as it found it.
-/

section Pool

variable {C : Type*} [DecidableEq C]

namespace SoundPool

/-- The last connection of the list is the one that `Get` takes, and `Return`
puts it back where it was. -/
theorem get_return {con : C} (sound : SoundPool C) (last : sound.pool.objList.getLast? = some con) :
    ∃ lent, sound.pool.get = some (con, lent) ∧ lent.return_ con = sound.pool := by
  obtain ⟨⟨objList, mutex, size⟩, nodup, counted, bounded⟩ := sound
  obtain ⟨rest, rfl⟩ := List.getLast?_eq_some_iff.mp last
  dsimp only at nodup counted bounded
  rw [List.length_append, List.length_singleton] at counted bounded
  subst counted
  have unlisted : con ∉ rest := by
    intro listed
    exact (List.nodup_append.mp nodup).2.2 con listed con (List.mem_singleton_self con) rfl
  have room : rest.length < semValueMax := lt_semValueMax bounded
  refine ⟨{ objList := rest, mutex := some rest.length, size := size }, ?_, ?_⟩
  · simp [MysqlPool.get]
  · rw [return_of_notMem unlisted]
    simp [semPost, room]

/-- The pool of a daemon is sound whenever its users have called it in any order. -/
theorem exists_of_run {U : Type*} [DecidableEq U] {size : BitVec 32} {callbackInitObject : Nat → C}
    {actions : List (PoolAction U C)} {s : PoolRun U C}
    (distinct : Function.Injective callbackInitObject) (nonnegative : 0 ≤ size.toInt)
    (ran : run PoolRun.step (.initial U size callbackInitObject) actions = some s) :
    ∃ sound : SoundPool C, sound.pool = s.pool := by
  have consistent := run_invariant consistent_step (consistent_initial distinct nonnegative) ran
  obtain ⟨nodup, counted, bounded⟩ := consistent.sound
  exact ⟨⟨s.pool, nodup, counted, bounded⟩, rfl⟩

end SoundPool

namespace TopCommand

variable {env : QueryEnv C} {pool : MysqlPool C} {options : TopOptions} {ranking : Ranking}
  {output : StdString} {result : CommandResult} {after : MysqlPool C}

/-- The two ways to return: with the help behind the headline, or with what the
`try` block left and the connection given back. -/
theorem showPooled_returned_iff : showPooled env pool options ranking output = .returned result after ↔
    ∃ rankingsOn, headline ranking = .ok rankingsOn ∧
      ((options.help = true ∧ result = { executed := true, output := output ++ rankingsOn ++ ruler } ∧
          after = pool) ∨
        (options.help = false ∧ ∃ con lent shown, pool.get = some (con, lent) ∧
          tryQuery env con ranking options.startat (output ++ rankingsOn ++ ruler) = .ok shown ∧
          result = { executed := true, output := shown } ∧ after = lent.return_ con)) := by
  rw [showPooled]
  cases headline ranking with
  | error fault => simp
  | ok rankingsOn =>
      simp only [Except.ok.injEq, exists_eq_left']
      generalize output ++ rankingsOn ++ ruler = front
      cases options.help with
      | true => simp [eq_comm]
      | false =>
          cases pool.get with
          | none => simp
          | some taken =>
              obtain ⟨con, lent⟩ := taken
              cases left : tryQuery env con ranking options.startat front with
              | error reason => simp [left]
              | ok shown => simp [left, eq_comm]

/-- With a pool the ranking is shown as without one, by the connection that is
taken. -/
theorem showPooled_refines (returned : showPooled env pool options ranking output = .returned result after) :
    showRanking (env.commandEnv pool.objList.getLast?) options ranking output = .ok result := by
  obtain ⟨rankingsOn, headlined, help | query⟩ := showPooled_returned_iff.mp returned
  · obtain ⟨help, rfl, -⟩ := help
    refine bind_eq_ok.mpr ⟨rankingsOn, headlined, ?_⟩
    rw [help]
    rfl
  · obtain ⟨noHelp, con, lent, shown, took, left, rfl, -⟩ := query
    obtain ⟨value, -, split, -, -⟩ := get_eq_some took
    have last : pool.objList.getLast? = some con := by
      rw [split, List.getLast?_concat]
    refine bind_eq_ok.mpr ⟨rankingsOn, headlined, ?_⟩
    rw [noHelp, last]
    rcases tryQuery_refines left with ⟨rows, answered, rfl⟩ | ⟨what, failed, told⟩
    · simp only [answered]
      rfl
    · simp only [failed, told]
      rfl

/-- The rest of `Execute` returns with the pool as it was exactly if the
headline fits and, without `--help`, an idle connection gives what can be shown. -/
theorem showPooled_returns_iff (sound : SoundPool C) :
    (∃ result, showPooled env sound.pool options ranking output = .returned result sound.pool) ↔
      (headlineText ranking).length < formatBuffer ∧
        (options.help = false → ∃ con, sound.pool.objList.getLast? = some con ∧
          QueryFits env (env.topQuery con ranking options.startat)) := by
  simp only [showPooled_returned_iff, headline_eq, intoBuffer_eq_ok]
  constructor
  · rintro ⟨result, rankingsOn, ⟨fits, -⟩, help | query⟩
    · refine ⟨fits, ?_⟩
      intro noHelp
      rw [help.1] at noHelp
      cases noHelp
    · obtain ⟨-, con, lent, shown, took, left, -, -⟩ := query
      obtain ⟨value, -, split, -, -⟩ := get_eq_some took
      refine ⟨fits, fun _ => ⟨con, ?_, tryQuery_isOk.mp ⟨shown, left⟩⟩⟩
      rw [split, List.getLast?_concat]
  · rintro ⟨fits, queried⟩
    cases help : options.help with
    | true => exact ⟨_, _, ⟨fits, rfl⟩, .inl ⟨rfl, rfl, trivial⟩⟩
    | false =>
        obtain ⟨con, last, shows⟩ := queried help
        obtain ⟨lent, took, restored⟩ := sound.get_return last
        obtain ⟨shown, left⟩ := tryQuery_isOk.mpr shows
        exact ⟨_, _, ⟨fits, rfl⟩, .inr ⟨rfl, con, lent, shown, took, left, rfl, restored.symm⟩⟩

end TopCommand

end Pool

/-!
### The dispatch

The command by its name, with the pool in place of the answers of the database.
-/

section Dispatch

variable {κ C : Type*} [DecidableEq κ] [DecidableEq C] {env : QueryEnv C} {clients : ClientList κ}
  {pool after : MysqlPool C} {cmd output : StdString} {args : List StdString} {fromApi : Bool}
  {contextCon : Option κ} {result : CommandResult}

theorem handlePooled_admin :
    handlePooled (pooledCmdList κ C) env clients pool "!admin".toList args fromApi contextCon output =
      AdminCommand.executePooled env clients pool args contextCon output := by
  have found : (pooledCmdList κ C).find? (fun command => command.name = "!admin".toList) =
      (pooledCmdList κ C).head? :=
    List.find?_cons_of_pos (decide_eq_true rfl)
  rw [handlePooled, found]
  cases fromApi <;> rfl

theorem handlePooled_top :
    handlePooled (pooledCmdList κ C) env clients pool "!top".toList args fromApi contextCon output =
      TopCommand.executePooled env clients pool args contextCon output := by
  have notAdmin : "!admin".toList ≠ "!top".toList := by decide
  have found : (pooledCmdList κ C).find? (fun command => command.name = "!top".toList) =
      (pooledCmdList κ C).getLast? := by
    refine (List.find?_cons_of_neg ?_).trans (List.find?_cons_of_pos (decide_eq_true rfl))
    exact mt of_decide_eq_true notAdmin
  rw [handlePooled, found]
  cases fromApi <;> rfl

/-- Any other name is answered without the pool. -/
theorem handlePooled_unknown (notAdmin : cmd ≠ "!admin".toList) (notTop : cmd ≠ "!top".toList) :
    handlePooled (pooledCmdList κ C) env clients pool cmd args fromApi contextCon output =
      .returned unknownCommand pool := by
  have notFound : (pooledCmdList κ C).find? (fun command => command.name = cmd) = none := by
    refine (List.find?_cons_of_neg ?_).trans (List.find?_cons_of_neg ?_)
    · exact mt of_decide_eq_true (Ne.symm notAdmin)
    · exact mt of_decide_eq_true (Ne.symm notTop)
  rw [handlePooled, notFound]

omit [DecidableEq κ] [DecidableEq C] in
/-- With a pool `!admin` does what it does without one. -/
theorem adminCommand_refines {con : Option C}
    (returned : AdminCommand.executePooled env clients pool args contextCon output = .returned result after) :
    AdminCommand.execute (env.commandEnv con) clients args contextCon output = .ok result := by
  have same : AdminCommand.execute (env.commandEnv con) clients args contextCon output =
      AdminCommand.execute (env.commandEnv none) clients args contextCon output := rfl
  rw [AdminCommand.executePooled] at returned
  rw [same]
  cases executed : AdminCommand.execute (env.commandEnv none) clients args contextCon output with
  | error reason =>
      rw [executed] at returned
      cases returned
  | ok done =>
      rw [executed] at returned
      cases returned
      rfl

/-- With a pool `!top` does what it does without one. -/
theorem topCommand_refines
    (returned : TopCommand.executePooled env clients pool args contextCon output = .returned result after) :
    TopCommand.execute (env.commandEnv pool.objList.getLast?) clients args contextCon output =
      .ok result := by
  have parse (con : Option C) : (env.commandEnv con).parseTop args = env.parseTop args := rfl
  rw [TopCommand.executePooled] at returned
  rw [TopCommand.execute, parse]
  cases parsed : env.parseTop args with
  | none =>
      rw [parsed] at returned
      cases returned
  | some options =>
      rw [parsed] at returned
      dsimp only at returned ⊢
      cases selected : TopCommand.contextRanking clients contextCon with
      | error reason =>
          rw [selected] at returned
          cases returned
      | ok context =>
          rw [selected] at returned
          dsimp only at returned ⊢
          rw [TopCommand.showPooled_refines returned]
          rfl

/-- What is returned is what the commands without the pool return, for a query
on the connection that is taken. -/
theorem handlePooled_refines (returned : handlePooled (pooledCmdList κ C) env clients pool cmd args fromApi
      contextCon output = .returned result after) :
    handleCommand (cmdList κ) (env.commandEnv pool.objList.getLast?) clients cmd args fromApi contextCon
      output = .ok result := by
  by_cases isAdmin : cmd = "!admin".toList
  · subst isAdmin
    rw [handlePooled_admin] at returned
    rw [handleCommand_admin]
    exact adminCommand_refines returned
  · by_cases isTop : cmd = "!top".toList
    · subst isTop
      rw [handlePooled_top] at returned
      rw [handleCommand_top]
      exact topCommand_refines returned
    · rw [handlePooled_unknown isAdmin isTop] at returned
      cases returned
      exact handleCommand_unknown isAdmin isTop

omit [DecidableEq κ] [DecidableEq C] in
/-- `!admin` asks for nothing but options that parse. -/
theorem adminCommand_returns_iff :
    (∃ result, AdminCommand.executePooled env clients pool args contextCon output =
      .returned result pool) ↔ (env.parseAdmin args).isSome := by
  have parse : (env.commandEnv none).parseAdmin args = env.parseAdmin args := rfl
  rw [AdminCommand.executePooled, AdminCommand.execute, parse]
  cases env.parseAdmin args with
  | none => simp
  | some options =>
      simp only [Option.isSome_some, iff_true]
      split
      case h_1 reason stopped =>
        split at stopped
        · cases stopped
        · split at stopped
          · cases stopped
          · split_ifs at stopped
      case h_2 result returned => exact ⟨result, rfl⟩

/-- A ranking is selected exactly if the sender is registered. -/
theorem contextRanking_isOk : (∃ context, TopCommand.contextRanking clients contextCon = .ok context) ↔
    ∀ con, contextCon = some con → con ∈ clients := by
  cases contextCon with
  | none => simp [TopCommand.contextRanking]
  | some con =>
      simp only [TopCommand.contextRanking, Option.some.injEq, forall_eq', ClientList.mem_iff_getClient]
      cases clients.getClient con with
      | none => simp
      | some client => simp

/-- `!top` returns with the pool as it was exactly if all its steps succeed. -/
theorem topCommand_returns_iff (sound : SoundPool C) :
    (∃ result, TopCommand.executePooled env clients sound.pool args contextCon output =
      .returned result sound.pool) ↔
        TopCommand.StepsSucceed env clients sound.pool args contextCon := by
  rw [TopCommand.executePooled, TopCommand.StepsSucceed]
  cases env.parseTop args with
  | none => simp
  | some options =>
      simp only [Option.some.injEq, exists_eq_left', ← contextRanking_isOk, TopCommand.selectedRanking]
      cases TopCommand.contextRanking clients contextCon with
      | error reason => simp
      | ok context =>
          rw [and_iff_right ⟨context, rfl⟩]
          exact TopCommand.showPooled_returns_iff sound

/-- `HandleCommand` returns and gives back what it took exactly if the options
parse and, for `!top`, the sender is registered, the texts fit, a connection is
idle and no exception but an `sql::SQLException` is thrown. -/
theorem returnsNormally_iff (env : QueryEnv C) (clients : ClientList κ) (sound : SoundPool C)
    (cmd : StdString) (args : List StdString) (fromApi : Bool) (contextCon : Option κ)
    (output : StdString) : ReturnsNormally env clients sound cmd args fromApi contextCon output ↔
      StepsSucceed env clients sound.pool cmd args contextCon := by
  have apart : "!admin".toList ≠ "!top".toList := by decide
  rw [ReturnsNormally, StepsSucceed]
  by_cases isAdmin : cmd = "!admin".toList
  · subst isAdmin
    rw [handlePooled_admin, adminCommand_returns_iff, forall_prop_of_true rfl, forall_prop_of_false apart,
      and_true]
  · rw [forall_prop_of_false isAdmin, true_and]
    by_cases isTop : cmd = "!top".toList
    · subst isTop
      rw [handlePooled_top, topCommand_returns_iff, forall_prop_of_true rfl]
    · rw [handlePooled_unknown isAdmin isTop, forall_prop_of_false isTop, iff_true]
      exact ⟨unknownCommand, rfl⟩

end Dispatch

/-- `--startat` with its value and without one; everything else is no option. -/
def parseStartat : List StdString → Option TopOptions
  | [arg] =>
      if arg = "--startat".toList then none
      else some { help := false, startat := 0, optionalOptions := [arg] }
  | [arg, value] =>
      if arg = "--startat".toList then
        (readNumeral value).map fun n => { help := false, startat := n, optionalOptions := [] }
      else some { help := false, startat := 0, optionalOptions := [arg, value] }
  | args => some { help := false, startat := 0, optionalOptions := args }

def startatEnv : QueryEnv Nat where
  parseTop := parseStartat
  parseAdmin _ := some { help := false, command := none }
  topQuery _ _ _ := ([], .finished)
  malloc size := size
  timestr _ := []

/-- One idle connection. -/
def onePool : SoundPool Nat where
  pool := { objList := [0], mutex := some 1, size := 1#32 }
  nodup := List.nodup_singleton 0
  counted := rfl
  bounded := Int.le_refl 1

/-- An exception leaves `HandleCommand`, for a registered server as for the
console. -/
theorem unconvertible_startat_stops :
    ¬ ReturnsNormally startatEnv (ClientList.insertClient ∅ 7 1 []) onePool "!top".toList
        ["--startat".toList, "abc".toList] true (some 7) [] ∧
      ¬ ReturnsNormally startatEnv (∅ : ClientList Nat) onePool "!top".toList ["--startat".toList] false
        none [] := by
  have unconvertible : startatEnv.parseTop ["--startat".toList, "abc".toList] = none := by decide +kernel
  have missing : startatEnv.parseTop ["--startat".toList] = none := by decide +kernel
  constructor
  · rintro ⟨result, returned⟩
    rw [handlePooled_top, TopCommand.executePooled, unconvertible] at returned
    cases returned
  · rintro ⟨result, returned⟩
    rw [handlePooled_top, TopCommand.executePooled, missing] at returned
    cases returned

end Q3df.Server
