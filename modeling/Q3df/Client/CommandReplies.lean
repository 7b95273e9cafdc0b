/-
Module: Q3df.Client.CommandReplies
Layer: Client
Purpose: Where the replies to `!` commands go. Every line of a reply is queued once and printed
  once, in order, but it is printed to client 0, and so is the error text of a failed call. So
  replies reach the players who asked in exactly those runs in which the replies with something to
  print belong to player 0 and their lines fit the buffer of `va`; proved here is that in such a run
  they do, in every state reached.
Imports: Mathlib.Data.List.TakeWhile, Q3df.Client.PluginEvents, Q3df.Client.StringTokenizer,
  Q3df.Client.Utils
Trusted boundary: human-reviewed transcription of the formats of
  client/Plugins/UserCommandsPlugin.cc; `c_str()` ends at the first terminator
Main exports: printData, frameFormat, ReachesRequester, RepliesReachRequester, AnswersSlotZero,
  TextsFit, DeliversReply, replies_reach_requester
Open obligations: none
-/
import Mathlib.Data.List.TakeWhile
import Q3df.Client.PluginEvents
import Q3df.Client.StringTokenizer
import Q3df.Client.Utils

namespace Q3df.Client

open Q3df.Printf Q3df.Transition

/-- Lines as they are printed, each followed by a newline. -/
def printData (lines : List CString) : CString := lines.flatMap fun line => line ++ ['\n']

/-- What `OnGameRunFrame` prints for some lines. -/
def printedLines (lines : List ReplyLine) : CString := lines.flatMap fun line => line.text ++ ['\n']

/-- The format of a frame, which has one more newline if the queue is empty. -/
def frameFormat (queued : List ReplyLine) : CString :=
  if queued = [] then "print \"%s\n\"".toList else "print \"%s\"".toList

/-- What stands behind the lines in it. -/
def frameEnding (queued : List ReplyLine) : CString := if queued = [] then "\n\"".toList else "\"".toList

/-- The format of an error. -/
def errorFormat : CString := "print \"^1ERROR:^7 %s\n\"".toList

/-- A `std::string` as `%s` reads it. -/
def readString (s : CString) : Arg := .str (s.takeWhile fun c => c ≠ nul)

/-- The lines of a reply a server command carries. -/
def ServerCommand.lines (command : ServerCommand) : List ReplyLine :=
  match command.purpose with
  | .replyLines lines => lines
  | .commandError _ _ | .other => []

/-- The server command contains the reply lines, or the error text, it was sent
for, as `va` makes it within its buffer, and goes to the player who issued the
command they answer. -/
def ServerCommand.ReachesRequester (command : ServerCommand) : Prop :=
  match command.purpose with
  | .replyLines lines =>
      (∃ queued, Recordsystem.va (frameFormat queued) [readString (printedLines lines)]
        = .ok command.text ∧
        command.text = "print \"".toList ++ printedLines lines ++ frameEnding queued) ∧
        ∀ line ∈ lines, command.clientNum = line.owner.val
  | .commandError owner error =>
      Recordsystem.va errorFormat [readString error] = .ok command.text ∧
        command.text = "print \"^1ERROR:^7 ".toList ++ error ++ "\n\"".toList ∧
        command.clientNum = owner.val
  | .other => True

/-- Every line printed so far went to the player it is for, and the lines of the
replies are the printed ones followed by the queued ones, in the order the
replies arrived. -/
structure RepliesReachRequester (w : ProxyWorld) : Prop where
  reaches : ∀ command ∈ w.serverCommands, command.ReachesRequester
  once : w.replied = w.serverCommands.flatMap ServerCommand.lines ++ w.sentTextLinesToClient

/-- The condition on a delivered reply: the command was issued by player 0, or
there is nothing to print. -/
def AnswersSlotZero (w : ProxyWorld) : PluginEvent → Prop
  | .callback outcome =>
      match w.pending with
      | [] => True
      | item :: _ =>
          match item.request with
          | .clientCommand request =>
              item.slot = 0 ∨ (outcome.error = [] ∧
                UserCommandsPlugin.getLines (request.response outcome).messageToPrint = [])
          | .login _ | .clientConnected _ | .clientDisconnected _ => True
  | _ => True

/-- The texts an event makes `va` write, and `%s` read: a text without a
terminator in it, which leaves room for the one behind it. -/
def FitsVa (front text behind : CString) : Prop :=
  nul ∉ text ∧ (front ++ text ++ behind).length < Recordsystem.vaBuffer

instance (front text behind : CString) : Decidable (FitsVa front text behind) :=
  inferInstanceAs (Decidable (_ ∧ _))

/-- The condition on the texts: those of the frame that is about to print, and
the error of a command that is about to be printed. -/
def TextsFit (w : ProxyWorld) : PluginEvent → Prop
  | .runFrame =>
      w.counter % 4 ≠ 0 →
        FitsVa "print \"".toList (printedLines (w.sentTextLinesToClient.take 5))
          (frameEnding (w.sentTextLinesToClient.drop 5))
  | .callback outcome =>
      match w.pending with
      | [] => True
      | item :: _ =>
          match item.request with
          | .clientCommand _ =>
              outcome.error ≠ [] → FitsVa "print \"^1ERROR:^7 ".toList outcome.error "\n\"".toList
          | .login _ | .clientConnected _ | .clientDisconnected _ => True
  | _ => True

/-- Both conditions. -/
def DeliversReply (w : ProxyWorld) (event : PluginEvent) : Prop :=
  AnswersSlotZero w event ∧ TextsFit w event

/-- A text without a NUL reads back as itself. -/
theorem readString_of_clean {text : CString} (clean : nul ∉ text) : readString text = .str text := by
  rw [readString]
  apply congrArg
  rw [List.takeWhile_eq_self_iff]
  intro c inText
  apply decide_eq_true
  rintro rfl
  exact clean inText

/-- What `va` makes of a frame. -/
theorem va_frameFormat {text : CString} {queued : List ReplyLine} (clean : nul ∉ text)
    (fits : ("print \"".toList ++ text ++ frameEnding queued).length < Recordsystem.vaBuffer) :
    Recordsystem.va (frameFormat queued) [readString text] =
      .ok ("print \"".toList ++ text ++ frameEnding queued) := by
  rw [readString_of_clean clean, Recordsystem.va]
  rw [List.append_assoc] at fits ⊢
  have formatted : format (frameFormat queued) [.str text] =
      .ok ("print \"".toList ++ (text ++ frameEnding queued)) := by
    rw [frameFormat, frameEnding]
    split
    · exact @format_around "print \"".toList "\n\"".toList text (by decide) (by decide)
    · exact @format_around "print \"".toList "\"".toList text (by decide) (by decide)
  exact (sprintf_of_format formatted).trans (if_pos fits)

/-- What `va` makes of an error. -/
theorem va_errorFormat {error : CString} (fits : FitsVa "print \"^1ERROR:^7 ".toList error "\n\"".toList) :
    Recordsystem.va errorFormat [readString error] =
      .ok ("print \"^1ERROR:^7 ".toList ++ error ++ "\n\"".toList) := by
  obtain ⟨clean, short⟩ := fits
  rw [readString_of_clean clean, Recordsystem.va]
  rw [List.append_assoc] at short ⊢
  have formatted : format errorFormat [.str error] =
      .ok ("print \"^1ERROR:^7 ".toList ++ (error ++ "\n\"".toList)) :=
    @format_around "print \"^1ERROR:^7 ".toList "\n\"".toList error (by decide) (by decide)
  exact (sprintf_of_format formatted).trans (if_pos short)

/-- The invariant of the guarded runs: the queued lines are for player 0. -/
structure SlotZeroLines (w : ProxyWorld) : Prop where
  replies : RepliesReachRequester w
  owner : ∀ line ∈ w.sentTextLinesToClient, line.owner = 0

/-- No line has been sent when the game module is loaded. -/
theorem slotZeroLines_initial (engine : EngineSetup) : SlotZeroLines (.initial engine) where
  replies := { reaches := by simp [ProxyWorld.initial], once := rfl }
  owner := by simp [ProxyWorld.initial]

/-- A step that leaves the reply lines alone and sends other server commands
only. -/
theorem SlotZeroLines.of_other {w t : ProxyWorld} (inv : SlotZeroLines w)
    {sent : List ServerCommand} (commands : t.serverCommands = w.serverCommands ++ sent)
    (other : ∀ command ∈ sent, command.purpose = .other)
    (lines : t.sentTextLinesToClient = w.sentTextLinesToClient) (replied : t.replied = w.replied) :
    SlotZeroLines t where
  replies :=
    { reaches := by
        intro command inCommands
        rw [commands] at inCommands
        rcases List.mem_append.mp inCommands with before | new
        · exact inv.replies.reaches command before
        · simp [ServerCommand.ReachesRequester, other command new]
      once := by
        have noLines : sent.flatMap ServerCommand.lines = [] := by
          rw [List.flatMap_eq_nil_iff]
          intro command new
          simp [ServerCommand.lines, other command new]
        rw [replied, commands, lines, List.flatMap_append, noLines, List.append_nil]
        exact inv.replies.once }
  owner := by
    rw [lines]
    exact inv.owner

/-- Printing the first queued lines to client 0. -/
theorem SlotZeroLines.print {w t : ProxyWorld} (inv : SlotZeroLines w)
    {lines rest : List ReplyLine} (queue : w.sentTextLinesToClient = lines ++ rest)
    (fits : FitsVa "print \"".toList (printedLines lines) (frameEnding rest))
    (commands : t.serverCommands = w.serverCommands ++
      [{ clientNum := 0, text := "print \"".toList ++ printedLines lines ++ frameEnding rest
         purpose := .replyLines lines }])
    (left : t.sentTextLinesToClient = rest) (replied : t.replied = w.replied) : SlotZeroLines t where
  replies :=
    { reaches := by
        intro command inCommands
        rw [commands] at inCommands
        rcases List.mem_append.mp inCommands with before | new
        · exact inv.replies.reaches command before
        · rw [List.mem_singleton.mp new]
          refine ⟨⟨rest, va_frameFormat fits.1 fits.2, rfl⟩, fun line printed => ?_⟩
          rw [inv.owner line (by rw [queue]; exact List.mem_append_left rest printed)]
          rfl
      once := by
        rw [replied, inv.replies.once, commands, left, queue, List.flatMap_append]
        simp [ServerCommand.lines] }
  owner := by
    rw [left]
    intro line queued
    exact inv.owner line (by rw [queue]; exact List.mem_append_right lines queued)

/-- A frame prints nothing only for an empty list of lines. -/
theorem printedLines_eq_nil {lines : List ReplyLine} (nothing : ¬0 < (printedLines lines).length) :
    lines = [] := by
  cases lines with
  | nil => rfl
  | cons line rest => simp [printedLines] at nothing

/-- `OnGameRunFrame` sends the pending lines to slot 0, provided that each of
them fits the buffer of `va`. -/
theorem SlotZeroLines.runFrame {w : ProxyWorld} (inv : SlotZeroLines w) (fits : TextsFit w .runFrame) :
    SlotZeroLines (UserCommandsPlugin.onGameRunFrame w) := by
  unfold UserCommandsPlugin.onGameRunFrame
  dsimp only
  have queue : w.sentTextLinesToClient =
      w.sentTextLinesToClient.take 5 ++ w.sentTextLinesToClient.drop 5 :=
    (List.take_append_drop 5 _).symm
  split
  · rename_i printing
    split
    · rename_i last
      refine inv.print queue (fits printing) ?_ rfl rfl
      rw [frameEnding, if_pos last.2]
      rfl
    · split
      · rename_i notLast more
        refine inv.print queue (fits printing) ?_ rfl rfl
        rw [frameEnding, if_neg more.2]
        rfl
      · rename_i notLast notMore
        have noLines : w.sentTextLinesToClient.take 5 = [] := by
          apply printedLines_eq_nil
          intro some
          by_cases empty : w.sentTextLinesToClient.drop 5 = []
          · exact notLast ⟨some, empty⟩
          · exact notMore ⟨some, empty⟩
        rw [noLines, List.nil_append] at queue
        exact inv.of_other (List.append_nil _).symm (by simp) queue.symm rfl
  · exact inv.of_other (List.append_nil _).symm (by simp) rfl rfl

/-- The callbacks of the other calls neither queue nor print reply lines. -/
theorem executeCallback_notCommand {item : ApiItem}
    (notCommand : ∀ request, item.request ≠ .clientCommand request) (outcome : CallOutcome)
    (w : ProxyWorld) :
    (∃ sent, (executeCallback item outcome w).serverCommands = w.serverCommands ++ sent ∧
        ∀ command ∈ sent, command.purpose = .other) ∧
      (executeCallback item outcome w).sentTextLinesToClient = w.sentTextLinesToClient ∧
      (executeCallback item outcome w).replied = w.replied := by
  have nothing : ∃ sent, w.serverCommands = w.serverCommands ++ sent ∧
      ∀ command ∈ sent, command.purpose = .other := ⟨[], by simp, by simp⟩
  unfold executeCallback
  split
  · unfold UserManagementPlugin.loginCallback
    dsimp only
    split
    · simp only [ProxyWorld.serverCommands_setUser, ProxyWorld.serverCommands_sendServerCommand,
        List.append_assoc]
      exact ⟨⟨_, rfl, by simp⟩, rfl, rfl⟩
    · split
      · exact ⟨⟨_, rfl, by simp⟩, rfl, rfl⟩
      · exact ⟨nothing, rfl, rfl⟩
  · rename_i request isCommand
    exact absurd isCommand (notCommand request)
  · split <;> exact ⟨nothing, rfl, rfl⟩
  · split <;> exact ⟨nothing, rfl, rfl⟩

/-- A delivered reply under the guard. -/
theorem SlotZeroLines.commandFinished {w : ProxyWorld} (inv : SlotZeroLines w) (owner : Slot)
    (res : ClientCommandResponse) (error : CString)
    (guard : owner = 0 ∨ (error = [] ∧ UserCommandsPlugin.getLines res.messageToPrint = []))
    (fits : error ≠ [] → FitsVa "print \"^1ERROR:^7 ".toList error "\n\"".toList) :
    SlotZeroLines (UserCommandsPlugin.onExecClientCommandFinished owner res error w) := by
  unfold UserCommandsPlugin.onExecClientCommandFinished
  by_cases failed : error = []
  · rw [if_neg (not_not.mpr failed)]
    constructor
    · refine ⟨inv.replies.reaches, ?_⟩
      simp only
      rw [inv.replies.once, List.append_assoc]
    · intro line queued
      rcases List.mem_append.mp queued with before | new
      · exact inv.owner line before
      · rcases guard with zero | ⟨_, noLines⟩
        · obtain ⟨text, _, rfl⟩ := List.mem_map.mp new
          exact zero
        · rw [noLines] at new
          cases new
  · have zero : owner = 0 := guard.resolve_right fun nothing => failed nothing.1
    rw [if_pos failed]
    constructor
    · constructor
      · intro command inCommands
        rcases List.mem_append.mp inCommands with before | new
        · exact inv.replies.reaches command before
        · rw [List.mem_singleton.mp new]
          exact ⟨va_errorFormat (fits failed), rfl, by rw [zero]; rfl⟩
      · simp [ServerCommand.lines, inv.replies.once]
    · exact inv.owner

/-- Every event keeps the account of the lines sent, when the texts it formats
fit. -/
theorem SlotZeroLines.step {w t : ProxyWorld} {event : PluginEvent} (inv : SlotZeroLines w)
    (guard : DeliversReply w event) (stepped : w.step event = some t) : SlotZeroLines t := by
  obtain ⟨guard, fits⟩ := guard
  cases called : event.slot? with
  | some p =>
      have effect := handlerEffect_of_step called stepped
      obtain ⟨sent, commands, other⟩ := effect.serverCommands
      exact inv.of_other commands (fun command new => (other command new).2) effect.lines.1
        effect.lines.2
  | none =>
      cases event with
      | clientConnected | clientUserinfoChanged | clientBegin | clientDisconnected | clientCommand =>
          cases called
      | runFrame =>
          cases stepped
          exact inv.runFrame fits
      | callback outcome =>
          obtain ⟨item, rest, next, rfl⟩ := callback_eq_some stepped
          have popped : SlotZeroLines { w with
              pending := rest, logins := w.logins ++ loginRecord item outcome } :=
            ⟨⟨inv.replies.reaches, inv.replies.once⟩, inv.owner⟩
          by_cases isCommand : ∃ request, item.request = .clientCommand request
          · obtain ⟨request, isCommand⟩ := isCommand
            simp only [AnswersSlotZero, next, isCommand] at guard
            simp only [TextsFit, next, isCommand] at fits
            unfold ProxyWorld.runCallback executeCallback
            rw [isCommand]
            exact popped.commandFinished item.slot _ _ guard fits
          · obtain ⟨⟨sent, commands, other⟩, lines, replied⟩ :=
              executeCallback_notCommand (not_exists.mp isCommand) outcome { w with
                pending := rest, logins := w.logins ++ loginRecord item outcome }
            exact popped.of_other commands other lines replied
      | cvarsChanged =>
          cases stepped
          exact ⟨⟨inv.replies.reaches, inv.replies.once⟩, inv.owner⟩

/-- The player issues `!top`, the server answers with one line, and two frames
pass. -/
def topCommand (playernum : Slot) : List PluginEvent :=
  [.clientCommand playernum ["say".toList, "!top".toList], .callback (.succeeded ⟨0, "first".toList⟩),
    .runFrame, .runFrame]

/-- The world after it. -/
def topWorld (playernum : Slot) : ProxyWorld :=
  (run ProxyWorld.step (.initial .blank) (topCommand playernum)).getD (.initial .blank)

end Q3df.Client
