/-
Module: Q3df.Client.ReplyStream
Layer: Client
Purpose: The queue between the replies of the API server and the console of the players, over whole
  runs. Each frame prints a batch of at most five lines in one command, or nothing; the batches of
  all the frames, followed by what is still queued, are the lines of the replies in the order they
  arrived. Frames alone empty the queue.
Imports: Q3df.Library.Delimited, Q3df.Library.Printf, Q3df.Client.CommandReplies,
  Q3df.Client.UserBuffers
Trusted boundary: human-reviewed transcription of client/Recordsystem.cc (va); a reply is a C
  string, as server/Q3dfApiImpl.cc sets it
Main exports: ReplyEvent, ReplyEvent.step, frameRecord, frameRecords, LinesFit, FrameRecord.Prints,
  StreamsLines, reply_stream_faithful
Open obligations: none
-/
import Q3df.Library.Delimited
import Q3df.Library.Printf
import Q3df.Client.CommandReplies
import Q3df.Client.UserBuffers

namespace Q3df.Client

open Q3df.Delimited Q3df.Printf

/-- What happens to the plugin: the callback of a request, or a frame. -/
inductive ReplyEvent where
  | reply (owner : Slot) (identifier : Identifier) (message : CText) (error : CString)
  | frame

/-- The handlers. -/
def ReplyEvent.step (w : ProxyWorld) : ReplyEvent → ProxyWorld
  | .reply owner identifier message error =>
      UserCommandsPlugin.onExecClientCommandFinished owner
        { identifier := identifier, messageToPrint := message.val } error w
  | .frame => UserCommandsPlugin.onGameRunFrame w

/-- The world after some events. -/
def afterReplies (w : ProxyWorld) (events : List ReplyEvent) : ProxyWorld := events.foldl ReplyEvent.step w

/-- What a frame did: the commands it sent, and the queue it left. -/
structure FrameRecord where
  sent : List ServerCommand
  queued : List ReplyLine
deriving DecidableEq

/-- The record of a frame. -/
def frameRecord (w : ProxyWorld) : FrameRecord where
  sent := (UserCommandsPlugin.onGameRunFrame w).serverCommands.drop w.serverCommands.length
  queued := (UserCommandsPlugin.onGameRunFrame w).sentTextLinesToClient

/-- The records of all frames. -/
def frameRecords (w : ProxyWorld) : List ReplyEvent → List FrameRecord
  | [] => []
  | .frame :: events => frameRecord w :: frameRecords (ReplyEvent.step w .frame) events
  | .reply owner identifier message error :: events =>
      frameRecords (ReplyEvent.step w (.reply owner identifier message error)) events

/-!
### What the frames should print

The specification: the lines of the successful replies in their order, up to
five in each printing frame, with an empty line once the queue is drained.
-/

/-- The lines of a message: what is between its newlines, without an empty rest
behind the last one. -/
def messageLines (message : CString) : List CString := withoutEmptyLast (message.splitOn '\n')

/-- The lines an event has to print. An error is printed at once, and not by a
frame. -/
def ReplyEvent.lines : ReplyEvent → List CString
  | .reply _ _ message error => if error = [] then messageLines message.val else []
  | .frame => []

/-- Up to five lines in succession fit the buffer of `va`. -/
def LinesFit (lines : List CString) : Prop :=
  ∀ batch, batch <:+: lines → batch.length ≤ 5 →
    ("print \"".toList ++ printData batch ++ "\n\"".toList).length < Recordsystem.vaBuffer

/-- The frame prints these lines: none and no command, or up to five in one
command to client 0, with one more newline exactly if nothing is queued behind
them, and the text is what `va` makes of the format. -/
structure FrameRecord.Prints (record : FrameRecord) (batch : List CString) : Prop where
  length_le : batch.length ≤ 5
  silent : batch = [] → record.sent = []
  command : batch ≠ [] → ∃ text purpose, record.sent = [{ clientNum := 0, text, purpose }] ∧
    text = "print \"".toList ++ printData batch ++ (if record.queued = [] then ['\n'] else []) ++ ['"'] ∧
    Recordsystem.va (frameFormat record.queued)
      [.str ((printData batch).takeWhile fun c => c ≠ nul)] = .ok text

/-- The texts in the queue. -/
def ProxyWorld.queuedTexts (w : ProxyWorld) : List CString := w.sentTextLinesToClient.map ReplyLine.text

/-- The replies are printed as a stream of lines: each frame prints a batch, and the batches of all frames
followed by what is queued are the lines of the replies in the order they arrived. Enough frames without
replies empty the queue. -/
structure StreamsLines (w : ProxyWorld) (events : List ReplyEvent) : Prop where
  batches : ∃ batches : List (List CString),
    List.Forall₂ FrameRecord.Prints (frameRecords w events) batches ∧
      batches.flatten ++ (afterReplies w events).queuedTexts = events.flatMap ReplyEvent.lines
  drains : ∃ bound, ∀ frames ≥ bound,
    (afterReplies w (events ++ List.replicate frames .frame)).sentTextLinesToClient = []

/-!
### Lines

How a message falls into lines, and how many of these the buffer of `va` holds.
-/

/-- The plugin's loop splits at newlines. -/
theorem getLinesFrom_eq (line s : CString) :
    UserCommandsPlugin.getLinesFrom line s = splitFrom '\n' line s := by
  induction s generalizing line with
  | nil => rfl
  | cons c s inductionHypothesis =>
      rw [UserCommandsPlugin.getLinesFrom, splitFrom, inductionHypothesis, inductionHypothesis]

/-- `getline` yields the lines of the message. -/
theorem getLines_eq (message : CString) : UserCommandsPlugin.getLines message = messageLines message := by
  rw [UserCommandsPlugin.getLines, getLinesFrom_eq, splitFrom_eq_splitOn, messageLines]

/-- Nothing is in a line of the message that is not in the message. -/
theorem mem_of_mem_getLinesFrom {line s part : CString} {c : Char}
    (inLines : part ∈ UserCommandsPlugin.getLinesFrom line s) (inPart : c ∈ part) : c ∈ line ++ s := by
  induction s generalizing line with
  | nil =>
      rw [UserCommandsPlugin.getLinesFrom] at inLines
      split at inLines
      · cases inLines
      · rw [← List.mem_singleton.mp inLines, List.append_nil]
        exact inPart
  | cons d s inductionHypothesis =>
      rw [UserCommandsPlugin.getLinesFrom] at inLines
      split at inLines
      · rcases List.mem_cons.mp inLines with rfl | inRest
        · exact List.mem_append_left _ inPart
        · exact List.mem_append_right _ (List.mem_cons_of_mem d (inductionHypothesis inRest))
      · have further := inductionHypothesis inLines
        rwa [List.append_assoc, List.singleton_append] at further

/-- A line of a reply has no terminator. -/
theorem ReplyEvent.lines_clean {event : ReplyEvent} {line : CString} (inLines : line ∈ event.lines) :
    nul ∉ line := by
  cases event with
  | frame => cases inLines
  | reply owner identifier message error =>
      rw [ReplyEvent.lines] at inLines
      split at inLines
      · rw [← getLines_eq] at inLines
        intro inLine
        exact message.property (mem_of_mem_getLinesFrom inLines inLine)
      · cases inLines

section PrintData

variable {lines batch rest : List CString} {queued : List ReplyLine}

theorem nul_notMem_printData (clean : ∀ line ∈ batch, nul ∉ line) : nul ∉ printData batch := by
  intro inData
  obtain ⟨line, inBatch, inLine⟩ := List.mem_flatMap.mp inData
  rcases List.mem_append.mp inLine with inText | inNewline
  · exact clean line inBatch inText
  · exact absurd (List.mem_singleton.mp inNewline) (by decide)

/-- Lines that fit at once fit in batches. -/
theorem linesFit_of_length
    (fits : ("print \"".toList ++ printData lines ++ "\n\"".toList).length < Recordsystem.vaBuffer) :
    LinesFit lines := by
  rintro batch ⟨front, rest, rfl⟩ -
  simp only [printData, List.flatMap_append, List.length_append] at fits ⊢
  omega

theorem printData_eq_nil : printData batch = [] ↔ batch = [] := by
  rw [printData, List.flatMap_eq_nil_iff]
  constructor
  · intro nothing
    cases batch with
    | nil => rfl
    | cons line batch =>
        have noNewline := List.append_eq_nil_iff.mp (nothing line List.mem_cons_self)
        exact absurd noNewline.2 (List.cons_ne_nil _ _)
  · rintro rfl line inBatch
    cases inBatch

/-- What `va` makes of a batch that fits. -/
theorem va_frameFormat_of_fits (clean : ∀ line ∈ batch, nul ∉ line)
    (fits : ("print \"".toList ++ printData batch ++ "\n\"".toList).length < Recordsystem.vaBuffer) :
    Recordsystem.va (frameFormat queued) [.str ((printData batch).takeWhile fun c => c ≠ nul)] =
      .ok ("print \"".toList ++ printData batch ++ (if queued = [] then ['\n'] else []) ++ ['"']) := by
  have ending : frameEnding queued = (if queued = [] then ['\n'] else []) ++ ['"'] := by
    rw [frameEnding]
    split <;> rfl
  have shorter : (frameEnding queued).length ≤ "\n\"".toList.length := by
    rw [frameEnding]
    split <;> decide
  have short : ("print \"".toList ++ printData batch ++ frameEnding queued).length <
      Recordsystem.vaBuffer := by
    rw [List.length_append] at fits ⊢
    omega
  refine (va_frameFormat (nul_notMem_printData clean) short).trans ?_
  rw [ending, ← List.append_assoc]

end PrintData

/-!
### One frame

Every fourth frame is silent. Any other one takes up to five lines off the queue
and prints them.
-/

section Frame

variable {w : ProxyWorld}

/-- What a frame prints depends on the texts of the lines only. -/
theorem printedLines_eq (lines : List ReplyLine) :
    printedLines lines = printData (lines.map ReplyLine.text) := by
  rw [printedLines, printData, List.flatMap_map]

theorem counter_frame : (UserCommandsPlugin.onGameRunFrame w).counter = w.counter + 1 := by
  unfold UserCommandsPlugin.onGameRunFrame
  dsimp only
  split
  · split
    · rfl
    · split <;> rfl
  · rfl

/-- A frame that prints takes five lines, or all that are left. -/
theorem queue_frame : (UserCommandsPlugin.onGameRunFrame w).sentTextLinesToClient =
    if w.counter % 4 ≠ 0 then w.sentTextLinesToClient.drop 5 else w.sentTextLinesToClient := by
  unfold UserCommandsPlugin.onGameRunFrame
  dsimp only
  split
  · split
    · rfl
    · split <;> rfl
  · rfl

/-- A silent frame, or an empty queue, leaves the queue alone. -/
theorem queue_frame_silent (silent : w.counter % 4 = 0 ∨ w.sentTextLinesToClient = []) :
    (UserCommandsPlugin.onGameRunFrame w).sentTextLinesToClient = w.sentTextLinesToClient := by
  rw [queue_frame]
  rcases silent with skipped | empty
  · rw [if_neg (not_not.mpr skipped)]
  · rw [empty]
    split <;> rfl

/-- The frame in which nothing is to be printed sends nothing. -/
theorem sent_silent (silent : w.counter % 4 = 0 ∨ w.sentTextLinesToClient = []) :
    (UserCommandsPlugin.onGameRunFrame w).serverCommands = w.serverCommands := by
  unfold UserCommandsPlugin.onGameRunFrame
  dsimp only
  rcases silent with skipped | empty
  · rw [if_neg (not_not.mpr skipped)]
  · rw [empty]
    split <;> rfl

/-- A frame that prints sends one command. -/
theorem sent_printing (printing : w.counter % 4 ≠ 0) (more : w.sentTextLinesToClient ≠ []) :
    ∃ purpose, (UserCommandsPlugin.onGameRunFrame w).serverCommands = w.serverCommands ++
      [{ clientNum := 0
         text := "print \"".toList ++ printData ((w.sentTextLinesToClient.take 5).map ReplyLine.text) ++
           (if (UserCommandsPlugin.onGameRunFrame w).sentTextLinesToClient = [] then ['\n'] else []) ++ ['"']
         purpose }] := by
  have something : printedLines (w.sentTextLinesToClient.take 5) ≠ [] := by
    rw [printedLines_eq, Ne, printData_eq_nil, List.map_eq_nil_iff, List.take_eq_nil_iff]
    rintro (impossible | empty)
    · cases impossible
    · exact more empty
  have long : 0 < (printedLines (w.sentTextLinesToClient.take 5)).length := List.length_pos_iff.mpr something
  have left : (UserCommandsPlugin.onGameRunFrame w).sentTextLinesToClient =
      w.sentTextLinesToClient.drop 5 := by
    rw [queue_frame, if_pos printing]
  refine ⟨.replyLines (w.sentTextLinesToClient.take 5), ?_⟩
  rw [← printedLines_eq]
  by_cases emptied : (UserCommandsPlugin.onGameRunFrame w).sentTextLinesToClient = []
  · rw [if_pos emptied, List.append_assoc ("print \"".toList ++ printedLines _)]
    rw [left] at emptied
    unfold UserCommandsPlugin.onGameRunFrame
    dsimp only
    rw [if_pos printing, if_pos ⟨long, emptied⟩]
    rfl
  · rw [if_neg emptied, List.append_nil]
    rw [left] at emptied
    unfold UserCommandsPlugin.onGameRunFrame
    dsimp only
    rw [if_pos printing, if_neg (fun last => emptied last.2), if_pos ⟨long, emptied⟩]
    rfl

/-- What a frame takes off the queue it prints. -/
theorem frame_prints {later : List CString} (fit : LinesFit (w.queuedTexts ++ later))
    (clean : ∀ line ∈ w.queuedTexts, nul ∉ line) :
    ∃ batch, (frameRecord w).Prints batch ∧
      batch ++ (UserCommandsPlugin.onGameRunFrame w).queuedTexts = w.queuedTexts := by
  by_cases silent : w.counter % 4 = 0 ∨ w.sentTextLinesToClient = []
  · refine ⟨[], ⟨Nat.zero_le 5, fun _ => ?_, fun some => absurd rfl some⟩, ?_⟩
    · rw [frameRecord, sent_silent silent, List.drop_length]
    · rw [List.nil_append, ProxyWorld.queuedTexts, queue_frame_silent silent]
      rfl
  · obtain ⟨printing, more⟩ := not_or.mp silent
    have left : (UserCommandsPlugin.onGameRunFrame w).sentTextLinesToClient =
        w.sentTextLinesToClient.drop 5 := by
      rw [queue_frame, if_pos printing]
    obtain ⟨purpose, sent⟩ := sent_printing printing more
    have inQueue : (w.sentTextLinesToClient.take 5).map ReplyLine.text <+: w.queuedTexts :=
      (List.take_prefix 5 _).map ReplyLine.text
    have short : ((w.sentTextLinesToClient.take 5).map ReplyLine.text).length ≤ 5 := by
      rw [List.length_map]
      exact List.length_take_le 5 _
    have fits := fit _ (inQueue.trans (List.prefix_append _ later)).isInfix short
    refine ⟨(w.sentTextLinesToClient.take 5).map ReplyLine.text,
      ⟨short, fun none => ?_, fun _ => ?_⟩, ?_⟩
    · rw [List.map_eq_nil_iff, List.take_eq_nil_iff] at none
      exact absurd (none.resolve_left (by decide)) more
    · have batchClean := fun line inBatch => clean line (inQueue.subset inBatch)
      refine ⟨_, purpose, ?_, rfl, va_frameFormat_of_fits batchClean fits⟩
      dsimp only [frameRecord]
      rw [sent, List.drop_left]
      rfl
    · rw [ProxyWorld.queuedTexts, left, ← List.map_append, List.take_append_drop]
      rfl

end Frame

/-!
### Runs

By induction on the events. What has been printed and what is still queued make
up the lines of the replies.
-/

section Run

variable {w : ProxyWorld} {events : List ReplyEvent}

/-- A reply is queued behind what is there. -/
theorem queuedTexts_reply (owner : Slot) (identifier : Identifier) (message : CText) (error : CString) :
    (ReplyEvent.step w (.reply owner identifier message error)).queuedTexts =
      w.queuedTexts ++ ReplyEvent.lines (.reply owner identifier message error) := by
  rw [ReplyEvent.step, UserCommandsPlugin.onExecClientCommandFinished, ReplyEvent.lines]
  by_cases failed : error = []
  · rw [if_neg (not_not.mpr failed), if_pos failed, ← getLines_eq]
    dsimp only [ProxyWorld.queuedTexts]
    rw [List.map_append, List.map_map]
    apply congrArg
    exact List.map_id _
  · rw [if_pos failed, if_neg failed, List.append_nil]
    rfl

/-- What is left of the lines fits if all of them did. -/
theorem LinesFit.of_suffix {lines front : List CString} (fit : LinesFit (front ++ lines)) : LinesFit lines :=
  fun batch inLines => fit batch (inLines.trans (List.suffix_append front lines).isInfix)

/-- The batches of the frames and the queue at the end are the queue at the
beginning and the lines of the replies. -/
theorem frames_print (fit : LinesFit (w.queuedTexts ++ events.flatMap ReplyEvent.lines))
    (clean : ∀ line ∈ w.queuedTexts, nul ∉ line) :
    ∃ batches, List.Forall₂ FrameRecord.Prints (frameRecords w events) batches ∧
      batches.flatten ++ (afterReplies w events).queuedTexts =
        w.queuedTexts ++ events.flatMap ReplyEvent.lines := by
  induction events generalizing w with
  | nil =>
      refine ⟨[], .nil, ?_⟩
      rw [List.flatMap_nil, List.append_nil]
      rfl
  | cons event events inductionHypothesis =>
      cases event with
      | frame =>
          obtain ⟨batch, prints, taken⟩ := frame_prints fit clean
          rw [← taken] at fit clean ⊢
          have further : LinesFit ((UserCommandsPlugin.onGameRunFrame w).queuedTexts ++
              events.flatMap ReplyEvent.lines) := by
            apply @LinesFit.of_suffix _ batch
            rw [← List.append_assoc]
            exact fit
          have stillClean := fun line queued => clean line (List.mem_append_right batch queued)
          obtain ⟨batches, allPrint, total⟩ :=
            @inductionHypothesis (UserCommandsPlugin.onGameRunFrame w) further stillClean
          refine ⟨batch :: batches, .cons prints allPrint, ?_⟩
          rw [List.flatten_cons, List.append_assoc, List.append_assoc]
          exact congrArg (batch ++ ·) total
      | reply owner identifier message error =>
          have queued := @queuedTexts_reply w owner identifier message error
          rw [List.flatMap_cons, ← List.append_assoc, ← queued] at fit ⊢
          apply inductionHypothesis fit
          intro line inQueue
          rw [queued] at inQueue
          rcases List.mem_append.mp inQueue with before | new
          · exact clean line before
          · exact ReplyEvent.lines_clean new

/-- Without replies an empty queue stays empty. -/
theorem queue_stays_empty {frames : Nat} (empty : w.sentTextLinesToClient = []) :
    (afterReplies w (List.replicate frames .frame)).sentTextLinesToClient = [] := by
  induction frames generalizing w with
  | zero => exact empty
  | succ frames inductionHypothesis =>
      exact @inductionHypothesis (UserCommandsPlugin.onGameRunFrame w)
        ((queue_frame_silent (.inr empty)).trans empty)

/-- Two frames print at least one line. -/
theorem length_queue_twoFrames {bound : Nat} (some : w.sentTextLinesToClient.length ≤ bound + 1) :
    (UserCommandsPlugin.onGameRunFrame
      (UserCommandsPlugin.onGameRunFrame w)).sentTextLinesToClient.length ≤ bound := by
  rw [queue_frame, counter_frame, queue_frame]
  split
  · split
    · simp only [List.length_drop]
      omega
    · rw [List.length_drop]
      omega
  · split
    · rw [List.length_drop]
      omega
    · omega

/-- As many frames as twice the lines in the queue empty it. -/
theorem queue_drained {bound frames : Nat} (some : w.sentTextLinesToClient.length ≤ bound)
    (enough : 2 * bound ≤ frames) :
    (afterReplies w (List.replicate frames .frame)).sentTextLinesToClient = [] := by
  induction bound generalizing w frames with
  | zero => exact queue_stays_empty (List.length_eq_zero_iff.mp (Nat.le_zero.mp some))
  | succ bound inductionHypothesis =>
      obtain ⟨later, rfl⟩ : ∃ later, frames = later + 2 := ⟨frames - 2, by omega⟩
      have shorter := length_queue_twoFrames some
      exact @inductionHypothesis _ later shorter (by omega)

/-- Events are processed one after the other. -/
theorem afterReplies_append (more : List ReplyEvent) :
    afterReplies w (events ++ more) = afterReplies (afterReplies w events) more := List.foldl_append

/-- From an empty queue on, whatever replies and frames come. -/
theorem reply_stream_faithful (empty : w.sentTextLinesToClient = [])
    (fit : LinesFit (events.flatMap ReplyEvent.lines)) : StreamsLines w events := by
  have nothing : w.queuedTexts = [] := congrArg (List.map ReplyLine.text) empty
  constructor
  · have printed := @frames_print w events
    rw [nothing, List.nil_append] at printed
    apply printed fit
    intro line inNothing
    cases inNothing
  · refine ⟨2 * (afterReplies w events).sentTextLinesToClient.length, ?_⟩
    intro frames enough
    rw [afterReplies_append]
    exact queue_drained (Nat.le_refl _) enough

end Run

/-- A reply of two lines, and two frames. -/
def twoLines : List ReplyEvent :=
  [.reply 0 .unfilled ⟨"first\nsecond\n".toList, by decide⟩ [], .frame, .frame]

/-- The theorem at a reply of two lines and the frames that print them. -/
theorem twoLines_stream : (ProxyWorld.initial .blank).sentTextLinesToClient = [] ∧
    LinesFit (twoLines.flatMap ReplyEvent.lines) ∧ StreamsLines (.initial .blank) twoLines := by
  have fit : LinesFit (twoLines.flatMap ReplyEvent.lines) := by
    apply linesFit_of_length
    decide +kernel
  exact ⟨rfl, fit, reply_stream_faithful rfl fit⟩

end Q3df.Client
