/-
Module: Q3df.Server.ClientText
Layer: Server
Purpose: What becomes of the text a client sends on its way to the colour printer. `Printf` and
  `SaveRecord` hand over their formatted line as the format of the next printer, so the text arrives
  as it was sent exactly if it has no percent sign and no terminator, and the line fits the buffers.
Imports: Q3df.Server.Q3dfApiImpl
Trusted boundary: none
Main exports: PlainText, printfLine, recordLine, printfTexts_eq_iff, saveRecordTexts_eq_iff,
  clientText_arrives_iff
Open obligations: none
-/
import Q3df.Server.Q3dfApiImpl

namespace Q3df.Server

open Q3df.Printf

/-- Neither a percent sign nor a terminator. -/
def PlainText (s : StdString) : Prop := '%' ∉ s ∧ '\x00' ∉ s

instance (s : StdString) : Decidable (PlainText s) := inferInstanceAs (Decidable (_ ∧ _))

/-- The line `Printf` is to print. -/
def printfLine (remote : CString) (msg : StdString) : CString :=
  "CL(".toList ++ remote ++ "): ".toList ++ msg

/-- The line `SaveRecord` is to print, without the label. -/
def recordLine (mapname name : StdString) (mstime : Int) : CString :=
  "RECORD ".toList ++ mapname ++ " ".toList ++ name ++ " ".toList ++ (toString mstime).toList ++
    "\n".toList

/-- The label of `PrintInfo`. -/
def infoLabel : CString := "^7[^3Info ^7]: ".toList

section Lines

variable {remote : CString} {msg mapname name string : StdString} {mstime : Int}

/-- The line of `Printf` is what its format gives. -/
theorem format_printfLine :
    format "CL(%s): %s".toList [.str remote, .str msg] = .ok (printfLine remote msg) := by
  have parts : "CL(%s): %s".toList =
      "CL(".toList ++ '%' :: 's' :: ("): ".toList ++ '%' :: 's' :: []) := rfl
  rw [parts, format_plain_append (by decide), format_str, format_plain_append (by decide), format_str,
    format_nil]
  simp only [map_ok, printfLine, List.append_assoc, List.append_nil]

/-- The line of a record is what its format gives. -/
theorem format_recordLine :
    format "RECORD %s %s %i\n".toList [.str mapname, .str name, .int mstime] =
      .ok (recordLine mapname name mstime) := by
  have parts : "RECORD %s %s %i\n".toList =
      "RECORD ".toList ++ '%' :: 's' :: (" ".toList ++ '%' :: 's' :: (" ".toList ++
        '%' :: 'i' :: "\n".toList)) := rfl
  rw [parts, format_plain_append (by decide), format_str, format_plain_append (by decide), format_str,
    format_plain_append (by decide), format_int]
  unfold recordLine
  generalize (toString mstime).toList = digits
  rw [format_of_plain (by decide)]
  simp only [map_ok, List.append_assoc]

theorem format_infoLabel :
    format "^7[^3Info ^7]: %s".toList [.str string] = .ok (infoLabel ++ string) := by
  have parts : "^7[^3Info ^7]: %s".toList = infoLabel ++ '%' :: 's' :: [] := rfl
  rw [parts, format_around (by decide) List.not_mem_nil, List.append_nil]

theorem printfLine_length_le : (printfLine remote (cStr msg)).length ≤ (printfLine remote msg).length := by
  have cut := @length_cStr_le msg
  simp only [printfLine, List.length_append]
  omega

theorem recordLine_length_le : (recordLine (cStr mapname) (cStr name) mstime).length ≤
    (recordLine mapname name mstime).length := by
  have cutMap := @length_cStr_le mapname
  have cutName := @length_cStr_le name
  unfold recordLine
  generalize (toString mstime).toList = digits
  simp only [List.length_append]
  omega

/-- The line is the same read as a C string exactly if the message has no NUL. -/
theorem printfLine_cStr_eq_iff : printfLine remote (cStr msg) = printfLine remote msg ↔ '\x00' ∉ msg := by
  rw [printfLine, printfLine, List.append_cancel_left_eq, cStr_eq_self_iff]

theorem recordLine_cStr_eq_iff :
    recordLine (cStr mapname) (cStr name) mstime = recordLine mapname name mstime ↔
      '\x00' ∉ mapname ∧ '\x00' ∉ name := by
  rw [← cStr_eq_self_iff, ← cStr_eq_self_iff]
  constructor
  · intro same
    unfold recordLine at same
    generalize (toString mstime).toList = digits at same
    have lengths := congrArg List.length same
    have cutMap := @length_cStr_le mapname
    have cutName := @length_cStr_le name
    simp only [List.length_append] at lengths
    constructor
    · apply cStr_eq_self_of_length
      omega
    · apply cStr_eq_self_of_length
      omega
  · rintro ⟨uncutMap, uncutName⟩
    rw [uncutMap, uncutName]

end Lines

section Printers

variable {line text : CString}

/-- What `Print` makes of a line that is not empty. -/
theorem print_eq_ok_iff (nonempty : line ≠ []) :
    ConsoleTty.print line [] = .ok [text] ↔ format line [] = .ok text ∧ text.length < formatBuffer := by
  rw [ConsoleTty.print, if_neg nonempty, ← sprintf_eq_ok]
  cases sprintf formatBuffer line [] with
  | error fault => simp [bind, Except.bind]
  | ok written => simp [bind, Except.bind, pure, Except.pure]

/-- `PrintInfo` prints the text its format gives if that and the label fit the
buffer. -/
theorem printInfo_eq_ok_iff (nonempty : line ≠ []) :
    ConsoleTty.printInfo line [] = .ok [infoLabel ++ text] ↔
      format line [] = .ok text ∧ (infoLabel ++ text).length < formatBuffer := by
  have labelled (string : CString) : ConsoleTty.va "^7[^3Info ^7]: %s".toList [.str string] =
      if (infoLabel ++ string).length < formatBuffer then .ok (infoLabel ++ string)
      else .error .overflow :=
    sprintf_of_format format_infoLabel
  rw [ConsoleTty.printInfo, if_neg nonempty, sprintf]
  cases format line [] with
  | error fault => simp [bind, Except.bind]
  | ok written =>
      simp only [bind, Except.bind, pure, Except.pure, Except.ok.injEq]
      by_cases fits : (infoLabel ++ written).length < formatBuffer
      · have room : written.length < formatBuffer := by
          rw [List.length_append] at fits
          omega
        rw [if_pos room]
        simp only [labelled, if_pos fits, Except.ok.injEq, List.cons.injEq, and_true,
          List.append_cancel_left_eq]
        constructor
        · rintro rfl
          exact ⟨rfl, fits⟩
        · intro both
          exact both.1
      · apply iff_of_false
        · by_cases room : written.length < formatBuffer
          · simp only [if_pos room, labelled, if_neg fits, reduceCtorEq, not_false_eq_true]
          · simp [room]
        · rintro ⟨rfl, fits'⟩
          exact fits fits'

end Printers

/-!
### The two calls

`Printf` and the message of a saved record, each with the text of the client as
an argument, and what the printing function makes of it as a format.
-/

theorem ntoa_clean (remote : InAddr) : '%' ∉ remote.ntoa := by
  simp only [InAddr.ntoa, List.mem_append, List.mem_cons, not_or]
  refine ⟨⟨⟨percent_notMem_nat _, ?_, percent_notMem_nat _⟩, ?_, percent_notMem_nat _⟩, ?_,
    percent_notMem_nat _⟩ <;> decide

section Calls

variable {remote : InAddr} {msg mapname name : StdString} {mstime : Int}

/-- The line has a percent sign exactly if the message has one. -/
theorem percent_notMem_printfLine :
    '%' ∉ printfLine remote.ntoa msg ↔ '%' ∉ msg := by
  have fixed : '%' ∉ "CL(".toList ++ remote.ntoa ++ "): ".toList := by
    rw [List.mem_append, List.mem_append, not_or, not_or]
    exact ⟨⟨by decide, ntoa_clean remote⟩, by decide⟩
  rw [printfLine, List.mem_append, not_or]
  exact and_iff_right fixed

/-- The line of a record has a percent sign exactly if one of its texts has. -/
theorem percent_notMem_recordLine :
    '%' ∉ recordLine mapname name mstime ↔ '%' ∉ mapname ∧ '%' ∉ name := by
  have number := percent_notMem_int mstime
  unfold recordLine
  generalize (toString mstime).toList = digits at number ⊢
  simp only [List.mem_append, not_or]
  constructor
  · rintro ⟨⟨⟨⟨⟨⟨-, cleanMap⟩, -⟩, cleanName⟩, -⟩, -⟩, -⟩
    exact ⟨cleanMap, cleanName⟩
  · rintro ⟨cleanMap, cleanName⟩
    exact ⟨⟨⟨⟨⟨⟨by decide, cleanMap⟩, by decide⟩, cleanName⟩, by decide⟩,
      number⟩, by decide⟩

/-- What arrives of a message. -/
theorem printfTexts_eq_iff :
    Q3dfApiImpl.printfTexts remote.ntoa msg = .ok [printfLine remote.ntoa msg] ↔
      PlainText msg ∧ (printfLine remote.ntoa msg).length < formatBuffer := by
  have shorter := @printfLine_length_le remote.ntoa msg
  have passed : Q3dfApiImpl.printfTexts remote.ntoa msg = .ok [printfLine remote.ntoa msg] ↔
      (printfLine remote.ntoa (cStr msg)).length < formatBuffer ∧
        ConsoleTty.print (printfLine remote.ntoa (cStr msg)) [] =
          .ok [printfLine remote.ntoa msg] := by
    rw [Q3dfApiImpl.printfTexts, va, sprintf, format_printfLine]
    by_cases fits : (printfLine remote.ntoa (cStr msg)).length < formatBuffer
    · simp [fits, bind, Except.bind]
    · simp [fits, bind, Except.bind]
  rw [passed, print_eq_ok_iff (by simp [printfLine]), format_noArgs_eq_ok_iff shorter,
    printfLine_cStr_eq_iff, percent_notMem_printfLine]
  constructor
  · rintro ⟨-, ⟨noNul, noPercent⟩, fits⟩
    rw [cStr_eq_self_iff.mpr noNul] at noPercent
    exact ⟨⟨noPercent, noNul⟩, fits⟩
  · rintro ⟨⟨noPercent, noNul⟩, fits⟩
    rw [cStr_eq_self_iff.mpr noNul]
    exact ⟨fits, ⟨noNul, noPercent⟩, fits⟩

/-- What arrives of a record. -/
theorem saveRecordTexts_eq_iff {request : RecordRequest} :
    Q3dfApiImpl.saveRecordTexts request =
        .ok [infoLabel ++ recordLine request.mapname request.name request.mstime] ↔
      PlainText request.mapname ∧ PlainText request.name ∧
        (infoLabel ++ recordLine request.mapname request.name request.mstime).length <
          formatBuffer := by
  obtain ⟨identifier, name, mapname, mstime⟩ := request
  dsimp only
  have shorter := @recordLine_length_le mapname name mstime
  have passed : Q3dfApiImpl.saveRecordTexts ⟨identifier, name, mapname, mstime⟩ =
        .ok [infoLabel ++ recordLine mapname name mstime] ↔
      (recordLine (cStr mapname) (cStr name) mstime).length < formatBuffer ∧
        ConsoleTty.printInfo (recordLine (cStr mapname) (cStr name) mstime) [] =
          .ok [infoLabel ++ recordLine mapname name mstime] := by
    rw [Q3dfApiImpl.saveRecordTexts, va, sprintf, format_recordLine]
    by_cases fits : (recordLine (cStr mapname) (cStr name) mstime).length < formatBuffer
    · simp [fits, bind, Except.bind]
    · simp [fits, bind, Except.bind]
  have nonempty : recordLine (cStr mapname) (cStr name) mstime ≠ [] := by
    unfold recordLine
    simp
  rw [passed, printInfo_eq_ok_iff nonempty, format_noArgs_eq_ok_iff shorter,
    recordLine_cStr_eq_iff, percent_notMem_recordLine]
  constructor
  · rintro ⟨-, ⟨⟨noNulMap, noNulName⟩, noPercentMap, noPercentName⟩, fits⟩
    rw [cStr_eq_self_iff.mpr noNulMap] at noPercentMap
    rw [cStr_eq_self_iff.mpr noNulName] at noPercentName
    exact ⟨⟨noPercentMap, noNulMap⟩, ⟨noPercentName, noNulName⟩, fits⟩
  · rintro ⟨⟨noPercentMap, noNulMap⟩, ⟨noPercentName, noNulName⟩, fits⟩
    rw [cStr_eq_self_iff.mpr noNulMap, cStr_eq_self_iff.mpr noNulName]
    have room : (recordLine mapname name mstime).length < formatBuffer := by
      rw [List.length_append] at fits
      omega
    exact ⟨room, ⟨⟨noNulMap, noNulName⟩, noPercentMap, noPercentName⟩, fits⟩

/-- A printed text is the last one on the console. -/
theorem GlobalObject.print_eq_ok_iff {κ : Type*} {global : GlobalObject κ}
    {texts : Except Fault (List CString)} {expected : List CString} :
    global.print texts = .ok { global with console := global.console ++ expected } ↔
      texts = .ok expected := by
  cases texts with
  | error fault => simp [GlobalObject.print]
  | ok printed => simp [GlobalObject.print]

end Calls

/-- The message of `Printf` is on the console as the client sent it. -/
def PrintfArrives {κ : Type*} [DecidableEq κ] (env : DaemonEnv κ) (con : κ) (global : GlobalObject κ)
    (msg : StdString) : Prop :=
  Q3dfApiImpl.callMethod env con global (.printf msg) =
    .ok ({ global with
      console := global.console ++ [printfLine (env.remoteAddr con).ntoa msg] }, .null)

/-- Map and player of `SaveRecord` are on the console as the client sent them. -/
def SaveRecordArrives {κ : Type*} [DecidableEq κ] (env : DaemonEnv κ) (con : κ)
    (global : GlobalObject κ) (request : RecordRequest) : Prop :=
  Q3dfApiImpl.callMethod env con global (.saveRecord request) =
    .ok ({ global with
      console := global.console ++
        [infoLabel ++ recordLine request.mapname request.name request.mstime] }, .null)

section Arrival

variable {κ : Type*} [DecidableEq κ] {env : DaemonEnv κ} {con : κ} {global : GlobalObject κ}

/-- A message arrives if it is plain and its line fits the buffer. -/
theorem printfArrives_iff {msg : StdString} : PrintfArrives env con global msg ↔
    PlainText msg ∧ (printfLine (env.remoteAddr con).ntoa msg).length < formatBuffer := by
  rw [← printfTexts_eq_iff, ← GlobalObject.print_eq_ok_iff, PrintfArrives, Q3dfApiImpl.callMethod]
  cases global.print (Q3dfApiImpl.printfTexts (env.remoteAddr con).ntoa msg) with
  | error reason => simp [bind, Except.bind]
  | ok printed => simp [bind, Except.bind, pure, Except.pure]

/-- The message of a record arrives if its two texts are plain and its line fits the
buffer. -/
theorem saveRecordArrives_iff {request : RecordRequest} : SaveRecordArrives env con global request ↔
    PlainText request.mapname ∧ PlainText request.name ∧
      (infoLabel ++ recordLine request.mapname request.name request.mstime).length <
        formatBuffer := by
  rw [← saveRecordTexts_eq_iff, ← GlobalObject.print_eq_ok_iff, SaveRecordArrives,
    Q3dfApiImpl.callMethod]
  cases global.print (Q3dfApiImpl.saveRecordTexts request) with
  | error reason => simp [bind, Except.bind]
  | ok printed => simp [bind, Except.bind, pure, Except.pure]

/-- Client text is data exactly if it has no percent sign and no terminator and
the line fits. -/
theorem clientText_arrives_iff (env : DaemonEnv κ) (con : κ) (global : GlobalObject κ) :
    (∀ msg, PrintfArrives env con global msg ↔
      PlainText msg ∧ (printfLine (env.remoteAddr con).ntoa msg).length < formatBuffer) ∧
    ∀ request, SaveRecordArrives env con global request ↔
      PlainText request.mapname ∧ PlainText request.name ∧
        (infoLabel ++ recordLine request.mapname request.name request.mstime).length <
          formatBuffer :=
  ⟨fun _ => printfArrives_iff, fun _ => saveRecordArrives_iff⟩

end Arrival

/-- A message that ends in a percent sign is an undefined format. -/
theorem printf_interprets_percent : ¬ PrintfArrives .plainArguments () .empty "100%".toList := by
  intro arrives
  have plain := (printfArrives_iff.mp arrives).1
  revert plain
  decide

end Q3df.Server
