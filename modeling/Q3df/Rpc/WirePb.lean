/-
Module: Q3df.Rpc.WirePb
Layer: Rpc
Purpose: The headers of requests and responses, as the generated code writes and parses them. The
  parser jumps from one field into the next when the expected tag follows; that shortcut accepts the
  same messages with the same contents as the plain loop over tags. A header that was written is
  parsed back, unknown fields included, and whatever is accepted can be written and parsed again
  without a change.
Imports: Q3df.Rpc.WireFormat
Trusted boundary: human-reviewed transcription of
  tools/protobuf/src/google/protobuf/rpc/wire.pb/wire.pb.cc and of ParseFromString and
  SerializeToString of message_lite.cc; allocations do not fail
Main exports: WireHeader, RequestHeader, ResponseHeader, WireHeader.serializeToString,
  WireHeader.byteSize, KnownField, parseStep, parseRun, parseFromString, parsePlain,
  parseRun_isSome, parseFromString_eq_parsePlain, parseRun_jumps, parseFromString_spec,
  parseFromString_serializeToString, length_serializeToString, parseFromString_normal
Open obligations: none
-/
import Q3df.Rpc.WireFormat

namespace Q3df.Rpc

/-- The fields of a header, each with its has-bit, and the fields it does not
know. A request has its method where a response has its error. -/
structure WireHeader where
  id : Option (BitVec 64)
  text : Option StdString
  rawLen : Option (BitVec 32)
  snappyCompressedLen : Option (BitVec 32)
  checksum : Option (BitVec 32)
  unknownFields : List UnknownField

/-- `Clear()`. -/
def WireHeader.cleared : WireHeader :=
  { id := none, text := none, rawLen := none, snappyCompressedLen := none, checksum := none,
    unknownFields := [] }

abbrev RequestHeader := WireHeader

abbrev ResponseHeader := WireHeader

def RequestHeader.method (header : RequestHeader) : StdString := header.text.getD []

def RequestHeader.rawRequestLen (header : RequestHeader) : BitVec 32 := header.rawLen.getD 0

def ResponseHeader.error (header : ResponseHeader) : StdString := header.text.getD []

def ResponseHeader.rawResponseLen (header : ResponseHeader) : BitVec 32 := header.rawLen.getD 0

/-- `id()`, which is 0 when the field is not there. -/
def WireHeader.idValue (header : WireHeader) : BitVec 64 := header.id.getD 0

/-- `checksum()`. -/
def WireHeader.checksumValue (header : WireHeader) : BitVec 32 := header.checksum.getD 0

/-!
### Writing

The fields in the order of their numbers, and then what was kept of unknown ones.
-/

/-- `WriteUInt32ToArray`, if the field is there. -/
def writeUInt32Field (number : Nat) (value : Option (BitVec 32)) : List Byte :=
  value.elim [] fun value => writeTag number .varint ++ writeVarint32ToArray value

/-- `WriteUInt64ToArray`, if the field is there. -/
def writeUInt64Field (number : Nat) (value : Option (BitVec 64)) : List Byte :=
  value.elim [] fun value => writeTag number .varint ++ writeVarint64ToArray value

/-- `WriteStringToArray`, if the field is there. -/
def writeStringField (number : Nat) (value : Option StdString) : List Byte :=
  value.elim [] fun value => writeTag number .lengthDelimited ++ writeDelimited value

/-- `SerializeWithCachedSizesToArray`, and with it `SerializeToString`. -/
def WireHeader.serializeToString (header : WireHeader) : StdString :=
  writeUInt64Field 1 header.id ++
    (writeStringField 2 header.text ++
      (writeUInt32Field 3 header.rawLen ++
        (writeUInt32Field 4 header.snappyCompressedLen ++
          (writeUInt32Field 5 header.checksum ++ serializeUnknownFields header.unknownFields))))

/-- `UInt32Size`, `UInt64Size` and `StringSize`, with the byte of the tag; 0 if
the field is not there. -/
def fieldSize {α : Type} (size : α → Nat) (value : Option α) : BitVec 32 :=
  value.elim 0 fun value => 1 + .ofNat 32 (size value)

/-- The bytes of a string with its length in front. -/
def stringSize (value : StdString) : Nat := varintSize32 (.ofNat 32 value.length) + value.length

/-- `ByteSize`, an `int` that is added up and wraps around. -/
def WireHeader.byteSize (header : WireHeader) : BitVec 32 :=
  fieldSize varintSize64 header.id + fieldSize stringSize header.text + fieldSize varintSize32 header.rawLen +
    fieldSize varintSize32 header.snappyCompressedLen + fieldSize varintSize32 header.checksum +
    computeUnknownFieldsSize header.unknownFields

/-!
### Parsing

The generated function is a loop over tags with a label in front of every field
but the first. Behind a field it tests for the tag of the next one and jumps to
its label.
-/

/-- The fields the switch knows, in the order of their numbers. -/
inductive KnownField where
  | id
  | text
  | rawLen
  | snappyCompressedLen
  | checksum
deriving DecidableEq, Repr

/-- The case of the switch for a tag, if it has one. -/
def KnownField.ofTag (tag : BitVec 32) : Option KnownField :=
  match getTagFieldNumber tag, getTagWireType tag with
  | 1, some .varint => some .id
  | 2, some .lengthDelimited => some .text
  | 3, some .varint => some .rawLen
  | 4, some .varint => some .snappyCompressedLen
  | 5, some .varint => some .checksum
  | _, _ => none

/-- The tag that `ExpectTag` is given for a field. -/
def KnownField.tag : KnownField → BitVec 32
  | .id => 8
  | .text => 18
  | .rawLen => 24
  | .snappyCompressedLen => 32
  | .checksum => 40

/-- The field whose tag is expected behind a field. -/
def KnownField.next : KnownField → Option KnownField
  | .id => some .text
  | .text => some .rawLen
  | .rawLen => some .snappyCompressedLen
  | .snappyCompressedLen => some .checksum
  | .checksum => none

/-- `ReadPrimitive` or `ReadString` into the field. -/
def KnownField.read : KnownField → List Byte → WireHeader → Option (List Byte × WireHeader)
  | .id, buffer, header =>
      (readVarint64 buffer).map fun (value, buffer) => (buffer, { header with id := some value })
  | .text, buffer, header =>
      (readDelimited buffer).map fun (value, buffer) => (buffer, { header with text := some value })
  | .rawLen, buffer, header =>
      (readVarint32 buffer).map fun (value, buffer) => (buffer, { header with rawLen := some value })
  | .snappyCompressedLen, buffer, header =>
      (readVarint32 buffer).map fun (value, buffer) =>
        (buffer, { header with snappyCompressedLen := some value })
  | .checksum, buffer, header =>
      (readVarint32 buffer).map fun (value, buffer) => (buffer, { header with checksum := some value })

/-- The places of the function a jump leads to: the head of the loop, and the
labels. -/
inductive Label where
  | loop
  | parse (field : KnownField)
deriving DecidableEq, Repr

/-- Where the function stands after a field, or that it has returned. -/
inductive ParseState where
  | reached (label : Label) (input : CodedInputStream) (header : WireHeader)
  | returned (ok : Bool) (input : CodedInputStream) (header : WireHeader)

/-- `ExpectTag`; `none` for false. -/
def CodedInputStream.expectTag (input : CodedInputStream) (expected : BitVec 32) : Option CodedInputStream :=
  if expected.toNat < 2 ^ 7 then
    match input.buffer with
    | b :: rest => if b.toNat = expected.toNat then some { input with buffer := rest } else none
    | [] => none
  else if expected.toNat < 2 ^ 14 then
    match input.buffer with
    | b :: b' :: rest =>
        if b = moreByte expected ∧ b' = (expected >>> 7).setWidth 8 then some { input with buffer := rest }
        else none
    | _ => none
  else none

/-- `ExpectAtEnd`; `none` for false. -/
def CodedInputStream.expectAtEnd (input : CodedInputStream) : Option CodedInputStream :=
  if input.buffer = [] then some { input with lastTag := 0, legitimateMessageEnd := true } else none

/-- Behind a field: `if (input->ExpectTag(..)) goto ..; break;`, and behind the
last `if (input->ExpectAtEnd()) return true; break;`. The plain loop only has
the `break`. -/
def KnownField.behind (fast : Bool) (field : KnownField) (input : CodedInputStream) (header : WireHeader) :
    ParseState :=
  match field.next with
  | some next =>
      match if fast then input.expectTag next.tag else none with
      | some input => .reached (.parse next) input header
      | none => .reached .loop input header
  | none =>
      match if fast then input.expectAtEnd else none with
      | some input => .returned true input header
      | none => .reached .loop input header

/-- A case of the switch from its label on. -/
def parseKnown (fast : Bool) (field : KnownField) (input : CodedInputStream)
    (header : WireHeader) : ParseState :=
  match field.read input.buffer header with
  | none => .returned false input header
  | some (buffer, header) => field.behind fast { input with buffer := buffer } header

/-- `handle_uninterpreted`. -/
def parseUninterpreted (tag : BitVec 32) (input : CodedInputStream) (header : WireHeader) : ParseState :=
  if getTagWireType tag = some .endGroup then .returned true input header
  else
    match input.skipField tag with
    | none => .returned false input header
    | some (field, input) =>
        .reached .loop input { header with unknownFields := header.unknownFields ++ [field] }

/-- The switch of the loop. -/
def parseField (fast : Bool) (tag : BitVec 32) (input : CodedInputStream)
    (header : WireHeader) : ParseState :=
  match KnownField.ofTag tag with
  | some field => parseKnown fast field input header
  | none => parseUninterpreted tag input header

/-- From one place of the function to the next. -/
def parseStep (fast : Bool) : Label → CodedInputStream → WireHeader → ParseState
  | .loop, input, header =>
      let (tag, input) := input.readTag
      if tag = 0 then .returned true input header else parseField fast tag input header
  | .parse field, input, header => parseKnown fast field input header

/-- `MergePartialFromCodedStream` and `ConsumedEntireMessage` for so many steps:
`none` when they do not suffice, else the header if the message is accepted. -/
def parseRun (fast : Bool) : Nat → ParseState → Option (Option WireHeader)
  | _, .returned ok input header => some (if ok && input.legitimateMessageEnd then some header else none)
  | 0, .reached _ _ _ => none
  | fuel + 1, .reached label input header => parseRun fast fuel (parseStep fast label input header)

/-- Where the function starts, behind `Clear()`. -/
def parseStart (data : StdString) : ParseState :=
  .reached .loop (CodedInputStream.ofArray data) WireHeader.cleared

/-- `ParseFromString`: the message has to be used up. A step takes at least one
byte of it or is the last. -/
def parseFromString (data : StdString) : Option WireHeader :=
  (parseRun true (data.length + 1) (parseStart data)).join

/-- The loop over tags without its shortcuts. -/
def parsePlain (data : StdString) : Option WireHeader :=
  (parseRun false (data.length + 1) (parseStart data)).join

/-- An unknown field the switch would take for a known one. -/
def UnknownField.interpreted : UnknownField → Bool
  | .varint number _ => number == 1 || number == 3 || number == 4 || number == 5
  | .lengthDelimited number _ => number == 2
  | _ => false

/-- A header that can be read back: its text is below 2 GiB, and what it does
not know is unknown to the switch and can be read back. -/
structure WireHeader.WellFormed (header : WireHeader) : Prop where
  text : ∀ text ∈ header.text, text.length < 2147483648
  unknown : ∀ field ∈ header.unknownFields, field.WellFormed 0 ∧ field.interpreted = false

variable {input output : CodedInputStream} {header header' : WireHeader} {tag : BitVec 32} {fast : Bool}
variable {buffer rest : List Byte} {field : KnownField} {label label' : Label} {fuel : Nat}
  {result : Option WireHeader}

/-!
### Tags of the known fields

The five known fields have numbers below 16, so that each tag is one byte.
-/

/-- A known field is found by its tag. -/
theorem ofTag_tag (field : KnownField) : KnownField.ofTag field.tag = some field := by
  cases field <;> rfl

/-- The switch has a case for exactly one tag of each field. -/
theorem tag_of_ofTag (known : KnownField.ofTag tag = some field) : field.tag = tag := by
  have whole : ∀ {type : WireType}, getTagWireType tag = some type →
      makeTag (getTagFieldNumber tag) type = tag := makeTag_of_shown
  rw [KnownField.ofTag] at known
  split at known
  all_goals try cases known
  all_goals
    rename_i number type
    have same := whole type
    rw [number] at same
    exact same

theorem writeTagToArray_tag (field : KnownField) : writeTagToArray field.tag = [field.tag.setWidth 8] := by
  cases field <;> rfl

/-- No known field has the tag 0, which ends a message. -/
theorem tag_ne_zero (field : KnownField) : field.tag ≠ 0 := by
  cases field <;> decide

theorem tagLength_tag (field : KnownField) : tagLength field.tag = 1 := by
  rw [tagLength, if_neg (tag_ne_zero field), writeTagToArray_tag, List.length_singleton]

/-- Where the tag of a field is expected, it is taken off if it is there and
nothing else happens. -/
theorem expectTag_eq_some (expected : input.expectTag field.tag = some output) :
    input = { output with buffer := writeTagToArray field.tag ++ output.buffer } := by
  have short : field.tag.toNat < 2 ^ 7 := by cases field <;> decide
  rw [CodedInputStream.expectTag, if_pos short] at expected
  obtain ⟨buffer, size, lastTag, ended, depth⟩ := input
  cases buffer with
  | nil => cases expected
  | cons b rest =>
      obtain ⟨same, taken⟩ := Option.ite_none_right_eq_some.mp expected
      cases taken
      have byte : b = field.tag.setWidth 8 := by
        apply BitVec.eq_of_toNat_eq
        rw [same, BitVec.toNat_setWidth, Nat.mod_eq_of_lt (Nat.lt_trans short (by decide))]
      rw [writeTagToArray_tag, byte]
      rfl

/-!
### What a run gives

A step that is not the last takes at least one byte, so a run of one step more
than there are bytes ends.
-/

/-- A run that has ended gives the same with more rounds. -/
theorem parseRun_mono {more : Nat} {state : ParseState} (longer : fuel ≤ more)
    (run : parseRun fast fuel state = some result) : parseRun fast more state = some result := by
  induction fuel generalizing more state with
  | zero =>
      cases state with
      | reached label input header => cases run
      | returned ok input header => simpa only [parseRun] using run
  | succ fuel inductionHypothesis =>
      cases state with
      | returned ok input header => simpa only [parseRun] using run
      | reached label input header =>
          cases more with
          | zero => cases longer
          | succ more =>
              simp only [parseRun] at run ⊢
              exact inductionHypothesis (Nat.le_of_succ_le_succ longer) run

theorem length_writeTag_of_small {number : Nat} (small : number < 16) {type : WireType} :
    (writeTag number type).length = 1 := by
  rw [length_writeTag, tagSize]
  interval_cases number <;> cases type <;> rfl

theorem length_writeVarint32ToArray_pos (value : BitVec 32) : 0 < (writeVarint32ToArray value).length := by
  rw [writeVarint32ToArray_eq]
  exact Varint.length_encode_pos _

/-- What a known field does to the message: its value takes at least the bytes
it is written with, and it replaces the value that was there. -/
theorem KnownField.read_spec (read : field.read buffer header = some (rest, header')) :
    rest.length < buffer.length ∧ (header.WellFormed → header'.WellFormed) ∧
      header'.serializeToString.length + rest.length ≤
        header.serializeToString.length + tagLength field.tag + buffer.length := by
  rw [tagLength_tag]
  cases field with
  | id =>
      obtain ⟨⟨value, left⟩, taken, same⟩ := Option.map_eq_some_iff.mp read
      cases same
      have bytes := readVarint64_spec taken
      have positive : 0 < (writeVarint64ToArray value).length := by
        rw [writeVarint64ToArray_eq]
        exact Varint.length_encode_pos _
      refine ⟨by omega, fun wellFormed => ⟨wellFormed.text, wellFormed.unknown⟩, ?_⟩
      simp only [WireHeader.serializeToString, List.length_append, writeUInt64Field, Option.elim,
        length_writeTag_of_small (show 1 < 16 by decide)]
      omega
  | text =>
      obtain ⟨⟨value, left⟩, taken, same⟩ := Option.map_eq_some_iff.mp read
      cases same
      obtain ⟨bytes, small⟩ := readDelimited_spec taken
      have positive : 0 < (writeDelimited value).length := by
        rw [writeDelimited, List.length_append]
        exact Nat.lt_of_lt_of_le (length_writeVarint32ToArray_pos _) (Nat.le_add_right _ _)
      refine ⟨by omega, fun wellFormed => ⟨?_, wellFormed.unknown⟩, ?_⟩
      · intro text among
        cases among
        exact small
      · simp only [WireHeader.serializeToString, List.length_append, writeStringField, Option.elim,
          length_writeTag_of_small (show 2 < 16 by decide)]
        omega
  | rawLen =>
      obtain ⟨⟨value, left⟩, taken, same⟩ := Option.map_eq_some_iff.mp read
      cases same
      have bytes := readVarint32_spec taken
      have positive := length_writeVarint32ToArray_pos value
      refine ⟨by omega, fun wellFormed => ⟨wellFormed.text, wellFormed.unknown⟩, ?_⟩
      simp only [WireHeader.serializeToString, List.length_append, writeUInt32Field, Option.elim,
        length_writeTag_of_small (show 3 < 16 by decide)]
      omega
  | snappyCompressedLen =>
      obtain ⟨⟨value, left⟩, taken, same⟩ := Option.map_eq_some_iff.mp read
      cases same
      have bytes := readVarint32_spec taken
      have positive := length_writeVarint32ToArray_pos value
      refine ⟨by omega, fun wellFormed => ⟨wellFormed.text, wellFormed.unknown⟩, ?_⟩
      simp only [WireHeader.serializeToString, List.length_append, writeUInt32Field, Option.elim,
        length_writeTag_of_small (show 4 < 16 by decide)]
      omega
  | checksum =>
      obtain ⟨⟨value, left⟩, taken, same⟩ := Option.map_eq_some_iff.mp read
      cases same
      have bytes := readVarint32_spec taken
      have positive := length_writeVarint32ToArray_pos value
      refine ⟨by omega, fun wellFormed => ⟨wellFormed.text, wellFormed.unknown⟩, ?_⟩
      simp only [WireHeader.serializeToString, List.length_append, writeUInt32Field, Option.elim,
        length_writeTag_of_small (show 5 < 16 by decide)]
      omega

/-- What follows a field: the head of the loop, the label of a field whose tag
was taken off, or the end. -/
inductive Behind (input : CodedInputStream) (header : WireHeader) : ParseState → Prop where
  | loop : Behind input header (.reached .loop input header)
  | jump (field : KnownField) (output : CodedInputStream)
      (taken : input = { output with buffer := writeTagToArray field.tag ++ output.buffer }) :
      Behind input header (.reached (.parse field) output header)
  | ended (empty : input.buffer = []) :
      Behind input header (.returned true { input with lastTag := 0, legitimateMessageEnd := true } header)

theorem behind_spec (fast : Bool) (field : KnownField) (input : CodedInputStream) (header : WireHeader) :
    Behind input header (field.behind fast input header) := by
  rw [KnownField.behind]
  cases fast with
  | false => cases field.next <;> exact .loop
  | true =>
      cases field.next with
      | some next =>
          simp only [if_true]
          cases expected : input.expectTag next.tag with
          | none => exact .loop
          | some output => exact .jump next output (expectTag_eq_some expected)
      | none =>
          simp only [if_true, CodedInputStream.expectAtEnd]
          split_ifs with empty
          · exact .ended empty
          · exact .loop

/-- What the switch does with a tag: it returns, or takes a known field, or
keeps an unknown one. -/
inductive FieldStep (fast : Bool) (tag : BitVec 32) (input : CodedInputStream) (header : WireHeader) :
    ParseState → Prop where
  | failed : FieldStep fast tag input header (.returned false input header)
  | closed : FieldStep fast tag input header (.returned true input header)
  | known (field : KnownField) (rest : List Byte) (header' : WireHeader) (state : ParseState)
      (same : field.tag = tag) (read : field.read input.buffer header = some (rest, header'))
      (behind : Behind { input with buffer := rest } header' state) : FieldStep fast tag input header state
  | unknown (field : UnknownField) (output : CodedInputStream) (same : KnownField.ofTag tag = none)
      (skipped : input.skipField tag = some (field, output)) :
      FieldStep fast tag input header
        (.reached .loop output { header with unknownFields := header.unknownFields ++ [field] })

/-- What a step at a known field leads to. -/
theorem parseKnown_spec (fast : Bool) (field : KnownField) (input : CodedInputStream) (header : WireHeader) :
    FieldStep fast field.tag input header (parseKnown fast field input header) := by
  rw [parseKnown]
  cases read : field.read input.buffer header with
  | none => exact .failed
  | some found =>
      obtain ⟨rest, header'⟩ := found
      exact .known field rest header' _ rfl read (behind_spec fast field _ header')

/-- What a step at any tag leads to. -/
theorem parseField_spec (fast : Bool) (tag : BitVec 32) (input : CodedInputStream) (header : WireHeader) :
    FieldStep fast tag input header (parseField fast tag input header) := by
  rw [parseField]
  cases known : KnownField.ofTag tag with
  | some field =>
      have spec := parseKnown_spec fast field input header
      rw [tag_of_ofTag known] at spec
      exact spec
  | none =>
      simp only [parseUninterpreted]
      split_ifs with closes
      · exact .closed
      · cases skipped : input.skipField tag with
        | none => exact .failed
        | some found => exact .unknown found.1 found.2 known skipped

/-!
### Every run ends

A step that is not the last takes bytes. The loop makes at most as many rounds
as there are bytes.
-/

/-- The bytes of the tag that was taken off for a label. -/
def Label.taken : Label → Nat
  | .loop => 0
  | .parse field => tagLength field.tag

/-- Behind a field, the tag of a jump counted, there is what the field has left. -/
theorem Behind.bytes {output : CodedInputStream}
    (behind : Behind input header (.reached label output header')) :
    label.taken + output.buffer.length = input.buffer.length := by
  cases behind with
  | loop => exact Nat.zero_add _
  | jump field output taken =>
      rw [taken, List.length_append, Label.taken, tagLength, if_neg (tag_ne_zero field)]

theorem FieldStep.bytes (some_ : tag ≠ 0)
    (step : FieldStep fast tag input header (.reached label output header')) :
    label.taken + output.buffer.length ≤ input.buffer.length := by
  cases step with
  | known field rest header'' _ same read behind =>
      rw [behind.bytes]
      exact Nat.le_of_lt (KnownField.read_spec read).1
  | unknown field _ same skipped =>
      have left := (skipFieldWith_spec (groupReader_skipMessage _) some_ skipped).2.1
      rw [Label.taken]
      omega

/-- A step that is not the last takes at least one byte. -/
theorem parseStep_bytes (step : parseStep fast label input header = .reached label' output header') :
    label'.taken + output.buffer.length < label.taken + input.buffer.length := by
  cases label with
  | loop =>
      cases read : input.readTag with
      | mk tag behind =>
          simp only [parseStep, read] at step
          split_ifs at step with zero
          have fieldStep := parseField_spec fast tag behind header
          rw [step] at fieldStep
          have left := fieldStep.bytes zero
          have shorter := readTag_shortens read zero
          rw [Label.taken]
          omega
  | parse field =>
      have fieldStep := parseKnown_spec fast field input header
      rw [parseStep] at step
      rw [step] at fieldStep
      have left := fieldStep.bytes (tag_ne_zero field)
      show label'.taken + output.buffer.length < tagLength field.tag + input.buffer.length
      rw [tagLength_tag]
      omega

/-- The rounds of a run are bounded by the bytes it still has, whatever they are. -/
theorem parseRun_isSome (enough : label.taken + input.buffer.length < fuel) :
    ∃ result, parseRun fast fuel (.reached label input header) = some result := by
  induction fuel generalizing label input header with
  | zero => cases enough
  | succ fuel inductionHypothesis =>
      rw [parseRun]
      cases step : parseStep fast label input header with
      | returned ok output header' => exact ⟨_, by rw [parseRun]⟩
      | reached label' output header' =>
          have shorter := parseStep_bytes step
          exact inductionHypothesis (by omega)

/-- What a run gives is what the parser gives, however many rounds it was
granted. -/
theorem join_parseRun {data : StdString} (run : parseRun fast fuel (parseStart data) = some result) :
    (parseRun fast (data.length + 1) (parseStart data)).join = result := by
  have start : Label.loop.taken + (CodedInputStream.ofArray data).buffer.length < data.length + 1 := by
    show 0 + data.length < data.length + 1
    omega
  have ends : ∃ whole, parseRun fast (data.length + 1) (parseStart data) = some whole :=
      parseRun_isSome start
  obtain ⟨whole, ended⟩ := ends
  have one := parseRun_mono (Nat.le_max_left fuel (data.length + 1)) run
  rw [parseRun_mono (Nat.le_max_right fuel (data.length + 1)) ended] at one
  cases one
  rw [ended, Option.join_some]

/-!
### The shortcuts change nothing

A jump leaves out reading the tag that was expected, and the return at the end
leaves out reading the end. The plain loop takes one step more for each.
-/

/-- How the function with its jumps stands to the loop without them. -/
inductive Agree : ParseState → ParseState → Prop where
  | same (label : Label) (input : CodedInputStream) (header : WireHeader) (last : BitVec 32) :
      Agree (.reached label input header) (.reached label { input with lastTag := last } header)
  | jumped (field : KnownField) (input : CodedInputStream) (header : WireHeader) (last : BitVec 32) :
      Agree (.reached (.parse field) input header)
        (.reached .loop
          { input with buffer := writeTagToArray field.tag ++ input.buffer, lastTag := last } header)
  | ended (input : CodedInputStream) (header : WireHeader) (last : BitVec 32) (empty : input.buffer = [])
      (inside : input.size ≤ totalBytesLimit) :
      Agree (.returned true { input with lastTag := 0, legitimateMessageEnd := true } header)
        (.reached .loop { input with lastTag := last } header)
  | returned (ok : Bool) (input : CodedInputStream) (header : WireHeader) (last : BitVec 32) :
      Agree (.returned ok input header) (.returned ok { input with lastTag := last } header)

theorem Agree.refl (state : ParseState) : Agree state state := by
  cases state with
  | reached label input header => exact .same label input header input.lastTag
  | returned ok input header => exact .returned ok input header input.lastTag

/-- At a known field the loop with jumps and the plain loop end up in the same
place. -/
theorem parseKnown_agree (field : KnownField) (input : CodedInputStream)
    (header : WireHeader) (last : BitVec 32)
    (inside : input.size ≤ totalBytesLimit) :
    Agree (parseKnown true field input header)
      (parseKnown false field { input with lastTag := last } header) := by
  rw [parseKnown, parseKnown]
  cases read : field.read input.buffer header with
  | none => exact .returned false input header last
  | some found =>
      obtain ⟨rest, header'⟩ := found
      have plain : field.behind false { input with buffer := rest, lastTag := last } header' =
          .reached .loop { input with buffer := rest, lastTag := last } header' := by
        rw [KnownField.behind]
        cases field.next <;> rfl
      simp only [plain]
      have behind := behind_spec true field { input with buffer := rest } header'
      cases state : field.behind true { input with buffer := rest } header' with
      | reached label output header'' =>
          rw [state] at behind
          cases behind with
          | loop => exact .same .loop _ header' last
          | jump next output taken =>
              have plainInput := congrArg (fun input : CodedInputStream =>
                  { input with lastTag := last }) taken
              simp only [] at plainInput
              rw [plainInput]
              exact .jumped next output header' last
      | returned ok output header'' =>
          rw [state] at behind
          cases behind with
          | ended empty => exact .ended _ header' last empty inside

theorem readTag_lastTag (input : CodedInputStream) (last : BitVec 32) :
    { input with lastTag := last : CodedInputStream }.readTag = input.readTag := by
  rw [readTag_eq, readTag_eq]

/-- One step keeps the size of the array. -/
theorem parseStep_size (step : parseStep fast label input header = .reached label' output header') :
    output.size = input.size := by
  have behindSize : ∀ {input output : CodedInputStream} {header header' : WireHeader} {label : Label},
      Behind input header (.reached label output header') → output.size = input.size := by
    intro input output header header' label behind
    cases behind with
    | loop => rfl
    | jump field output taken => rw [taken]
  have fieldSize : ∀ {tag : BitVec 32} {input : CodedInputStream}, tag ≠ 0 →
      FieldStep fast tag input header (.reached label' output header') → output.size = input.size := by
    intro tag input some_ fieldStep
    cases fieldStep with
    | known field rest header'' _ same read behind =>
        have size := behindSize behind
        exact size
    | unknown field _ same skipped =>
        exact (skipFieldWith_spec (groupReader_skipMessage _) some_ skipped).2.2.2.1
  cases label with
  | loop =>
      cases read : input.readTag with
      | mk tag behind =>
          simp only [parseStep, read] at step
          split_ifs at step with zero
          have fieldStep := parseField_spec fast tag behind header
          rw [step] at fieldStep
          exact (fieldSize zero fieldStep).trans (readTag_spec read).2.2.1
  | parse field =>
      have fieldStep := parseKnown_spec fast field input header
      rw [parseStep] at step
      rw [step] at fieldStep
      exact fieldSize (tag_ne_zero field) fieldStep

/-- One step of the function, and the step the loop takes at the same place. -/
theorem parseStep_agree (label : Label) (input : CodedInputStream) (header : WireHeader) (last : BitVec 32)
    (inside : input.size ≤ totalBytesLimit) :
    Agree (parseStep true label input header)
      (parseStep false label { input with lastTag := last } header) := by
  cases label with
  | parse field => exact parseKnown_agree field input header last inside
  | loop =>
      simp only [parseStep, readTag_lastTag]
      cases read : input.readTag with
      | mk tag behind =>
          simp only []
          split_ifs with zero
          · exact .refl _
          · rw [parseField, parseField]
            cases KnownField.ofTag tag with
            | none => exact .refl _
            | some field =>
                have size := (readTag_spec read).2.2.1
                exact parseKnown_agree field behind header behind.lastTag (by omega)

/-- The array is one the reader takes to its end. -/
def ParseState.Inside : ParseState → Prop
  | .reached _ input _ => input.size ≤ totalBytesLimit
  | .returned _ _ _ => True

/-- No step goes beyond the limit of the message. -/
theorem parseStep_inside (inside : input.size ≤ totalBytesLimit) :
    (parseStep fast label input header).Inside := by
  cases step : parseStep fast label input header with
  | returned ok output header' => exact trivial
  | reached label' output header' =>
      rw [ParseState.Inside, parseStep_size step]
      exact inside

theorem parseStep_end (empty : input.buffer = []) :
    parseStep fast .loop input header =
      .returned true
        { input with lastTag := 0, legitimateMessageEnd := decide (input.size ≤ totalBytesLimit) }
        header := by
  simp only [parseStep, readTag_eq, if_pos empty, if_true]

/-- A run of the function, followed by the loop. -/
theorem parseRun_plain {state state' : ParseState} (agree : Agree state state') (inside : state.Inside)
    (run : parseRun true fuel state = some result) : ∃ more, parseRun false more state' = some result := by
  induction fuel generalizing state state' with
  | zero =>
      cases agree with
      | same label input header last => cases run
      | jumped field input header last => cases run
      | ended input header last empty short =>
          refine ⟨1, ?_⟩
          rw [parseRun, @parseStep_end { input with lastTag := last } header false empty]
          rw [parseRun, decide_eq_true short]
          exact run
      | returned ok input header last => exact ⟨0, by simpa only [parseRun] using run⟩
  | succ fuel inductionHypothesis =>
      cases agree with
      | same label input header last =>
          rw [parseRun] at run
          obtain ⟨more, plain⟩ :=
            inductionHypothesis (parseStep_agree label input header last inside) (parseStep_inside inside) run
          exact ⟨more + 1, by rw [parseRun, plain]⟩
      | jumped field input header last =>
          rw [parseRun] at run
          have agree := parseKnown_agree field input header field.tag inside
          have stays : (parseStep true (.parse field) input header).Inside := parseStep_inside inside
          obtain ⟨more, plain⟩ := inductionHypothesis agree stays run
          refine ⟨more + 1, ?_⟩
          have read := @readTag_write
            { input with buffer := writeTagToArray field.tag ++ input.buffer, lastTag := last } field.tag
            input.buffer rfl
          simp only [parseRun, parseStep, read, if_neg (tag_ne_zero field), parseField, ofTag_tag]
          exact plain
      | ended input header last empty short =>
          refine ⟨1, ?_⟩
          rw [parseRun, @parseStep_end { input with lastTag := last } header false empty]
          rw [parseRun, decide_eq_true short]
          exact run
      | returned ok input header last => exact ⟨0, by simpa only [parseRun] using run⟩

/-- The jumps and the early return accept the same messages with the same
contents as the plain loop. -/
theorem parseFromString_eq_parsePlain {data : StdString} (inside : data.length ≤ totalBytesLimit) :
    parseFromString data = parsePlain data := by
  have start : Label.loop.taken + (CodedInputStream.ofArray data).buffer.length < data.length + 1 := by
    show 0 + data.length < data.length + 1
    omega
  have ends : ∃ result, parseRun true (data.length + 1) (parseStart data) = some result :=
      parseRun_isSome start
  obtain ⟨result, run⟩ := ends
  obtain ⟨more, plain⟩ := parseRun_plain (.refl (parseStart data)) inside run
  rw [parsePlain, join_parseRun plain]
  exact join_parseRun run

/-- On every message, with any number of steps above that of its bytes, the
function ends, and the jumps change nothing about how: the same messages are
accepted, and the header is the same. -/
theorem parseRun_jumps {data : StdString} (inside : data.length ≤ totalBytesLimit)
    (enough : data.length < fuel) :
    ∃ result, parseRun true fuel (parseStart data) = some result ∧
      parseRun false fuel (parseStart data) = some result := by
  have room : Label.loop.taken + (CodedInputStream.ofArray data).buffer.length < fuel := by
    show 0 + data.length < fuel
    omega
  obtain ⟨result, run⟩ : ∃ result, parseRun true fuel (parseStart data) = some result :=
      parseRun_isSome room
  obtain ⟨result', plainRun⟩ : ∃ result, parseRun false fuel (parseStart data) = some result :=
      parseRun_isSome room
  obtain ⟨more, plain⟩ := parseRun_plain (.refl (parseStart data)) inside run
  have same : result' = result := by
    have one := join_parseRun plainRun
    rw [join_parseRun plain] at one
    exact one.symm
  rw [same] at plainRun
  exact ⟨result, run, plainRun⟩

/-- A header of two fields, and one byte too few for its second field. -/
theorem parseRun_jumps_pair :
    (∃ result, parseRun true 9 (parseStart [0x08#8, 0x07#8, 0x18#8, 0x01#8]) = some result ∧
      parseRun false 9 (parseStart [0x08#8, 0x07#8, 0x18#8, 0x01#8]) = some result) ∧
    ∃ result, parseRun true 9 (parseStart [0x08#8, 0x07#8, 0x18#8]) = some result ∧
      parseRun false 9 (parseStart [0x08#8, 0x07#8, 0x18#8]) = some result :=
  ⟨parseRun_jumps (by decide) (by decide), parseRun_jumps (by decide) (by decide)⟩

/-!
### What is accepted

A header that was accepted is well formed, and writing it takes no more bytes
than it was read from.
-/

/-- A field that is kept is written behind the others. -/
theorem serializeUnknownFields_append (fields : List UnknownField) (field : UnknownField) :
    serializeUnknownFields (fields ++ [field]) = serializeUnknownFields fields ++ field.serialize := by
  induction fields with
  | nil => simp only [serializeUnknownFields, List.nil_append, List.append_nil]
  | cons first fields inductionHypothesis =>
      rw [List.cons_append, serializeUnknownFields, serializeUnknownFields, inductionHypothesis,
        List.append_assoc]

/-- The switch has no case for a field exactly when it is not one of the known
ones. -/
theorem ofTag_startTag {depth : Nat} {field : UnknownField} (wellFormed : field.WellFormed depth) :
    KnownField.ofTag field.startTag = none ↔ field.interpreted = false := by
  have cases_ : ∀ number : Nat, number = 1 ∨ number = 2 ∨ number = 3 ∨ number = 4 ∨ number = 5 ∨
      (number ≠ 1 ∧ number ≠ 2 ∧ number ≠ 3 ∧ number ≠ 4 ∧ number ≠ 5) := by
    intro number
    omega
  cases field with
  | varint number value =>
      rw [KnownField.ofTag, UnknownField.startTag, getTagFieldNumber_makeTag wellFormed.2,
        getTagWireType_makeTag wellFormed.2, UnknownField.interpreted]
      rcases cases_ number with rfl | rfl | rfl | rfl | rfl | other
      all_goals simp [*]
  | fixed64 number value =>
      rw [KnownField.ofTag, UnknownField.startTag, getTagFieldNumber_makeTag wellFormed,
        getTagWireType_makeTag wellFormed, UnknownField.interpreted]
      rcases cases_ number with rfl | rfl | rfl | rfl | rfl | other
      all_goals simp [*]
  | lengthDelimited number data =>
      rw [KnownField.ofTag, UnknownField.startTag, getTagFieldNumber_makeTag wellFormed.1,
        getTagWireType_makeTag wellFormed.1, UnknownField.interpreted]
      rcases cases_ number with rfl | rfl | rfl | rfl | rfl | other
      all_goals simp [*]
  | group number fields =>
      rw [KnownField.ofTag, UnknownField.startTag, getTagFieldNumber_makeTag wellFormed.1,
        getTagWireType_makeTag wellFormed.1, UnknownField.interpreted]
      rcases cases_ number with rfl | rfl | rfl | rfl | rfl | other
      all_goals simp [*]
  | fixed32 number value =>
      rw [KnownField.ofTag, UnknownField.startTag, getTagFieldNumber_makeTag wellFormed,
        getTagWireType_makeTag wellFormed, UnknownField.interpreted]
      rcases cases_ number with rfl | rfl | rfl | rfl | rfl | other
      all_goals simp [*]

/-- What holds at every place of the function: no group is open, the header can
be read back, and it is written in no more bytes than were taken for it. -/
def ParseState.Invariant (size : Nat) : ParseState → Prop
  | .reached label input header =>
      input.recursionDepth = 0 ∧ header.WellFormed ∧
        header.serializeToString.length + label.taken + input.buffer.length ≤ size
  | .returned _ _ header => header.WellFormed ∧ header.serializeToString.length ≤ size

theorem FieldStep.invariant {size : Nat} {state : ParseState} (some_ : tag ≠ 0)
    (step : FieldStep fast tag input header state) (depth : input.recursionDepth = 0)
    (wellFormed : header.WellFormed)
    (room : header.serializeToString.length + tagLength tag + input.buffer.length ≤ size) :
    state.Invariant size := by
  cases step with
  | failed => exact ⟨wellFormed, by omega⟩
  | closed => exact ⟨wellFormed, by omega⟩
  | known field rest header' _ same read behind =>
      obtain ⟨_, keeps, bytes⟩ := KnownField.read_spec read
      rw [same] at bytes
      cases state with
      | returned ok output header'' =>
          cases behind with
          | ended empty => exact ⟨keeps wellFormed, by omega⟩
      | reached label output header'' =>
          have left := behind.bytes
          cases behind with
          | loop => exact ⟨depth, keeps wellFormed, by simp only [] at left ⊢; omega⟩
          | jump next output taken =>
              have outside : output.recursionDepth = 0 := by
                have same := congrArg CodedInputStream.recursionDepth taken
                rw [← depth]
                exact same.symm
              exact ⟨outside, keeps wellFormed, by simp only [] at left ⊢; omega⟩
  | unknown field output same skipped =>
      obtain ⟨startTag, taken, outside, _, fieldWellFormed⟩ :=
        skipFieldWith_spec (groupReader_skipMessage _) some_ skipped
      rw [depth] at outside fieldWellFormed
      refine ⟨outside, ⟨wellFormed.text, ?_⟩, ?_⟩
      · intro among member
        rcases List.mem_append.mp member with old | new
        · exact wellFormed.unknown among old
        · rw [List.mem_singleton.mp new]
          rw [← startTag] at same
          exact ⟨fieldWellFormed, (ofTag_startTag fieldWellFormed).mp same⟩
      · rw [tagLength, if_neg some_] at room
        simp only [WireHeader.serializeToString, serializeUnknownFields_append, serialize_eq, startTag,
          List.length_append, Label.taken] at room ⊢
        omega

/-- A step keeps what has been read well formed, and counts its bytes. -/
theorem parseStep_invariant {size : Nat} (holds : (ParseState.reached label input header).Invariant size) :
    (parseStep fast label input header).Invariant size := by
  obtain ⟨depth, wellFormed, room⟩ := holds
  cases label with
  | parse field =>
      exact (parseKnown_spec fast field input header).invariant (tag_ne_zero field) depth wellFormed room
  | loop =>
      cases read : input.readTag with
      | mk tag behind =>
          obtain ⟨_, outside, _, taken⟩ := readTag_spec read
          simp only [parseStep, read]
          rw [Label.taken] at room
          split_ifs with zero
          · exact ⟨wellFormed, by omega⟩
          · exact (parseField_spec fast tag behind header).invariant zero (outside.trans depth)
              wellFormed (by omega)

/-- A run that accepts a header accepts a well formed one of at most as many
bytes. -/
theorem parseRun_invariant {size : Nat} {state : ParseState} (holds : state.Invariant size)
    (run : parseRun fast fuel state = some (some header)) :
    header.WellFormed ∧ header.serializeToString.length ≤ size := by
  induction fuel generalizing state with
  | zero =>
      cases state with
      | reached label input header => cases run
      | returned ok input header' =>
          simp only [parseRun, Option.some.injEq, Option.ite_none_right_eq_some] at run
          rw [← run.2]
          exact holds
  | succ fuel inductionHypothesis =>
      cases state with
      | reached label input header => exact inductionHypothesis (parseStep_invariant holds) run
      | returned ok input header' =>
          simp only [parseRun, Option.some.injEq, Option.ite_none_right_eq_some] at run
          rw [← run.2]
          exact holds

/-- Whatever is accepted can be read back, and is written in no more bytes than
it came in. -/
theorem parseFromString_spec {data : StdString} (parsed : parseFromString data = some header) :
    header.WellFormed ∧ header.serializeToString.length ≤ data.length := by
  have start : (parseStart data).Invariant data.length := by
    refine ⟨rfl, ⟨?_, ?_⟩, ?_⟩
    · intro text among
      cases among
    · intro field among
      cases among
    · show 0 + 0 + data.length ≤ data.length
      omega
  exact parseRun_invariant start (Option.join_eq_some_iff.mp parsed)

/-!
### Reading back what was written

One field after the other: where its bytes stand in front of the input, the loop
goes on behind them with the field set.
-/

/-- The bytes of a field. -/
def KnownField.write : KnownField → WireHeader → List Byte
  | .id, header => writeUInt64Field 1 header.id
  | .text, header => writeStringField 2 header.text
  | .rawLen, header => writeUInt32Field 3 header.rawLen
  | .snappyCompressedLen, header => writeUInt32Field 4 header.snappyCompressedLen
  | .checksum, header => writeUInt32Field 5 header.checksum

/-- One field of a header put into another one. -/
def KnownField.copy : KnownField → WireHeader → WireHeader → WireHeader
  | .id, header, target => { target with id := header.id }
  | .text, header, target => { target with text := header.text }
  | .rawLen, header, target => { target with rawLen := header.rawLen }
  | .snappyCompressedLen, header, target => { target with snappyCompressedLen := header.snappyCompressedLen }
  | .checksum, header, target => { target with checksum := header.checksum }

/-- A field that is not there is not written; one that is there is read back in
front of any bytes. -/
theorem read_write (field : KnownField) (wellFormed : header.WellFormed) (target : WireHeader) :
    field.write header = [] ∧ field.copy header target = field.copy .cleared target ∨
      ∃ body, field.write header = writeTagToArray field.tag ++ body ∧
        ∀ rest, field.read (body ++ rest) target = some (rest, field.copy header target) := by
  cases field with
  | id =>
      rw [KnownField.write, KnownField.copy, KnownField.copy]
      cases header.id with
      | none => exact Or.inl ⟨rfl, rfl⟩
      | some value =>
          refine Or.inr ⟨writeVarint64ToArray value, rfl, fun rest => ?_⟩
          rw [KnownField.read, readVarint64_write, Option.map_some]
  | text =>
      rw [KnownField.write, KnownField.copy, KnownField.copy]
      cases present : header.text with
      | none => exact Or.inl ⟨rfl, rfl⟩
      | some value =>
          refine Or.inr ⟨writeDelimited value, rfl, fun rest => ?_⟩
          rw [KnownField.read, readDelimited_write (wellFormed.text value present), Option.map_some]
  | rawLen =>
      rw [KnownField.write, KnownField.copy, KnownField.copy]
      cases header.rawLen with
      | none => exact Or.inl ⟨rfl, rfl⟩
      | some value =>
          refine Or.inr ⟨writeVarint32ToArray value, rfl, fun rest => ?_⟩
          rw [KnownField.read, readVarint32_write, Option.map_some]
  | snappyCompressedLen =>
      rw [KnownField.write, KnownField.copy, KnownField.copy]
      cases header.snappyCompressedLen with
      | none => exact Or.inl ⟨rfl, rfl⟩
      | some value =>
          refine Or.inr ⟨writeVarint32ToArray value, rfl, fun rest => ?_⟩
          rw [KnownField.read, readVarint32_write, Option.map_some]
  | checksum =>
      rw [KnownField.write, KnownField.copy, KnownField.copy]
      cases header.checksum with
      | none => exact Or.inl ⟨rfl, rfl⟩
      | some value =>
          refine Or.inr ⟨writeVarint32ToArray value, rfl, fun rest => ?_⟩
          rw [KnownField.read, readVarint32_write, Option.map_some]

/-- From the head of the plain loop, some number of rounds gives this. -/
def Leads (input : CodedInputStream) (header : WireHeader) (result : Option WireHeader) : Prop :=
  ∃ fuel, parseRun false fuel (.reached .loop input header) = some result

theorem Leads.of_lastTag {last : BitVec 32} (leads : Leads { input with lastTag := last } header result) :
    Leads input header result := by
  obtain ⟨fuel, run⟩ := leads
  cases fuel with
  | zero => cases run
  | succ fuel =>
      rw [parseRun, parseStep, readTag_lastTag] at run
      exact ⟨fuel + 1, run⟩

/-- One known field, there or not. -/
theorem Leads.known (field : KnownField) (wellFormed : header.WellFormed) {target : WireHeader}
    (fresh : field.copy .cleared target = target) (arrived : input.buffer = field.write header ++ rest)
    (leads : Leads { input with buffer := rest } (field.copy header target) result) :
    Leads input target result := by
  rcases read_write field wellFormed target with ⟨empty, absent⟩ | ⟨body, written, read⟩
  · rw [absent, fresh] at leads
    rw [empty, List.nil_append] at arrived
    rw [← arrived] at leads
    exact leads
  · obtain ⟨fuel, run⟩ := @Leads.of_lastTag { input with buffer := rest, lastTag := field.tag } _ _
        input.lastTag leads
    rw [written, List.append_assoc] at arrived
    refine ⟨fuel + 1, ?_⟩
    have behind : ∀ output, field.behind false output (field.copy header target) =
        .reached .loop output (field.copy header target) := by
      intro output
      rw [KnownField.behind]
      cases field.next <;> rfl
    simp only [parseRun, parseStep, readTag_write arrived, if_neg (tag_ne_zero field), parseField, ofTag_tag,
      parseKnown, read, behind]
    exact run

/-- The fields a message does not know, up to its end. -/
theorem Leads.unknown {fields : List UnknownField} (depth : input.recursionDepth = 0)
    (wellFormed : ∀ field ∈ fields, field.WellFormed 0 ∧ field.interpreted = false)
    (arrived : input.buffer = serializeUnknownFields fields)
    (leads : Leads { input with buffer := [] } { header with unknownFields := header.unknownFields ++ fields }
      result) : Leads input header result := by
  induction fields generalizing input header with
  | nil =>
      rw [List.append_nil] at leads
      rw [serializeUnknownFields] at arrived
      rw [← arrived] at leads
      exact leads
  | cons field fields inductionHypothesis =>
      obtain ⟨fieldWellFormed, notKnown⟩ := wellFormed field List.mem_cons_self
      obtain ⟨some_, inner⟩ := startTag_of_wellFormed fieldWellFormed
      rw [serializeUnknownFields, serialize_eq, List.append_assoc] at arrived
      obtain ⟨last, skipped⟩ := @skipField_serialize field
        { input with buffer := field.body ++ serializeUnknownFields fields, lastTag := field.startTag }
        (serializeUnknownFields fields) _ (by rw [depth]; exact fieldWellFormed) rfl (Nat.lt_succ_self _)
      have later : Leads { input with buffer := serializeUnknownFields fields, lastTag := last }
          { header with unknownFields := header.unknownFields ++ [field] } result := by
        refine inductionHypothesis depth
          (fun other among => wellFormed other (List.mem_cons_of_mem _ among)) rfl ?_
        rw [List.append_assoc, List.singleton_append]
        exact @Leads.of_lastTag { input with buffer := [], lastTag := last } _ _ input.lastTag leads
      obtain ⟨fuel, run⟩ := later
      refine ⟨fuel + 1, ?_⟩
      simp only [parseRun, parseStep, readTag_write arrived, if_neg some_, parseField,
        (ofTag_startTag fieldWellFormed).mpr notKnown, parseUninterpreted, if_neg inner,
        CodedInputStream.skipField, skipped]
      exact run

/-- A header that was written is parsed back, with every field it has and the
unknown ones in their order. -/
theorem parseFromString_serializeToString (wellFormed : header.WellFormed)
    (inside : header.serializeToString.length ≤ totalBytesLimit) :
    parseFromString header.serializeToString = some header := by
  have ended : ∀ input : CodedInputStream, input.buffer = [] → input.size ≤ totalBytesLimit →
      Leads input header (some header) := by
    intro input empty short
    refine ⟨1, ?_⟩
    rw [parseRun, parseStep_end empty, parseRun, decide_eq_true short]
    rfl
  have whole : Leads (CodedInputStream.ofArray header.serializeToString) WireHeader.cleared
      (some header) := by
    apply Leads.known .id wellFormed rfl rfl
    apply Leads.known .text wellFormed rfl rfl
    apply Leads.known .rawLen wellFormed rfl rfl
    apply Leads.known .snappyCompressedLen wellFormed rfl rfl
    apply Leads.known .checksum wellFormed rfl rfl
    apply Leads.unknown rfl wellFormed.unknown rfl
    exact ended _ rfl inside
  obtain ⟨fuel, run⟩ := whole
  rw [parseFromString_eq_parsePlain inside]
  exact join_parseRun run

/-- The bytes counted for a field of a header are those written for it. -/
theorem fieldSize_eq_ofNat {α : Type} {size : α → Nat}
    {write : Option α → List Byte} {value : Option α}
    (absent : write none = []) (present : ∀ value, (write (some value)).length = 1 + size value) :
    fieldSize size value = .ofNat 32 (write value).length := by
  cases value with
  | none =>
      rw [absent]
      rfl
  | some value =>
      rw [present, BitVec.ofNat_add]
      rfl

/-- Around the 32 bits, the bytes counted for a header are the bytes written. -/
theorem byteSize_eq_ofNat (header : WireHeader) :
    header.byteSize = .ofNat 32 header.serializeToString.length := by
  have word (value : BitVec 32) : (writeVarint32ToArray value).length = varintSize32 value := by
    rw [writeVarint32ToArray_eq, varintSize32_eq]
  have id : fieldSize varintSize64 header.id = .ofNat 32 (writeUInt64Field 1 header.id).length := by
    apply fieldSize_eq_ofNat rfl
    intro value
    simp only [writeUInt64Field, Option.elim, List.length_append,
      length_writeTag_of_small (show 1 < 16 by decide), length_writeVarint64ToArray]
  have text : fieldSize stringSize header.text = .ofNat 32 (writeStringField 2 header.text).length := by
    apply fieldSize_eq_ofNat rfl
    intro value
    simp only [writeStringField, Option.elim, List.length_append,
      length_writeTag_of_small (show 2 < 16 by decide), length_writeDelimited, stringSize]
  have number (number : Nat) (small : number < 16) (value : Option (BitVec 32)) :
      fieldSize varintSize32 value = .ofNat 32 (writeUInt32Field number value).length := by
    apply fieldSize_eq_ofNat rfl
    intro value
    simp only [writeUInt32Field, Option.elim, List.length_append, length_writeTag_of_small small, word]
  rw [WireHeader.byteSize, id, text, number 3 (by decide), number 4 (by decide), number 5 (by decide),
    computeUnknownFieldsSize_eq_ofNat]
  simp only [WireHeader.serializeToString, List.length_append, BitVec.ofNat_add, BitVec.add_assoc]

/-- The size computed for a header is the number of bytes written exactly if an
`int` can hold that number. -/
theorem length_serializeToString (header : WireHeader) :
    header.byteSize.toInt = header.serializeToString.length ↔ header.serializeToString.length < 2 ^ 31 := by
  rw [byteSize_eq_ofNat]
  constructor
  · intro counted
    have bound := @BitVec.toInt_lt 32 (.ofNat 32 header.serializeToString.length)
    omega
  · intro small
    rw [BitVec.toInt_eq_toNat_of_lt, BitVec.toNat_ofNat]
    · omega
    · rw [BitVec.toNat_ofNat]
      omega

end Q3df.Rpc
