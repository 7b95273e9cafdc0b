/-
Module: Q3df.Rpc.WireFormat
Layer: Rpc
Purpose: Tags, and the fields a message does not know. An unknown field is kept with its number and
  its kind, a group with everything inside it, at most a hundred groups deep. What is kept is
  written out again so that it is read back the same, in front of any bytes, and its bytes are
  counted before they are written.
Imports: Mathlib.Tactic.IntervalCases, Q3df.Rpc.CodedStream, Q3df.Rpc.CodedOutput, Q3df.Rpc.Frames
Trusted boundary: human-reviewed transcription of
  tools/protobuf/src/google/protobuf/wire_format.{h,cc} and of the tags of wire_format_lite.h, for a
  process with sizes of 32 bits; allocations do not fail
Main exports: WireType, getTagWireType, getTagFieldNumber, makeTag, UnknownField, skipFieldWith,
  skipMessage, CodedInputStream.skipField, serializeUnknownFields, computeUnknownFieldsSize,
  UnknownField.WellFormed, computeUnknownFieldsSize_eq_ofNat, groupReader_skipMessage,
  skipField_eq_of_fuel, skipField_serialize, skipMessage_serialize
Open obligations: none
-/
import Mathlib.Tactic.IntervalCases
import Q3df.Rpc.CodedStream
import Q3df.Rpc.CodedOutput
import Q3df.Rpc.Frames

namespace Q3df.Rpc

/-- `WireFormatLite::WireType`. -/
inductive WireType where
  | varint
  | fixed64
  | lengthDelimited
  | startGroup
  | endGroup
  | fixed32
deriving DecidableEq, Repr

/-- The value of the constant. -/
def WireType.code : WireType → Nat
  | .varint => 0
  | .fixed64 => 1
  | .lengthDelimited => 2
  | .startGroup => 3
  | .endGroup => 4
  | .fixed32 => 5

/-- `GetTagWireType`; `none` for the two values that name no type. -/
def getTagWireType (tag : BitVec 32) : Option WireType :=
  match (tag &&& 7#32).toNat with
  | 0 => some .varint
  | 1 => some .fixed64
  | 2 => some .lengthDelimited
  | 3 => some .startGroup
  | 4 => some .endGroup
  | 5 => some .fixed32
  | _ => none

/-- `GetTagFieldNumber`. -/
def getTagFieldNumber (tag : BitVec 32) : Nat := (tag >>> 3).toNat

/-- `MakeTag`. -/
def makeTag (number : Nat) (type : WireType) : BitVec 32 :=
  BitVec.ofNat 32 number <<< 3 ||| BitVec.ofNat 32 type.code

/-- `UnknownField`, with the set of fields of a group as a list. -/
inductive UnknownField where
  | varint (number : Nat) (value : BitVec 64)
  | fixed64 (number : Nat) (value : BitVec 64)
  | lengthDelimited (number : Nat) (data : StdString)
  | group (number : Nat) (fields : List UnknownField)
  | fixed32 (number : Nat) (value : BitVec 32)

/-!
### Reading

Fields are read from an array with a limit and a depth of nesting. A field that
the program does not know is kept, with its tag.
-/

/-- `default_recursion_limit_`. -/
def recursionLimit : Nat := 100

/-- The number whose bytes these are, the low one first. -/
def littleEndian (bytes : List Byte) : Nat := Nat.ofDigits 256 (bytes.map BitVec.toNat)

/-- `ReadLittleEndian32` and `ReadLittleEndian64`, for a word of so many bytes. -/
def readLittleEndian (w bytes : Nat) (buffer : List Byte) : Option (BitVec w × List Byte) :=
  if bytes ≤ buffer.length then some (BitVec.ofNat w (littleEndian (buffer.take bytes)), buffer.drop bytes)
  else none

/-- `ReadString` of so many bytes. The size is an `int`: one of 2 GiB or more is
negative. -/
def readString (size : BitVec 32) (buffer : List Byte) : Option (StdString × List Byte) :=
  if size.toInt < 0 then none
  else if size.toNat ≤ buffer.length then some (buffer.take size.toNat, buffer.drop size.toNat)
  else none

/-- A number of bytes and that many bytes, as `ReadString` of `WireFormatLite`
and the case of `WIRETYPE_LENGTH_DELIMITED` read them. -/
def readDelimited (buffer : List Byte) : Option (StdString × List Byte) := do
  let (length, buffer) ← readVarint32 buffer
  readString length buffer

/-- `SkipField` with a given way to skip the contents of a group. -/
def skipFieldWith (skipGroup : CodedInputStream → Option (List UnknownField × CodedInputStream))
    (input : CodedInputStream) (tag : BitVec 32) : Option (UnknownField × CodedInputStream) :=
  let number := getTagFieldNumber tag
  match getTagWireType tag with
  | some .varint => do
      let (value, buffer) ← readVarint64 input.buffer
      return (.varint number value, { input with buffer := buffer })
  | some .fixed64 => do
      let (value, buffer) ← readLittleEndian 64 8 input.buffer
      return (.fixed64 number value, { input with buffer := buffer })
  | some .lengthDelimited => do
      let (data, buffer) ← readDelimited input.buffer
      return (.lengthDelimited number data, { input with buffer := buffer })
  | some .startGroup =>
      if input.recursionDepth + 1 ≤ recursionLimit then do
        let (fields, input) ← skipGroup { input with recursionDepth := input.recursionDepth + 1 }
        let input := { input with recursionDepth := input.recursionDepth - 1 }
        if input.lastTag = makeTag number .endGroup then return (.group number fields, input) else none
      else none
  | some .endGroup => none
  | some .fixed32 => do
      let (value, buffer) ← readLittleEndian 32 4 input.buffer
      return (.fixed32 number value, { input with buffer := buffer })
  | none => none

/-- `SkipMessage`, for so many rounds: fields up to the end of the input or of
the group. -/
def skipMessage : Nat → CodedInputStream → Option (List UnknownField × CodedInputStream)
  | 0, _ => none
  | fuel + 1, input =>
      let (tag, input) := input.readTag
      if tag = 0 then some ([], input)
      else if getTagWireType tag = some .endGroup then some ([], input)
      else do
        let (field, input) ← skipFieldWith (skipMessage fuel) input tag
        let (fields, input) ← skipMessage fuel input
        return (field :: fields, input)

/-- `SkipField`. A round takes at least one byte, so there are enough of them. -/
def CodedInputStream.skipField (input : CodedInputStream) (tag : BitVec 32) :
    Option (UnknownField × CodedInputStream) :=
  skipFieldWith (skipMessage (input.buffer.length + 1)) input tag

/-!
### Writing

What was kept is written again in the same form.
-/

/-- `WriteTagToArray` of `WireFormatLite`. -/
def writeTag (number : Nat) (type : WireType) : List Byte := writeTagToArray (makeTag number type)

/-- `WriteLittleEndian32ToArray` and `WriteLittleEndian64ToArray`, for a word of
so many bytes. -/
def writeLittleEndian {w : Nat} (bytes : Nat) (value : BitVec w) : List Byte :=
  (List.range bytes).map fun i => (value >>> (8 * i)).setWidth 8

/-- `WriteStringToArray` and `WriteBytesToArray` of `WireFormatLite`, behind the
tag. -/
def writeDelimited (data : StdString) : List Byte :=
  writeVarint32ToArray (BitVec.ofNat 32 data.length) ++ data

mutual

/-- One turn of the loop of `SerializeUnknownFieldsToArray`. -/
def UnknownField.serialize : UnknownField → List Byte
  | .varint number value => writeTag number .varint ++ writeVarint64ToArray value
  | .fixed32 number value => writeTag number .fixed32 ++ writeLittleEndian 4 value
  | .fixed64 number value => writeTag number .fixed64 ++ writeLittleEndian 8 value
  | .lengthDelimited number data => writeTag number .lengthDelimited ++ writeDelimited data
  | .group number fields =>
      writeTag number .startGroup ++ serializeUnknownFields fields ++ writeTag number .endGroup

/-- `SerializeUnknownFieldsToArray`. -/
def serializeUnknownFields : List UnknownField → List Byte
  | [] => []
  | field :: fields => field.serialize ++ serializeUnknownFields fields

end

/-- `TagSize` of an unknown field. -/
def tagSize (number : Nat) (type : WireType) : Nat := varintSize32 (makeTag number type)

mutual

/-- One turn of the loop of `ComputeUnknownFieldsSize`, where sizes are `int`. -/
def UnknownField.size : UnknownField → BitVec 32
  | .varint number value => .ofNat 32 (tagSize number .varint) + .ofNat 32 (varintSize64 value)
  | .fixed32 number _ => .ofNat 32 (tagSize number .fixed32) + 4
  | .fixed64 number _ => .ofNat 32 (tagSize number .fixed64) + 8
  | .lengthDelimited number data =>
      .ofNat 32 (tagSize number .lengthDelimited) + .ofNat 32 (varintSize32 (.ofNat 32 data.length)) +
        .ofNat 32 data.length
  | .group number fields =>
      .ofNat 32 (tagSize number .startGroup) + computeUnknownFieldsSize fields +
        .ofNat 32 (tagSize number .endGroup)

/-- `ComputeUnknownFieldsSize`. -/
def computeUnknownFieldsSize : List UnknownField → BitVec 32
  | [] => 0
  | field :: fields => field.size + computeUnknownFieldsSize fields

end

mutual

/-- A field that can be read back at this depth: its number fits a tag, its tag
is not 0, its data is below 2 GiB, and its groups do not nest too deep. -/
def UnknownField.WellFormed : Nat → UnknownField → Prop
  | _, .varint number _ => 0 < number ∧ number < 536870912
  | _, .fixed64 number _ => number < 536870912
  | _, .lengthDelimited number data => number < 536870912 ∧ data.length < 2147483648
  | depth, .group number fields =>
      number < 536870912 ∧ depth < recursionLimit ∧ AllWellFormed (depth + 1) fields
  | _, .fixed32 number _ => number < 536870912

/-- Every field of a list can be read back. -/
def AllWellFormed : Nat → List UnknownField → Prop
  | _, [] => True
  | depth, field :: fields => field.WellFormed depth ∧ AllWellFormed depth fields

end

variable {input output : CodedInputStream} {tag : BitVec 32} {rest : List Byte} {fuel : Nat}

/-!
### Tags

A tag is a field's number and its type in one number of 32 bits.
-/

/-- A number below 2^29 and a type are put into a tag without loss. -/
theorem toNat_makeTag {number : Nat} (fits : number < 536870912) (type : WireType) :
    (makeTag number type).toNat = 8 * number + type.code := by
  have small : type.code < 2 ^ 3 := by cases type <;> decide
  have sum := @Varint.ofNat_accumulate 32 type.code number 3 small
  rw [makeTag, BitVec.or_comm, sum, BitVec.toNat_ofNat]
  omega

/-- The number is read back from the tag. -/
theorem getTagFieldNumber_makeTag {number : Nat} (fits : number < 536870912) (type : WireType) :
    getTagFieldNumber (makeTag number type) = number := by
  have small : type.code < 8 := by cases type <;> decide
  rw [getTagFieldNumber, BitVec.toNat_ushiftRight, toNat_makeTag fits, Nat.shiftRight_eq_div_pow]
  omega

theorem toNat_and_seven (tag : BitVec 32) : (tag &&& 7#32).toNat = tag.toNat % 8 := by
  rw [BitVec.toNat_and]
  exact Nat.and_two_pow_sub_one_eq_mod tag.toNat 3

/-- The type is read back from the tag. -/
theorem getTagWireType_makeTag {number : Nat} (fits : number < 536870912) (type : WireType) :
    getTagWireType (makeTag number type) = some type := by
  have code : (makeTag number type &&& 7#32).toNat = type.code := by
    have small : type.code < 8 := by cases type <;> decide
    rw [toNat_and_seven, toNat_makeTag fits]
    omega
  rw [getTagWireType, code]
  cases type <;> rfl

/-- The type a tag shows is the one its low bits encode. -/
theorem code_of_getTagWireType {type : WireType} (shown : getTagWireType tag = some type) :
    tag.toNat % 8 = type.code := by
  have below : tag.toNat % 8 < 8 := Nat.mod_lt _ (by decide)
  rw [getTagWireType, toNat_and_seven] at shown
  interval_cases tag.toNat % 8 <;> cases shown <;> rfl

/-- A tag is made up of the number and the type it shows. -/
theorem makeTag_of_shown {type : WireType} (shown : getTagWireType tag = some type) :
    makeTag (getTagFieldNumber tag) type = tag := by
  have bound := tag.isLt
  have code := code_of_getTagWireType shown
  have number : getTagFieldNumber tag = tag.toNat / 8 := by
    rw [getTagFieldNumber, BitVec.toNat_ushiftRight, Nat.shiftRight_eq_div_pow]
  apply BitVec.eq_of_toNat_eq
  rw [toNat_makeTag (by omega), number]
  omega

theorem getTagFieldNumber_lt (tag : BitVec 32) : getTagFieldNumber tag < 536870912 := by
  have bound := tag.isLt
  rw [getTagFieldNumber, BitVec.toNat_ushiftRight, Nat.shiftRight_eq_div_pow]
  omega

theorem makeTag_ne_zero {number : Nat} {type : WireType} (fits : number < 536870912)
    (some_ : 0 < number ∨ 0 < type.code) : makeTag number type ≠ 0 := by
  intro zero
  have value := toNat_makeTag fits type
  rw [zero] at value
  simp at value
  omega

theorem length_writeTagToArray_pos (tag : BitVec 32) : 0 < (writeTagToArray tag).length := by
  rw [writeTagToArray_eq]
  exact Varint.length_encode_pos _

/-- A tag that was written is read, in front of any bytes. -/
theorem readTag_write (arrived : input.buffer = writeTagToArray tag ++ rest) :
    input.readTag = (tag, { input with buffer := rest, lastTag := tag }) := by
  have nonempty : input.buffer ≠ [] := by
    rw [arrived]
    intro empty
    have none_ := (List.append_eq_nil_iff.mp empty).1
    have positive := length_writeTagToArray_pos tag
    rw [none_] at positive
    cases positive
  have found : Varint.groupWithin 10 input.buffer = some (Varint.encode tag.toNat, rest) := by
    rw [arrived, writeTagToArray_eq]
    exact Varint.groupWithin_encode_append (Nat.lt_of_lt_of_le tag.isLt (by decide)) rest
  rw [readTag_eq, if_neg nonempty, found]
  simp only [Varint.value_encode, BitVec.ofNat_toNat, BitVec.setWidth_eq]

/-!
### Values

Each kind of value is read back from what the writer writes.
-/

/-- A number of 64 bits is read back. -/
theorem readVarint64_write (value : BitVec 64) (rest : List Byte) :
    readVarint64 (writeVarint64ToArray value ++ rest) = some (value, rest) := by
  have found := @Varint.groupWithin_encode_append value.toNat 9
      (Nat.lt_of_lt_of_le value.isLt (by decide)) rest
  rw [readVarint64_eq, writeVarint64ToArray_eq, found]
  simp only [Option.map_some, Varint.value_encode, BitVec.ofNat_toNat, BitVec.setWidth_eq]

theorem readVarint32_write (value : BitVec 32) (rest : List Byte) :
    readVarint32 (writeVarint32ToArray value ++ rest) = some (value, rest) := by
  have found := @Varint.groupWithin_encode_append value.toNat 9
      (Nat.lt_of_lt_of_le value.isLt (by decide)) rest
  rw [readVarint32_eq, writeVarint32ToArray_eq, found]
  simp only [Option.map_some, Varint.value_encode, BitVec.ofNat_toNat, BitVec.setWidth_eq]

/-- A string below 2^31 bytes is read back. -/
theorem readDelimited_write {data : StdString} (small : data.length < 2147483648) (rest : List Byte) :
    readDelimited (writeDelimited data ++ rest) = some (data, rest) := by
  have size : (BitVec.ofNat 32 data.length).toNat = data.length := by
    rw [BitVec.toNat_ofNat]
    exact Nat.mod_eq_of_lt (by omega)
  have positive : ¬(BitVec.ofNat 32 data.length).toInt < 0 := by
    have value := asInt_of_lt small
    rw [asInt] at value
    omega
  rw [readDelimited, writeDelimited, List.append_assoc, readVarint32_write]
  simp [readString, size, positive]

theorem ofDigits_range (v bytes : Nat) :
    Nat.ofDigits 256 ((List.range bytes).map fun i => v / 256 ^ i % 256) = v % 256 ^ bytes := by
  induction bytes with
  | zero => simp [Nat.mod_one]
  | succ bytes inductionHypothesis =>
      rw [List.range_succ, List.map_append, Nat.ofDigits_append, inductionHypothesis, List.length_map,
        List.length_range, List.map_singleton, Nat.ofDigits_singleton, Nat.pow_succ, Nat.mod_mul]

theorem littleEndian_write {w : Nat} (bytes : Nat) (value : BitVec w) :
    littleEndian (writeLittleEndian bytes value) = value.toNat % 256 ^ bytes := by
  have digits : (writeLittleEndian bytes value).map BitVec.toNat =
      (List.range bytes).map fun i => value.toNat / 256 ^ i % 256 := by
    rw [writeLittleEndian, List.map_map]
    apply List.map_congr_left
    intro i _
    simp only [Function.comp_apply, BitVec.toNat_setWidth, BitVec.toNat_ushiftRight,
      Nat.shiftRight_eq_div_pow,
      Nat.pow_mul]
  rw [littleEndian, digits, ofDigits_range]

/-- A number of fixed width is read back. -/
theorem readLittleEndian_write {w : Nat} {bytes : Nat} (wide : 2 ^ w = 256 ^ bytes) (value : BitVec w)
    (rest : List Byte) :
    readLittleEndian w bytes (writeLittleEndian bytes value ++ rest) = some (value, rest) := by
  have length : (writeLittleEndian bytes value).length = bytes := by
    rw [writeLittleEndian, List.length_map, List.length_range]
  have whole : value.toNat % 256 ^ bytes = value.toNat := by
    rw [← wide]
    exact Nat.mod_eq_of_lt value.isLt
  rw [readLittleEndian, if_pos (by rw [List.length_append, length]; omega), List.take_left' length,
    List.drop_left' length, littleEndian_write, whole, BitVec.ofNat_toNat, BitVec.setWidth_eq]

/-- A number that is written is read back in front of any bytes, takes the bytes
counted for it, and no other bytes that are read as this number are fewer. -/
theorem written_varint64 (value : BitVec 64) :
    (∀ rest, readVarint64 (writeVarint64ToArray value ++ rest) = some (value, rest)) ∧
      (writeVarint64ToArray value).length = varintSize64 value ∧
      ∀ bytes, readVarint64 bytes = some (value, []) → varintSize64 value ≤ bytes.length := by
  refine ⟨?_, ?_, ?_⟩
  · intro rest
    exact readVarint64_write value rest
  · rw [writeVarint64ToArray_eq, varintSize64_eq]
  · intro bytes read
    rw [readVarint64_eq] at read
    obtain ⟨⟨group, rest⟩, found, same⟩ := Option.map_eq_some_iff.mp read
    cases same
    obtain ⟨isGroup, _, rfl⟩ := Varint.groupWithin_eq_some.mp found
    have shortest := Varint.length_encode_le_of_value isGroup (Nat.mod_le _ (2 ^ 64))
    rw [varintSize64_eq, BitVec.toNat_ofNat, List.append_nil]
    exact shortest

/-!
### Bytes counted before they are written

Sizes are added up in 32 bits. Below 2^31 they are the lengths of what is written.
-/

/-- The size counted for a tag is its length. -/
theorem length_writeTag (number : Nat) (type : WireType) :
    (writeTag number type).length = tagSize number type := by
  rw [writeTag, writeTagToArray_eq, tagSize, varintSize32_eq]

/-- A string takes its length and the bytes that announce it. -/
theorem length_writeDelimited (data : StdString) :
    (writeDelimited data).length = varintSize32 (BitVec.ofNat 32 data.length) + data.length := by
  rw [writeDelimited, List.length_append, writeVarint32ToArray_eq, varintSize32_eq]

theorem length_writeVarint64ToArray (value : BitVec 64) :
    (writeVarint64ToArray value).length = varintSize64 value := by
  rw [writeVarint64ToArray_eq, varintSize64_eq]

theorem length_writeLittleEndian {w : Nat} (bytes : Nat) (value : BitVec w) :
    (writeLittleEndian bytes value).length = bytes := by
  rw [writeLittleEndian, List.length_map, List.length_range]

mutual

/-- The bytes counted for a field are the bytes written, as far as an `int` can
count. -/
theorem size_eq_ofNat : ∀ field : UnknownField, field.size = .ofNat 32 field.serialize.length
  | .varint number value => by
      rw [UnknownField.serialize, UnknownField.size, List.length_append, length_writeTag,
        length_writeVarint64ToArray, BitVec.ofNat_add]
  | .fixed32 number value => by
      rw [UnknownField.serialize, UnknownField.size, List.length_append, length_writeTag,
        length_writeLittleEndian, BitVec.ofNat_add]
      rfl
  | .fixed64 number value => by
      rw [UnknownField.serialize, UnknownField.size, List.length_append, length_writeTag,
        length_writeLittleEndian, BitVec.ofNat_add]
      rfl
  | .lengthDelimited number data => by
      rw [UnknownField.serialize, UnknownField.size, List.length_append, length_writeTag,
        length_writeDelimited, ← Nat.add_assoc, BitVec.ofNat_add, BitVec.ofNat_add]
  | .group number fields => by
      rw [UnknownField.serialize, UnknownField.size, List.length_append, List.length_append, length_writeTag,
        length_writeTag, computeUnknownFieldsSize_eq_ofNat fields, BitVec.ofNat_add, BitVec.ofNat_add]

/-- The bytes counted are the bytes written: the buffer that was made for them
is filled exactly, as long as an `int` can count them. -/
theorem computeUnknownFieldsSize_eq_ofNat : ∀ fields : List UnknownField,
    computeUnknownFieldsSize fields = .ofNat 32 (serializeUnknownFields fields).length
  | [] => rfl
  | field :: fields => by
      rw [serializeUnknownFields, computeUnknownFieldsSize, List.length_append, size_eq_ofNat field,
        computeUnknownFieldsSize_eq_ofNat fields, BitVec.ofNat_add]

end

/-!
### What a reader leaves

A reader takes at least as many bytes as its value needs when it is written.
-/

/-- The tag a field is written with. -/
def UnknownField.startTag : UnknownField → BitVec 32
  | .varint number _ => makeTag number .varint
  | .fixed64 number _ => makeTag number .fixed64
  | .lengthDelimited number _ => makeTag number .lengthDelimited
  | .group number _ => makeTag number .startGroup
  | .fixed32 number _ => makeTag number .fixed32

/-- What is written behind the tag. -/
def UnknownField.body : UnknownField → List Byte
  | .varint _ value => writeVarint64ToArray value
  | .fixed32 _ value => writeLittleEndian 4 value
  | .fixed64 _ value => writeLittleEndian 8 value
  | .lengthDelimited _ data => writeDelimited data
  | .group number fields => serializeUnknownFields fields ++ writeTag number .endGroup

theorem serialize_eq (field : UnknownField) :
    field.serialize = writeTagToArray field.startTag ++ field.body := by
  cases field with
  | group number fields =>
      rw [UnknownField.serialize, UnknownField.startTag, UnknownField.body, writeTag, List.append_assoc]
  | _ => rfl

/-- The bytes of a tag, of which 0 stands for none. -/
def tagLength (tag : BitVec 32) : Nat := if tag = 0 then 0 else (writeTagToArray tag).length

/-- Reading a tag takes at least as many bytes as writing it, and changes
neither depth nor size. -/
theorem readTag_spec (read : input.readTag = (tag, output)) :
    output.lastTag = tag ∧ output.recursionDepth = input.recursionDepth ∧ output.size = input.size ∧
      tagLength tag + output.buffer.length ≤ input.buffer.length := by
  rw [readTag_eq] at read
  split_ifs at read with atEnd
  · cases read
    exact ⟨rfl, rfl, rfl, by simp [tagLength]⟩
  · cases found : Varint.groupWithin 10 input.buffer with
    | none =>
        rw [found] at read
        cases read
        exact ⟨rfl, rfl, rfl, by simp [tagLength]⟩
    | some parts =>
        obtain ⟨group, rest⟩ := parts
        rw [found] at read
        cases read
        obtain ⟨isGroup, _, same⟩ := Varint.groupWithin_eq_some.mp found
        refine ⟨rfl, rfl, rfl, ?_⟩
        have shortest := Varint.length_encode_le_of_value isGroup (Nat.mod_le _ (2 ^ 32))
        rw [same, List.length_append, tagLength, writeTagToArray_eq, BitVec.toNat_ofNat]
        split_ifs
        · exact Nat.add_le_add_right (Nat.zero_le _) _
        · exact Nat.add_le_add_right shortest _

theorem readTag_shortens (read : input.readTag = (tag, output)) (some_ : tag ≠ 0) :
    output.buffer.length < input.buffer.length := by
  have taken := (readTag_spec read).2.2.2
  have positive := length_writeTagToArray_pos tag
  rw [tagLength, if_neg some_] at taken
  omega

/-- Reading a number takes at least as many bytes as its shortest encoding. -/
theorem readVarint64_spec {value : BitVec 64} {buffer rest : List Byte}
    (read : readVarint64 buffer = some (value, rest)) :
    (writeVarint64ToArray value).length + rest.length ≤ buffer.length := by
  rw [readVarint64_eq] at read
  obtain ⟨⟨group, left⟩, found, same⟩ := Option.map_eq_some_iff.mp read
  cases same
  obtain ⟨isGroup, _, same⟩ := Varint.groupWithin_eq_some.mp found
  have shortest := Varint.length_encode_le_of_value isGroup (Nat.mod_le _ (2 ^ 64))
  rw [same, List.length_append, writeVarint64ToArray_eq, BitVec.toNat_ofNat]
  omega

theorem readVarint32_spec {value : BitVec 32} {buffer rest : List Byte}
    (read : readVarint32 buffer = some (value, rest)) :
    (writeVarint32ToArray value).length + rest.length ≤ buffer.length := by
  rw [readVarint32_eq] at read
  obtain ⟨⟨group, left⟩, found, same⟩ := Option.map_eq_some_iff.mp read
  cases same
  obtain ⟨isGroup, _, same⟩ := Varint.groupWithin_eq_some.mp found
  have shortest := Varint.length_encode_le_of_value isGroup (Nat.mod_le _ (2 ^ 32))
  rw [same, List.length_append, writeVarint32ToArray_eq, BitVec.toNat_ofNat]
  omega

theorem readLittleEndian_spec {w bytes : Nat} {value : BitVec w} {buffer rest : List Byte}
    (read : readLittleEndian w bytes buffer = some (value, rest)) : bytes + rest.length = buffer.length := by
  rw [readLittleEndian] at read
  obtain ⟨inside, same⟩ := Option.ite_none_right_eq_some.mp read
  cases same
  rw [List.length_drop]
  omega

/-- A string has the length it was announced with, which is below 2 GiB. -/
theorem readString_spec {size : BitVec 32} {data : StdString} {buffer rest : List Byte}
    (read : readString size buffer = some (data, rest)) :
    buffer = data ++ rest ∧ data.length = size.toNat ∧ data.length < 2147483648 := by
  rw [readString] at read
  split_ifs at read with negative inside
  cases read
  refine ⟨(List.take_append_drop _ _).symm, ?_⟩
  rw [List.length_take, Nat.min_eq_left inside]
  rw [BitVec.toInt_eq_toNat_cond] at negative
  split_ifs at negative <;> omega

/-- Reading a string takes at least as many bytes as writing it. -/
theorem readDelimited_spec {data : StdString} {buffer rest : List Byte}
    (read : readDelimited buffer = some (data, rest)) :
    (writeDelimited data).length + rest.length ≤ buffer.length ∧ data.length < 2147483648 := by
  obtain ⟨⟨size, behind⟩, number, string⟩ := Option.bind_eq_some_iff.mp read
  obtain ⟨same, announced, small⟩ := readString_spec string
  have taken := readVarint32_spec number
  refine ⟨?_, small⟩
  rw [same, List.length_append] at taken
  rw [writeDelimited, List.length_append, announced, BitVec.ofNat_toNat, BitVec.setWidth_eq]
  omega

/-- What a way to skip groups must do for the rest of the reader: take the bytes
of what it keeps and of the tag it ended with, stay at the same depth of the
same array, and keep fields that can be read back. -/
def GroupReader (skipGroup : CodedInputStream → Option (List UnknownField × CodedInputStream)) : Prop :=
  ∀ {input output : CodedInputStream} {fields : List UnknownField},
    skipGroup input = some (fields, output) →
    (serializeUnknownFields fields).length + tagLength output.lastTag + output.buffer.length ≤
        input.buffer.length ∧
      output.recursionDepth = input.recursionDepth ∧ output.size = input.size ∧
      AllWellFormed input.recursionDepth fields

/-- What is true of a field that was skipped. -/
theorem skipFieldWith_spec {skipGroup : CodedInputStream → Option (List UnknownField × CodedInputStream)}
    (groups : GroupReader skipGroup) {field : UnknownField} (some_ : tag ≠ 0)
    (skipped : skipFieldWith skipGroup input tag = some (field, output)) :
    field.startTag = tag ∧ field.body.length + output.buffer.length ≤ input.buffer.length ∧
      output.recursionDepth = input.recursionDepth ∧ output.size = input.size ∧
      field.WellFormed input.recursionDepth := by
  have fits := getTagFieldNumber_lt tag
  rw [skipFieldWith] at skipped
  cases shown : getTagWireType tag with
  | none =>
      rw [shown] at skipped
      cases skipped
  | some type =>
      have whole := makeTag_of_shown shown
      rw [shown] at skipped
      cases type with
      | varint =>
          obtain ⟨⟨value, rest⟩, read, same⟩ := Option.bind_eq_some_iff.mp skipped
          cases same
          refine ⟨whole, readVarint64_spec read, rfl, rfl, ?_, fits⟩
          apply Nat.pos_of_ne_zero
          intro zero
          apply some_
          rw [← whole, zero]
          rfl
      | fixed64 =>
          obtain ⟨⟨value, rest⟩, read, same⟩ := Option.bind_eq_some_iff.mp skipped
          cases same
          have taken := readLittleEndian_spec read
          refine ⟨whole, ?_, rfl, rfl, fits⟩
          rw [UnknownField.body, length_writeLittleEndian]
          exact Nat.le_of_eq taken
      | lengthDelimited =>
          obtain ⟨⟨data, rest⟩, read, same⟩ := Option.bind_eq_some_iff.mp skipped
          cases same
          obtain ⟨taken, small⟩ := readDelimited_spec read
          exact ⟨whole, taken, rfl, rfl, fits, small⟩
      | startGroup =>
          simp only [] at skipped
          split_ifs at skipped with deeper
          obtain ⟨⟨fields, inner⟩, read, closed⟩ := Option.bind_eq_some_iff.mp skipped
          obtain ⟨taken, depth, size, wellFormed⟩ := groups read
          simp only [] at closed
          split_ifs at closed with ended
          cases closed
          refine ⟨whole, ?_, ?_, size, fits, deeper, wellFormed⟩
          · have notZero : makeTag (getTagFieldNumber tag) .endGroup ≠ 0 :=
              makeTag_ne_zero fits (Or.inr (by decide))
            rw [ended, tagLength, if_neg notZero] at taken
            rw [UnknownField.body, List.length_append, writeTag]
            exact taken
          · show inner.recursionDepth - 1 = input.recursionDepth
            rw [depth]
            rfl
      | endGroup => cases skipped
      | fixed32 =>
          obtain ⟨⟨value, rest⟩, read, same⟩ := Option.bind_eq_some_iff.mp skipped
          cases same
          have taken := readLittleEndian_spec read
          refine ⟨whole, ?_, rfl, rfl, fits⟩
          rw [UnknownField.body, length_writeLittleEndian]
          exact Nat.le_of_eq taken

/-- Everything `SkipMessage` keeps can be read back, and takes no more bytes
than it took. -/
theorem groupReader_skipMessage (fuel : Nat) : GroupReader (skipMessage fuel) := by
  induction fuel with
  | zero =>
      intro input output fields skipped
      cases skipped
  | succ fuel inductionHypothesis =>
      intro input output fields skipped
      cases read : input.readTag with
      | mk tag behind =>
          obtain ⟨last, depth, size, taken⟩ := readTag_spec read
          simp only [skipMessage, read] at skipped
          split_ifs at skipped with zero closes
          · cases skipped
            refine ⟨?_, depth, size, trivial⟩
            rw [last, serializeUnknownFields, List.length_nil, Nat.zero_add]
            exact taken
          · cases skipped
            refine ⟨?_, depth, size, trivial⟩
            rw [last, serializeUnknownFields, List.length_nil, Nat.zero_add]
            exact taken
          · obtain ⟨⟨field, between⟩, first, others⟩ := Option.bind_eq_some_iff.mp skipped
            obtain ⟨⟨tail, after⟩, later, same⟩ := Option.bind_eq_some_iff.mp others
            cases same
            obtain ⟨startTag, firstTaken, firstDepth, firstSize, wellFormed⟩ :=
              skipFieldWith_spec inductionHypothesis zero first
            obtain ⟨laterTaken, laterDepth, laterSize, allWellFormed⟩ := inductionHypothesis later
            rw [firstDepth, depth] at laterDepth allWellFormed
            rw [depth] at wellFormed
            rw [tagLength, if_neg zero] at taken
            refine ⟨?_, laterDepth, laterSize.trans (firstSize.trans size), wellFormed, allWellFormed⟩
            rw [serializeUnknownFields, serialize_eq, startTag, List.length_append, List.length_append]
            simp only [] at laterTaken ⊢
            omega

/-!
### Enough rounds

The recursion over groups is bounded by a number of rounds. One round for each
byte is enough, and more rounds change nothing.
-/

/-- Two ways to skip groups that agree on what is left of the input skip a field
alike. -/
theorem skipFieldWith_congr {skipGroup skipGroup' : CodedInputStream →
    Option (List UnknownField × CodedInputStream)}
    (same : ∀ inner : CodedInputStream, inner.buffer.length ≤ input.buffer.length →
      skipGroup inner = skipGroup' inner) :
    skipFieldWith skipGroup input tag = skipFieldWith skipGroup' input tag := by
  have inner := same { input with recursionDepth := input.recursionDepth + 1 } (Nat.le_refl _)
  simp only [skipFieldWith, inner]

/-- Any number of rounds above the number of bytes left gives the same. -/
theorem skipMessage_fuel {more : Nat} (enough : input.buffer.length < fuel)
    (enough' : input.buffer.length < more) :
    skipMessage fuel input = skipMessage more input := by
  induction fuel generalizing more input with
  | zero => omega
  | succ fuel inductionHypothesis =>
      cases more with
      | zero => omega
      | succ more =>
          cases read : input.readTag with
          | mk tag behind =>
              simp only [skipMessage, read]
              split_ifs with zero closes
              · rfl
              · rfl
              · have shorter := readTag_shortens read zero
                have field : skipFieldWith (skipMessage fuel) behind tag =
                    skipFieldWith (skipMessage more) behind tag :=
                  skipFieldWith_congr fun inner short => inductionHypothesis (by omega) (by omega)
                rw [field]
                apply Option.bind_congr
                rintro ⟨first, between⟩ skipped
                have left := (skipFieldWith_spec (groupReader_skipMessage more) zero skipped).2.1
                simp only [inductionHypothesis (show between.buffer.length < fuel by omega)
                  (show between.buffer.length < more by omega)]

/-- The source skips a group without counting its rounds. The rounds that
`skipField` allows are enough: with any larger number it does the same. -/
theorem skipField_eq_of_fuel (enough : input.buffer.length < fuel) :
    input.skipField tag = skipFieldWith (skipMessage fuel) input tag :=
  skipFieldWith_congr fun _ short =>
    skipMessage_fuel (Nat.lt_succ_of_le short) (Nat.lt_of_le_of_lt short enough)

/-!
### Reading back what was kept

What was kept of unknown fields is written and read to the same fields, groups
within groups included.
-/

/-- The tag of a field that can be read back ends neither the message nor a
group. -/
theorem startTag_of_wellFormed {depth : Nat} {field : UnknownField} (wellFormed : field.WellFormed depth) :
    field.startTag ≠ 0 ∧ getTagWireType field.startTag ≠ some .endGroup := by
  cases field with
  | varint number value =>
      refine ⟨makeTag_ne_zero wellFormed.2 (Or.inl wellFormed.1), ?_⟩
      rw [UnknownField.startTag, getTagWireType_makeTag wellFormed.2]
      decide
  | fixed64 number value =>
      refine ⟨makeTag_ne_zero wellFormed (Or.inr (by decide)), ?_⟩
      rw [UnknownField.startTag, getTagWireType_makeTag wellFormed]
      decide
  | lengthDelimited number data =>
      refine ⟨makeTag_ne_zero wellFormed.1 (Or.inr (by decide)), ?_⟩
      rw [UnknownField.startTag, getTagWireType_makeTag wellFormed.1]
      decide
  | group number fields =>
      refine ⟨makeTag_ne_zero wellFormed.1 (Or.inr (by decide)), ?_⟩
      rw [UnknownField.startTag, getTagWireType_makeTag wellFormed.1]
      decide
  | fixed32 number value =>
      refine ⟨makeTag_ne_zero wellFormed (Or.inr (by decide)), ?_⟩
      rw [UnknownField.startTag, getTagWireType_makeTag wellFormed]
      decide

mutual

/-- A field that was written is skipped and kept, in front of any bytes. -/
theorem skipField_serialize : ∀ {field : UnknownField} {input : CodedInputStream}
    {rest : List Byte} {fuel : Nat},
    field.WellFormed input.recursionDepth → input.buffer = field.body ++ rest →
      input.buffer.length < fuel →
      ∃ last, skipFieldWith (skipMessage fuel) input field.startTag =
        some (field, { input with buffer := rest, lastTag := last })
  | .varint number value, input, rest, fuel, wellFormed, arrived, _ => by
      refine ⟨input.lastTag, ?_⟩
      simp only [skipFieldWith, UnknownField.startTag, getTagWireType_makeTag wellFormed.2,
        getTagFieldNumber_makeTag wellFormed.2, arrived, UnknownField.body, readVarint64_write]
      rfl
  | .fixed32 number value, input, rest, fuel, wellFormed, arrived, _ => by
      refine ⟨input.lastTag, ?_⟩
      simp only [skipFieldWith, UnknownField.startTag, getTagWireType_makeTag wellFormed,
        getTagFieldNumber_makeTag wellFormed, arrived, UnknownField.body,
        readLittleEndian_write (by decide : 2 ^ 32 = 256 ^ 4)]
      rfl
  | .fixed64 number value, input, rest, fuel, wellFormed, arrived, _ => by
      refine ⟨input.lastTag, ?_⟩
      simp only [skipFieldWith, UnknownField.startTag, getTagWireType_makeTag wellFormed,
        getTagFieldNumber_makeTag wellFormed, arrived, UnknownField.body,
        readLittleEndian_write (by decide : 2 ^ 64 = 256 ^ 8)]
      rfl
  | .lengthDelimited number data, input, rest, fuel, wellFormed, arrived, _ => by
      refine ⟨input.lastTag, ?_⟩
      simp only [skipFieldWith, UnknownField.startTag, getTagWireType_makeTag wellFormed.1,
        getTagFieldNumber_makeTag wellFormed.1, arrived, UnknownField.body, readDelimited_write wellFormed.2]
      rfl
  | .group number fields, input, rest, fuel, wellFormed, arrived, enough => by
      obtain ⟨fits, deeper, inside⟩ := wellFormed
      rw [UnknownField.body, List.append_assoc] at arrived
      have contents := @skipMessage_serialize fields
        { input with recursionDepth := input.recursionDepth + 1 } rest number fuel fits inside arrived enough
      refine ⟨makeTag number .endGroup, ?_⟩
      simp only [skipFieldWith, UnknownField.startTag, getTagWireType_makeTag fits,
        getTagFieldNumber_makeTag fits]
      rw [if_pos (Nat.succ_le_of_lt deeper), contents]
      simp

/-- What is written between the tags of a group is kept as the fields of the
group. -/
theorem skipMessage_serialize : ∀ {fields : List UnknownField} {input : CodedInputStream} {rest : List Byte}
    {number fuel : Nat}, number < 536870912 → AllWellFormed input.recursionDepth fields →
      input.buffer = serializeUnknownFields fields ++ (writeTag number .endGroup ++ rest) →
        input.buffer.length < fuel →
          skipMessage fuel input =
            some (fields, { input with buffer := rest, lastTag := makeTag number .endGroup })
  | _, input, rest, number, 0, _, _, _, enough => absurd enough (Nat.not_lt_zero _)
  | [], input, rest, number, fuel + 1, fits, _, arrived, _ => by
      have read := @readTag_write input (makeTag number .endGroup) rest arrived
      have some_ : makeTag number .endGroup ≠ 0 := makeTag_ne_zero fits (Or.inr (by decide))
      simp only [skipMessage, read, if_neg some_, getTagWireType_makeTag fits, if_true]
  | field :: fields, input, rest, number, fuel + 1, fits, wellFormed, arrived, enough => by
      obtain ⟨some_, inner⟩ := startTag_of_wellFormed wellFormed.1
      rw [serializeUnknownFields, serialize_eq, List.append_assoc, List.append_assoc] at arrived
      have read := readTag_write arrived
      have shorter := readTag_shortens read some_
      obtain ⟨last, skipped⟩ := @skipField_serialize field
        { input with
          buffer := field.body ++ (serializeUnknownFields fields ++ (writeTag number .endGroup ++ rest))
          lastTag := field.startTag }
        _ fuel wellFormed.1 rfl (by omega)
      have others := @skipMessage_serialize fields
        { input with
          buffer := serializeUnknownFields fields ++ (writeTag number .endGroup ++ rest)
          lastTag := last }
        rest number fuel fits wellFormed.2 rfl (by simp at shorter ⊢; omega)
      simp only [skipMessage, read, if_neg some_, if_neg inner, skipped, bind, Option.bind, others, pure]

end

end Q3df.Rpc
