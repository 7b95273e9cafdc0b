/-
Module: Q3df.Rpc.CodedStream
Layer: Rpc
Purpose: Reading numbers out of a message that lies in one array. The source has unrolled readers,
  guarded by a look at the bytes that are left, and slow readers behind them. The unrolled ones
  never leave the array when the guard holds, and both give the first group within ten bytes; so
  does the reader of tags.
Imports: Q3df.Library.Varint, Q3df.Rpc.Conn
Trusted boundary: human-reviewed transcription of the input half of
  tools/protobuf/src/google/protobuf/io/coded_stream.{h,cc}, for an input that is one array;
  allocations do not fail
Main exports: CodedInputStream, FastRead, readVarint32FromArray, readVarint64FromArray,
  readVarint64Slow, readVarint32, readVarint64, CodedInputStream.readTag, readVarint64FromArray_eq,
  readVarint32FromArray_eq, readVarint64_eq, readVarint32_eq, readTag_eq, readVarint_eq_slow
Open obligations: none
-/
import Q3df.Library.Varint
import Q3df.Rpc.Conn

namespace Q3df.Rpc

/-- A `CodedInputStream` over one array: the bytes from `buffer_` to
`buffer_end_`, the size of the array (as `total_bytes_read_` and
`current_limit_` hold it), the last tag, whether the message ended where one may
end, and the depth of nested groups. -/
structure CodedInputStream where
  buffer : List Byte
  size : Nat
  lastTag : BitVec 32
  legitimateMessageEnd : Bool
  recursionDepth : Nat
deriving DecidableEq, Repr

/-- The constructor for an array. -/
def CodedInputStream.ofArray (data : List Byte) : CodedInputStream :=
  { buffer := data, size := data.length, lastTag := 0, legitimateMessageEnd := false, recursionDepth := 0 }

/-- `kDefaultTotalBytesLimit`. -/
def totalBytesLimit : Nat := 64 * 1048576

/-!
### The unrolled readers

Reading without a loop and without looking at the end of the array. A number is
put together from three parts of 28, 28 and 8 bits.
-/

/-- What an unrolled reader does: it reads behind the array, ends with a value
and a pointer, or finds more bytes than a number may have. -/
inductive FastRead (α : Type) where
  | overrun
  | done (value : α) (ptr : List Byte)
  | corrupt
deriving DecidableEq, Repr

/-- A few lines `b = *(ptr++); part |= (b & 0x7F) << shift; if (!(b & 0x80))
goto done;`, one for each shift: where they end, or the part and the pointer
behind the last of them. -/
def readPart : List Nat → List Byte → BitVec 32 → FastRead (BitVec 32) ⊕ (BitVec 32 × List Byte)
  | [], ptr, part => .inr (part, ptr)
  | _ :: _, [], _ => .inl .overrun
  | shift :: shifts, b :: ptr, part =>
      let part := part ||| (b &&& 0x7f#8).setWidth 32 <<< shift
      if b &&& 0x80#8 = 0 then .inl (.done part ptr) else readPart shifts ptr part

/-- The loop that discards what a number of 32 bits has beyond its fifth byte. -/
def discardRest : Nat → List Byte → BitVec 32 → FastRead (BitVec 32)
  | 0, _, _ => .corrupt
  | _ + 1, [], _ => .overrun
  | rounds + 1, b :: ptr, result =>
      if b &&& 0x80#8 = 0 then .done result ptr else discardRest rounds ptr result

/-- `ReadVarint32FromArray`. -/
def readVarint32FromArray (buffer : List Byte) : FastRead (BitVec 32) :=
  match readPart [0, 7, 14, 21] buffer 0 with
  | .inl ended => ended
  | .inr (_, []) => .overrun
  | .inr (result, b :: ptr) =>
      let result := result ||| b.setWidth 32 <<< 28
      if b &&& 0x80#8 = 0 then .done result ptr else discardRest 5 ptr result

/-- `done:` of `ReadVarint64Fallback`. -/
def assemble (part0 part1 part2 : BitVec 32) : BitVec 64 :=
  part0.setWidth 64 ||| part1.setWidth 64 <<< 28 ||| part2.setWidth 64 <<< 56

/-- The value a part ends the number with. -/
def FastRead.map {α β : Type} (f : α → β) : FastRead α → FastRead β
  | .overrun => .overrun
  | .done value ptr => .done (f value) ptr
  | .corrupt => .corrupt

/-- The fast path of `ReadVarint64Fallback`. -/
def readVarint64FromArray (buffer : List Byte) : FastRead (BitVec 64) :=
  match readPart [0, 7, 14, 21] buffer 0 with
  | .inl ended => ended.map fun part0 => assemble part0 0 0
  | .inr (part0, ptr) =>
      match readPart [0, 7, 14, 21] ptr 0 with
      | .inl ended => ended.map fun part1 => assemble part0 part1 0
      | .inr (part1, ptr) =>
          match readPart [0, 7] ptr 0 with
          | .inl ended => ended.map fun part2 => assemble part0 part1 part2
          | .inr _ => .corrupt

/-!
### The guarded readers

The readers a caller uses. They take the unrolled path only where the array is
long enough, or ends with the end of a number.
-/

/-- The loop of `ReadVarint64Slow` from a count on; `none` for false. -/
def readVarint64SlowLoop : Nat → List Byte → BitVec 64 → Nat → Option (BitVec 64 × List Byte)
  | 0, _, _, _ => none
  | rounds + 1, buffer, result, count =>
      match buffer with
      | [] => none
      | b :: buffer =>
          let result := result ||| (b &&& 0x7f#8).setWidth 64 <<< (7 * count)
          if b &&& 0x80#8 = 0 then some (result, buffer)
          else readVarint64SlowLoop rounds buffer result (count + 1)

/-- `ReadVarint64Slow`, with `kMaxVarintBytes` rounds. -/
def readVarint64Slow (buffer : List Byte) : Option (BitVec 64 × List Byte) :=
  readVarint64SlowLoop 10 buffer 0 0

/-- The test before an unrolled reader: enough bytes, or an array that ends with
the last byte of a number. -/
def fastGuard (buffer : List Byte) : Bool :=
  10 ≤ buffer.length || (0 < buffer.length && (buffer.getLastD 0 &&& 0x80#8) == 0)

/-- What the callers of an unrolled reader make of it. A read behind the array
would be undefined; it is `none` here, and `fastGuard` excludes it. -/
def FastRead.toOption {α : Type} : FastRead α → Option (α × List Byte)
  | .overrun => none
  | .done value ptr => some (value, ptr)
  | .corrupt => none

/-- `ReadVarint64Fallback`. -/
def readVarint64Fallback (buffer : List Byte) : Option (BitVec 64 × List Byte) :=
  if fastGuard buffer then (readVarint64FromArray buffer).toOption else readVarint64Slow buffer

/-- `ReadVarint32Fallback`, whose slow path is a read of 64 bits. -/
def readVarint32Fallback (buffer : List Byte) : Option (BitVec 32 × List Byte) :=
  if fastGuard buffer then (readVarint32FromArray buffer).toOption
  else (readVarint64Fallback buffer).map fun (value, buffer) => (value.setWidth 32, buffer)

/-- `ReadVarint64`. -/
def readVarint64 (buffer : List Byte) : Option (BitVec 64 × List Byte) :=
  match buffer with
  | b :: rest => if b.toNat < 0x80 then some (b.setWidth 64, rest) else readVarint64Fallback buffer
  | [] => readVarint64Fallback buffer

/-- `ReadVarint32`. -/
def readVarint32 (buffer : List Byte) : Option (BitVec 32 × List Byte) :=
  match buffer with
  | b :: rest => if b.toNat < 0x80 then some (b.setWidth 32, rest) else readVarint32Fallback buffer
  | [] => readVarint32Fallback buffer

/-- `ReadTagSlow`: at the end of the array the message may end, if the array is
not too large. -/
def CodedInputStream.readTagSlow (input : CodedInputStream) : BitVec 32 × CodedInputStream :=
  if input.buffer = [] then
    (0, { input with
      legitimateMessageEnd :=
        if totalBytesLimit ≤ input.size then decide (input.size = totalBytesLimit) else true })
  else
    match readVarint64 input.buffer with
    | none => (0, input)
    | some (result, buffer) => (result.setWidth 32, { input with buffer := buffer })

/-- `ReadTagFallback`. -/
def CodedInputStream.readTagFallback (input : CodedInputStream) : BitVec 32 × CodedInputStream :=
  if fastGuard input.buffer then
    match (readVarint32FromArray input.buffer).toOption with
    | none => (0, input)
    | some (tag, buffer) => (tag, { input with buffer := buffer })
  else if input.buffer = [] ∧ input.size < totalBytesLimit then
    (0, { input with legitimateMessageEnd := true })
  else input.readTagSlow

/-- `ReadTag`, which also remembers the tag. -/
def CodedInputStream.readTag (input : CodedInputStream) : BitVec 32 × CodedInputStream :=
  let (tag, input) :=
    match input.buffer with
    | b :: rest =>
        if b.toNat < 0x80 then (b.setWidth 32, { input with buffer := rest }) else input.readTagFallback
    | [] => input.readTagFallback
  (tag, { input with lastTag := tag })

variable {buffer rest : List Byte} {front : List Byte}

/-!
### The unrolled readers never leave the array

A byte ends a number when its high bit is clear, whichever of the two tests of
the source looks at it.
-/

theorem and_high_eq_zero_iff : ∀ b : Byte, b &&& 0x80#8 = 0 ↔ b.toNat < 128 := by
  decide +kernel

theorem setWidth32_of_byte (b : Byte) :
    (b &&& 0x7f#8).setWidth 32 = BitVec.ofNat 32 (Varint.payload b) := by
  rw [setWidth_eq_ofNat, and_low]

/-- The lines of one part, behind the bytes whose digits it already holds. -/
theorem readPart_eq (lines : Nat) (front ptr : List Byte) :
    readPart ((List.range' front.length lines).map (7 * ·)) ptr (BitVec.ofNat 32 (Varint.value front)) =
      match Varint.groupWithin lines ptr with
      | some (group, rest) => .inl (.done (BitVec.ofNat 32 (Varint.value (front ++ group))) rest)
      | none =>
          if ptr.length < lines then .inl .overrun
          else .inr (BitVec.ofNat 32 (Varint.value (front ++ ptr.take lines)), ptr.drop lines) := by
  induction lines generalizing front ptr with
  | zero => simp [readPart, Varint.groupWithin]
  | succ lines inductionHypothesis =>
      cases ptr with
      | nil => simp [List.range'_succ, readPart, Varint.groupWithin]
      | cons b ptr =>
          simp only [List.range'_succ, List.map_cons, readPart, Varint.groupWithin, and_high_eq_zero_iff,
            setWidth32_of_byte, Varint.ofNat_value_concat]
          by_cases ends : b.toNat < 128
          · simp [ends]
          · have later := inductionHypothesis (front ++ [b]) ptr
            rw [List.length_append, List.length_singleton] at later
            rw [if_neg ends, if_neg ends, later]
            cases Varint.groupWithin lines ptr with
            | none => simp
            | some found => simp

/-- Three parts of 28 bits each make the word, whose top bits the third one
loses. -/
theorem assemble_ofNat {low middle : Nat} (lowSmall : low < 268435456) (middleSmall : middle < 268435456)
    {high : Nat} (highSmall : high < 268435456) :
    assemble (BitVec.ofNat 32 low) (BitVec.ofNat 32 middle) (BitVec.ofNat 32 high) =
      BitVec.ofNat 64 (low + 268435456 * (middle + 268435456 * high)) := by
  have widen : ∀ {n : Nat}, n < 268435456 → (BitVec.ofNat 32 n).setWidth 64 = BitVec.ofNat 64 n := by
    intro n small
    rw [setWidth_eq_ofNat, BitVec.toNat_ofNat, Nat.mod_eq_of_lt (by omega)]
  have first := @Varint.ofNat_accumulate 64 low middle 28 lowSmall
  have second := @Varint.ofNat_accumulate 64 (low + middle * 2 ^ 28) high 56 (by omega)
  rw [assemble, widen lowSmall, widen middleSmall, widen highSmall, first, second]
  congr 1
  omega

/-- Four bytes hold at most 28 bits, so a part does not overflow. -/
theorem value_lt_part {bytes : List Byte} (short : bytes.length ≤ 4) : Varint.value bytes < 268435456 :=
  Nat.lt_of_lt_of_le (Varint.value_lt bytes) (Nat.pow_le_pow_right (by decide) short)

/-- The first lines of the unrolled reader find the group at the front, or read
on with its value. -/
theorem readPart_from_zero (lines : Nat) (ptr : List Byte) :
    readPart ((List.range' 0 lines).map (7 * ·)) ptr 0 =
      match Varint.groupWithin lines ptr with
      | some (group, rest) => .inl (.done (BitVec.ofNat 32 (Varint.value group)) rest)
      | none =>
          if ptr.length < lines then .inl .overrun
          else .inr (BitVec.ofNat 32 (Varint.value (ptr.take lines)), ptr.drop lines) :=
  readPart_eq lines [] ptr

/-- The number the three parts make up. -/
theorem assemble_values {low middle high : List Byte} (lowLength : low.length = 4)
    (middleLength : middle.length = 4) (highShort : high.length ≤ 4) :
    assemble (BitVec.ofNat 32 (Varint.value low)) (BitVec.ofNat 32 (Varint.value middle))
        (BitVec.ofNat 32 (Varint.value high)) =
      BitVec.ofNat 64 (Varint.value (low ++ (middle ++ high))) := by
  rw [assemble_ofNat (value_lt_part (Nat.le_of_eq lowLength)) (value_lt_part (Nat.le_of_eq middleLength))
    (value_lt_part highShort), Varint.value_append low, Varint.value_append middle, lowLength, middleLength]
  rfl

/-- Two parts are put together to the value of their bytes. -/
theorem assemble_two {low middle : List Byte} (lowLength : low.length = 4)
    (middleShort : middle.length ≤ 4) :
    assemble (BitVec.ofNat 32 (Varint.value low)) (BitVec.ofNat 32 (Varint.value middle)) 0 =
      BitVec.ofNat 64 (Varint.value (low ++ middle)) := by
  have parts := @assemble_ofNat _ _ (value_lt_part (Nat.le_of_eq lowLength)) (value_lt_part middleShort) 0
    (by decide)
  rw [Varint.value_append, lowLength]
  exact parts

theorem assemble_one {low : List Byte} (lowShort : low.length ≤ 4) :
    assemble (BitVec.ofNat 32 (Varint.value low)) 0 0 = BitVec.ofNat 64 (Varint.value low) :=
  @assemble_ofNat _ 0 (value_lt_part lowShort) (by decide) 0 (by decide)

/-- The unrolled reader of 64 bits: it runs off the array exactly when less than
ten bytes are left and none of them ends a number. -/
theorem readVarint64FromArray_eq (buffer : List Byte) :
    readVarint64FromArray buffer =
      match Varint.groupWithin 10 buffer with
      | some (group, rest) => .done (BitVec.ofNat 64 (Varint.value group)) rest
      | none => if buffer.length < 10 then .overrun else .corrupt := by
  have four : [0, 7, 14, 21] = (List.range' 0 4).map (7 * ·) := rfl
  have two : [0, 7] = (List.range' 0 2).map (7 * ·) := rfl
  rw [readVarint64FromArray, four, two, readPart_from_zero, Varint.groupWithin_add 4 6]
  cases first : Varint.groupWithin 4 buffer with
  | some found =>
      simp only [FastRead.map]
      rw [assemble_one (Varint.groupWithin_eq_some.mp first).2.1]
  | none =>
      by_cases short : buffer.length < 4
      · have fewer : buffer.length < 10 := by omega
        simp [short, fewer, FastRead.map]
      · have low : (buffer.take 4).length = 4 := by rw [List.length_take]; omega
        simp only [if_neg short]
        rw [readPart_from_zero, Varint.groupWithin_add 4 2]
        cases second : Varint.groupWithin 4 (buffer.drop 4) with
        | some found =>
            simp only [FastRead.map, Option.map_some]
            rw [assemble_two low (Varint.groupWithin_eq_some.mp second).2.1]
        | none =>
            by_cases shorter : (buffer.drop 4).length < 4
            · have fewer : buffer.length < 10 := by rw [List.length_drop] at shorter; omega
              simp only [if_pos shorter, if_pos fewer, FastRead.map, Option.map_none]
            · have middle : ((buffer.drop 4).take 4).length = 4 := by rw [List.length_take]; omega
              simp only [if_neg shorter]
              rw [readPart_from_zero]
              cases third : Varint.groupWithin 2 ((buffer.drop 4).drop 4) with
              | some found =>
                  have high := Nat.le_trans (Varint.groupWithin_eq_some.mp third).2.1 (by decide : 2 ≤ 4)
                  simp only [FastRead.map, Option.map_some]
                  rw [assemble_values low middle high]
              | none =>
                  have same : ((buffer.drop 4).drop 4).length < 2 ↔ buffer.length < 10 := by
                    rw [List.length_drop] at shorter
                    rw [List.length_drop, List.length_drop]
                    omega
                  simp only [same, Option.map_none]
                  split_ifs <;> rfl

/-!
### The reader of 32 bits drops what does not fit

A number of more than 32 bits may be read as one of 32. Its upper bits are
dropped, and up to ten bytes are skipped.
-/

/-- Skipping reads up to the end of the group, within its bound of rounds. -/
theorem discardRest_eq (rounds : Nat) (ptr : List Byte) (result : BitVec 32) :
    discardRest rounds ptr result =
      match Varint.groupWithin rounds ptr with
      | some (_, rest) => .done result rest
      | none => if ptr.length < rounds then .overrun else .corrupt := by
  induction rounds generalizing ptr with
  | zero => simp [discardRest, Varint.groupWithin]
  | succ rounds inductionHypothesis =>
      cases ptr with
      | nil => simp [discardRest, Varint.groupWithin]
      | cons b ptr =>
          rw [discardRest, Varint.groupWithin]
          simp only [and_high_eq_zero_iff]
          by_cases ends : b.toNat < 128
          · simp [ends]
          · rw [if_neg ends, if_neg ends, inductionHypothesis]
            cases Varint.groupWithin rounds ptr with
            | none => simp
            | some found => rfl

/-- The fifth line takes the byte without its mask: what is above bit 31 is lost
either way. -/
theorem or_fifth {front : List Byte} (four : front.length = 4) (b : Byte) (tail : List Byte) :
    BitVec.ofNat 32 (Varint.value front) ||| b.setWidth 32 <<< 28 =
      BitVec.ofNat 32 (Varint.value (front ++ b :: tail)) := by
  have small := @value_lt_part front (Nat.le_of_eq four)
  rw [setWidth_eq_ofNat, @Varint.ofNat_accumulate 32 _ b.toNat 28 small, Varint.value_append, four,
    Varint.value_cons]
  apply BitVec.eq_of_toNat_eq
  rw [BitVec.toNat_ofNat, BitVec.toNat_ofNat, Varint.payload]
  omega

/-- The unrolled reader of 32 bits takes the same bytes as that of 64 bits. -/
theorem readVarint32FromArray_eq (buffer : List Byte) :
    readVarint32FromArray buffer =
      match Varint.groupWithin 10 buffer with
      | some (group, rest) => .done (BitVec.ofNat 32 (Varint.value group)) rest
      | none => if buffer.length < 10 then .overrun else .corrupt := by
  have four : [0, 7, 14, 21] = (List.range' 0 4).map (7 * ·) := rfl
  rw [readVarint32FromArray, four, readPart_from_zero, Varint.groupWithin_add 4 6]
  cases first : Varint.groupWithin 4 buffer with
  | some found => rfl
  | none =>
      by_cases short : buffer.length < 4
      · have fewer : buffer.length < 10 := by omega
        simp [short, fewer]
      · have low : (buffer.take 4).length = 4 := by rw [List.length_take]; omega
        simp only [if_neg short]
        cases behind : buffer.drop 4 with
        | nil =>
            have fewer : buffer.length < 10 := by
              have length := congrArg List.length behind
              rw [List.length_drop, List.length_nil] at length
              omega
            simp [Varint.groupWithin, fewer]
        | cons b ptr =>
            simp only [and_high_eq_zero_iff, Varint.groupWithin]
            by_cases ends : b.toNat < 128
            · simp only [if_pos ends, Option.map_some, or_fifth low b []]
            · have length : buffer.length = ptr.length + 5 := by
                have length := congrArg List.length behind
                rw [List.length_drop, List.length_cons] at length
                omega
              simp only [if_neg ends, discardRest_eq]
              cases Varint.groupWithin 5 ptr with
              | some found => simp only [Option.map_some, or_fifth low b found.1]
              | none =>
                  have same : ptr.length < 5 ↔ buffer.length < 10 := by omega
                  simp [same]

/-!
### Both paths agree

On every array the guarded reader and the slow one return the same number and
leave the same rest.
-/

/-- The slow loop finds the group at the front, with what has been read so far
in front of it. -/
theorem readVarint64SlowLoop_eq (rounds : Nat) (front buffer : List Byte) :
    readVarint64SlowLoop rounds buffer (BitVec.ofNat 64 (Varint.value front)) front.length =
      (Varint.groupWithin rounds buffer).map fun (group, rest) =>
        (BitVec.ofNat 64 (Varint.value (front ++ group)), rest) := by
  induction rounds generalizing front buffer with
  | zero => rfl
  | succ rounds inductionHypothesis =>
      cases buffer with
      | nil => rfl
      | cons b buffer =>
          simp only [readVarint64SlowLoop, Varint.groupWithin, and_high_eq_zero_iff, setWidth_of_continues,
            Varint.ofNat_value_concat]
          by_cases ends : b.toNat < 128
          · simp [ends]
          · have later := inductionHypothesis (front ++ [b]) buffer
            rw [List.length_append, List.length_singleton] at later
            rw [if_neg ends, if_neg ends, later]
            cases Varint.groupWithin rounds buffer with
            | none => rfl
            | some found => simp

theorem readVarint64Slow_eq (buffer : List Byte) :
    readVarint64Slow buffer =
      (Varint.groupWithin 10 buffer).map fun (group, rest) => (BitVec.ofNat 64 (Varint.value group), rest) :=
  readVarint64SlowLoop_eq 10 [] buffer

/-- Where the test before the unrolled readers holds, they stay inside the array. -/
theorem length_of_fastGuard (allowed : fastGuard buffer = true)
    (noGroup : Varint.groupWithin 10 buffer = none) :
    ¬buffer.length < 10 := by
  intro few
  rcases List.eq_nil_or_concat buffer with rfl | ⟨front, last, rfl⟩
  · simp [fastGuard] at allowed
  · rw [List.concat_eq_append] at allowed noGroup few
    have ends : last.toNat < 128 := by
      have notTen : ¬10 ≤ (front ++ [last]).length := Nat.not_le.mpr few
      have high : last &&& 0x80#8 = 0 := by
        simp only [fastGuard, notTen, List.getLastD_concat] at allowed
        simpa using allowed
      exact (and_high_eq_zero_iff last).mp high
    have found := Varint.groupWithin_isSome (Nat.le_of_lt few)
        (List.mem_append_right _ (List.mem_singleton_self _))
      ends
    rw [noGroup] at found
    cases found

/-- Behind the test an unrolled reader is a plain one. -/
theorem toOption_of_fastGuard {α : Type} {fast : FastRead α} {f : List Byte → α}
    (allowed : fastGuard buffer = true)
    (reads : fast =
      match Varint.groupWithin 10 buffer with
      | some (group, rest) => .done (f group) rest
      | none => if buffer.length < 10 then .overrun else .corrupt) :
    fast.toOption = (Varint.groupWithin 10 buffer).map fun (group, rest) => (f group, rest) := by
  rw [reads]
  cases noGroup : Varint.groupWithin 10 buffer with
  | some found => rfl
  | none =>
      simp only [if_neg (length_of_fastGuard allowed noGroup)]
      rfl

/-- The fallback reads the group at the front, if it has at most ten bytes. -/
theorem readVarint64Fallback_eq (buffer : List Byte) :
    readVarint64Fallback buffer =
      (Varint.groupWithin 10 buffer).map fun (group, rest) =>
        (BitVec.ofNat 64 (Varint.value group), rest) := by
  rw [readVarint64Fallback]
  split_ifs with allowed
  · exact toOption_of_fastGuard allowed (readVarint64FromArray_eq buffer)
  · exact readVarint64Slow_eq buffer

/-- The fallback of 32 bits reads the same group and drops the upper bits. -/
theorem readVarint32Fallback_eq (buffer : List Byte) :
    readVarint32Fallback buffer =
      (Varint.groupWithin 10 buffer).map fun (group, rest) =>
        (BitVec.ofNat 32 (Varint.value group), rest) := by
  rw [readVarint32Fallback]
  split_ifs with allowed
  · exact toOption_of_fastGuard allowed (readVarint32FromArray_eq buffer)
  · rw [readVarint64Fallback_eq, Option.map_map]
    cases Varint.groupWithin 10 buffer with
    | none => rfl
    | some found =>
        simp only [Option.map_some, Function.comp_apply]
        rw [BitVec.setWidth_ofNat_of_le (by decide)]

theorem groupWithin_of_last {b : Byte} (ends : b.toNat < 128) (rest : List Byte) :
    Varint.groupWithin 10 (b :: rest) = some ([b], rest) := by
  rw [Varint.groupWithin, if_pos ends]

theorem value_of_last {b : Byte} (ends : b.toNat < 128) : Varint.value [b] = b.toNat := by
  rw [Varint.value_cons, Varint.value_nil, Varint.payload_of_last ends, Nat.mul_zero, Nat.add_zero]

/-- `ReadVarint64`, whichever path it takes: the first group within ten bytes,
modulo `2 ^ 64`. -/
theorem readVarint64_eq (buffer : List Byte) :
    readVarint64 buffer =
      (Varint.groupWithin 10 buffer).map fun (group, rest) =>
        (BitVec.ofNat 64 (Varint.value group), rest) := by
  cases buffer with
  | nil => exact readVarint64Fallback_eq []
  | cons b rest =>
      rw [readVarint64]
      split_ifs with ends
      · rw [groupWithin_of_last ends, Option.map_some]
        simp only [value_of_last ends, setWidth_eq_ofNat]
      · exact readVarint64Fallback_eq _

/-- `ReadVarint32` takes the same bytes and keeps the low 32 bits. -/
theorem readVarint32_eq (buffer : List Byte) :
    readVarint32 buffer =
      (Varint.groupWithin 10 buffer).map fun (group, rest) =>
        (BitVec.ofNat 32 (Varint.value group), rest) := by
  cases buffer with
  | nil => exact readVarint32Fallback_eq []
  | cons b rest =>
      rw [readVarint32]
      split_ifs with ends
      · rw [groupWithin_of_last ends, Option.map_some]
        simp only [value_of_last ends, setWidth_eq_ofNat]
      · exact readVarint32Fallback_eq _

/-- `ReadTag`, whichever path it takes. At the end of the array it gives 0 and
allows the message to end; a number it cannot read gives 0 as well, and does
not. -/
theorem readTag_eq (input : CodedInputStream) :
    input.readTag =
      if input.buffer = [] then
        (0, { input with lastTag := 0, legitimateMessageEnd := decide (input.size ≤ totalBytesLimit) })
      else
        match Varint.groupWithin 10 input.buffer with
        | some (group, rest) =>
            (BitVec.ofNat 32 (Varint.value group),
              { input with buffer := rest, lastTag := BitVec.ofNat 32 (Varint.value group) })
        | none => (0, { input with lastTag := 0 }) := by
  obtain ⟨buffer, size, lastTag, ended, depth⟩ := input
  cases buffer with
  | nil =>
      simp only [CodedInputStream.readTag, CodedInputStream.readTagFallback,
        CodedInputStream.readTagSlow, if_true]
      have noFast : fastGuard [] = false := rfl
      rcases Nat.lt_trichotomy size totalBytesLimit with below | equal | above
      · simp [noFast, below, Nat.le_of_lt below]
      · simp [noFast, equal]
      · have notBelow : ¬size < totalBytesLimit := by omega
        have notEqual : size ≠ totalBytesLimit := by omega
        simp [noFast, notBelow, notEqual, Nat.le_of_lt above, above]
  | cons b rest =>
      rw [if_neg (List.cons_ne_nil b rest)]
      simp only [CodedInputStream.readTag]
      split_ifs with ends
      · rw [groupWithin_of_last ends]
        simp only [value_of_last ends, setWidth_eq_ofNat]
      · simp only [CodedInputStream.readTagFallback]
        split_ifs with allowed
        · have fast := toOption_of_fastGuard allowed (readVarint32FromArray_eq (b :: rest))
          rw [fast]
          cases Varint.groupWithin 10 (b :: rest) <;> rfl
        · rename_i atEnd
          cases atEnd.1
        · simp only [CodedInputStream.readTagSlow, if_neg (List.cons_ne_nil b rest), readVarint64_eq]
          cases Varint.groupWithin 10 (b :: rest) with
          | none => rfl
          | some found =>
              simp only [Option.map_some]
              rw [BitVec.setWidth_ofNat_of_le (by decide)]

/-- The readers with their shortcuts read what the byte-by-byte loop reads, in
32 bits its low half, and where their test lets an unrolled reader run it stays
inside the array. -/
theorem readVarint_eq_slow (buffer : List Byte) :
    readVarint64 buffer = readVarint64Slow buffer ∧
      readVarint32 buffer =
        (readVarint64Slow buffer).map (fun (value, rest) => (value.setWidth 32, rest)) ∧
      (fastGuard buffer = true →
        readVarint64FromArray buffer ≠ .overrun ∧ readVarint32FromArray buffer ≠ .overrun) := by
  rw [readVarint64_eq, readVarint32_eq, readVarint64Slow_eq]
  refine ⟨rfl, ?_, ?_⟩
  · cases Varint.groupWithin 10 buffer with
    | none => rfl
    | some found =>
        simp only [Option.map_some]
        rw [BitVec.setWidth_ofNat_of_le (by decide)]
  · intro allowed
    rw [readVarint64FromArray_eq, readVarint32FromArray_eq]
    cases noGroup : Varint.groupWithin 10 buffer with
    | none =>
        have enough := length_of_fastGuard allowed noGroup
        simp only [if_neg enough]
        exact ⟨by simp, by simp⟩
    | some found => exact ⟨by simp, by simp⟩

/-- A number of two bytes at the end of its array. -/
theorem readVarint_eq_slow_pair :
    readVarint64 [0xac#8, 0x02#8] = readVarint64Slow [0xac#8, 0x02#8] ∧
      readVarint32 [0xac#8, 0x02#8] =
        (readVarint64Slow [0xac#8, 0x02#8]).map (fun (value, rest) => (value.setWidth 32, rest)) ∧
      readVarint64FromArray [0xac#8, 0x02#8] ≠ .overrun ∧
        readVarint32FromArray [0xac#8, 0x02#8] ≠ .overrun :=
  ⟨(readVarint_eq_slow _).1, (readVarint_eq_slow _).2.1, (readVarint_eq_slow _).2.2 (by decide)⟩

end Q3df.Rpc
