/-
Module: Q3df.Rpc.Wire
Layer: Rpc
Purpose: One call on the wire: a header frame and a body frame in each direction. What was sent is
  received with the same id, name and message, wherever the stream is cut on the way; a body with a
  burst of wrong bits is refused and leaves the stream aligned; and whatever a receiver takes as a
  message has the checksum and the length its header announces. A name of up to 992 bytes always
  fits a header, one of 1014 never does.
Imports: Q3df.Rpc.WirePb
Trusted boundary: human-reviewed transcription of
  tools/protobuf/src/google/protobuf/rpc/rpc_wire.cc; the compression library (Snappy) and the
  generated code of the messages (MessageType); allocations do not fail
Main exports: Error, ascii, Snappy, MessageType, sendRequest, recvRequestHeader, recvRequestBody,
  sendResponse, recvResponseHeader, recvResponseBody, messageHeader, send_eq, recvHeader_partial,
  recvBody_partial, recvBody_of_burst, recvBody_accepted, length_messageHeader_le, patient_recvBody
Open obligations: none
-/
import Q3df.Rpc.WirePb

namespace Q3df.Rpc

/-- The bytes of a text literal. -/
def ascii (text : String) : StdString := text.toList.map fun c => BitVec.ofNat 8 c.toNat

/-- `Error`. -/
structure Error where
  text : StdString
deriving DecidableEq, Repr

/-- `Error::Nil`. -/
def Error.nil : Error := { text := [] }

/-- `Error::IsNil`. -/
def Error.isNil (error : Error) : Bool := error.text.isEmpty

/-- What a function of the wire reports about itself. -/
def failure (function what : String) : Error := { text := ascii (function ++ ": " ++ what) }

/-- `snappy::Compress` and `snappy::Uncompress`; `none` for false. -/
structure Snappy where
  compress : StdString → StdString
  uncompress : StdString → Option StdString

/-- What the library promises. -/
def Snappy.Lossless (snappy : Snappy) : Prop := ∀ data, snappy.uncompress (snappy.compress data) = some data

/-- `SerializeToString` and `ParseFromString` of a generated message; `none` for
false. -/
structure MessageType (μ : Type) where
  serializeToString : μ → Option StdString
  parseFromString : StdString → Option μ

/-- The default of `max_header_len`. -/
def maxHeaderLen : Nat := 1024

/-- `HashCRC32` of a string, as a call that may not return. -/
def checksumOf (data : StdString) : Except Halt (BitVec 32) :=
  match hashCRC32Loop data (data.length + 1) 0 (~~~0#32) with
  | some crc => .ok crc
  | none => .error .spins

/-!
### Sending

A message is sent as two frames: a header with the checksum, and the body,
compressed.
-/

/-- The bytes of a message, of which a null pointer has none; `none` when it
cannot be serialized. -/
def marshal {μ : Type} (type : MessageType μ) : Option μ → Option StdString
  | none => some []
  | some message => type.serializeToString message

/-- The header of a call. -/
def messageHeader (id : BitVec 64) (text pb compressed : StdString) (checksum : BitVec 32) : WireHeader :=
  { id := some id
    text := some text
    rawLen := some (BitVec.ofNat 32 pb.length)
    snappyCompressedLen := some (BitVec.ofNat 32 compressed.length)
    checksum := some checksum
    unknownFields := [] }

/-- `SendRequest` and `SendResponse` behind the marshalling. -/
def send (function : String) (snappy : Snappy) (c : Conn) (id : BitVec 64) (text : StdString)
    (pb : Option StdString) : Except Halt (Error × Conn) :=
  match pb with
  | none => .ok (failure function "SerializeToString failed.", c)
  | some pb =>
      let compressed := snappy.compress pb
      (checksumOf compressed).map fun checksum =>
        let pbHeader := (messageHeader id text pb compressed checksum).serializeToString
        if maxHeaderLen < pbHeader.length then (failure function "header larger than max_header_len.", c)
        else
          let (sent, c) := c.sendFrame (some pbHeader)
          if sent then
            let (sent, c) := c.sendFrame (some compressed)
            if sent then (.nil, c) else (failure function "SendFrame body failed.", c)
          else (failure function "SendFrame header failed.", c)

/-- `SendRequest`. -/
def sendRequest {μ : Type} (snappy : Snappy) (type : MessageType μ) (c : Conn) (id : BitVec 64)
    (serviceMethod : StdString) (request : Option μ) : Except Halt (Error × Conn) :=
  send "SendRequest" snappy c id serviceMethod (marshal type request)

/-- `SendResponse`. -/
def sendResponse {μ : Type} (snappy : Snappy) (type : MessageType μ) (c : Conn) (id : BitVec 64)
    (error : StdString) (response : Option μ) : Except Halt (Error × Conn) :=
  send "SendResponse" snappy c id error (marshal type response)

/-!
### Receiving

Each half is received and checked on its own. An error is returned with a text
that names the function.
-/

/-- What is made of a frame that should be a header. -/
def acceptHeader (function : String) (arrived : Bool) (pbHeader : StdString) : Except Error WireHeader :=
  if arrived then
    if maxHeaderLen < pbHeader.length then .error (failure function "RecvFrame larger than max_header_len.")
    else
      match parseFromString pbHeader with
      | none => .error (failure function "ParseFromString failed.")
      | some header => .ok header
  else .error (failure function "RecvFrame failed.")

/-- `RecvRequestHeader` and `RecvResponseHeader`. -/
def recvHeader (function : String) (c : Conn) : Except Halt (Except Error WireHeader × Conn) :=
  (c.recvFrame []).map fun (frame, c) => (acceptHeader function frame.1 frame.2, c)

/-- What is made of a body with a known checksum. -/
def checkBody {μ : Type} (function : String) (snappy : Snappy) (type : MessageType μ) (header : WireHeader)
    (compressed : StdString) (checksum : BitVec 32) : Except Error μ :=
  if checksum = header.checksumValue then
    match snappy.uncompress compressed with
    | none => .error (failure function "snappy::Uncompress failed.")
    | some pb =>
        if pb.length = (header.rawLen.getD 0).toNat then
          match type.parseFromString pb with
          | none => .error (failure function "ParseFromString failed.")
          | some message => .ok message
        else .error (failure function "Unexcpeted raw msg len.")
  else .error (failure function "Unexpected checksum.")

/-- What is made of a frame that should be a body. -/
def acceptBody {μ : Type} (function : String) (snappy : Snappy) (type : MessageType μ) (header : WireHeader)
    (arrived : Bool) (compressed : StdString) : Except Halt (Except Error μ) :=
  if arrived then (checksumOf compressed).map (checkBody function snappy type header compressed)
  else .ok (.error (failure function "RecvFrame failed."))

/-- `RecvRequestBody` and `RecvResponseBody`. -/
def recvBody {μ : Type} (function : String) (snappy : Snappy) (type : MessageType μ) (header : WireHeader)
    (c : Conn) : Except Halt (Except Error μ × Conn) := do
  let (frame, c) ← c.recvFrame []
  (acceptBody function snappy type header frame.1 frame.2).map fun message => (message, c)

/-- `RecvRequestHeader`. -/
def recvRequestHeader : Conn → Except Halt (Except Error RequestHeader × Conn) :=
  recvHeader "RecvRequestHeader"

/-- `RecvRequestBody`. -/
def recvRequestBody {μ : Type} (snappy : Snappy) (type : MessageType μ)
    (header : RequestHeader) (c : Conn) :
    Except Halt (Except Error μ × Conn) :=
  recvBody "RecvRequestBody" snappy type header c

/-- `RecvResponseHeader`. -/
def recvResponseHeader : Conn → Except Halt (Except Error ResponseHeader × Conn) :=
  recvHeader "RecvResponseHeader"

/-- `RecvResponseBody`. -/
def recvResponseBody {μ : Type} (snappy : Snappy) (type : MessageType μ)
    (header : ResponseHeader) (c : Conn) :
    Except Halt (Except Error μ × Conn) :=
  recvBody "RecvResponseBody" snappy type header c

variable {c : Conn} {μ : Type} {snappy : Snappy} {type : MessageType μ} {function : String}
variable {text pb compressed rest onTheWay : StdString} {id : BitVec 64} {checksum : BitVec 32}

/-!
### Headers

The header of a message fits `max_header_len` as long as the text in it does.
-/

theorem checksumOf_of_lt {data : StdString} (short : data.length < 4294967296) :
    checksumOf data = .ok (hashCRC32 data) := by
  have loop := @hashCRC32Loop_eq data (data.length + 1) 0 (~~~0#32) short (Nat.zero_le _)
  rw [checksumOf, loop, if_pos (Nat.lt_succ_of_le (Nat.sub_le _ _))]
  rfl

theorem wellFormed_messageHeader (small : text.length < 2147483648) :
    (messageHeader id text pb compressed checksum).WellFormed := by
  refine ⟨?_, ?_⟩
  · intro other among
    cases among
    exact small
  · intro field among
    cases among

/-- A field of 32 bits takes two to six bytes. -/
theorem length_writeUInt32Field {number : Nat} (small : number < 16) (value : BitVec 32) :
    2 ≤ (writeUInt32Field number (some value)).length ∧
      (writeUInt32Field number (some value)).length ≤ 6 := by
  have positive := length_writeVarint32ToArray_pos value
  have bound : (writeVarint32ToArray value).length ≤ 5 := by
    rw [writeVarint32ToArray_eq]
    exact Varint.length_encode_le (Nat.lt_of_lt_of_le value.isLt (by decide))
  simp only [writeUInt32Field, Option.elim, List.length_append, length_writeTag_of_small small]
  omega

/-- A field of 64 bits takes two to eleven bytes. -/
theorem length_writeUInt64Field (id : BitVec 64) :
    2 ≤ (writeUInt64Field 1 (some id)).length ∧ (writeUInt64Field 1 (some id)).length ≤ 11 := by
  have bounds : 0 < (writeVarint64ToArray id).length ∧ (writeVarint64ToArray id).length ≤ 10 := by
    rw [writeVarint64ToArray_eq]
    exact ⟨Varint.length_encode_pos _, Varint.length_encode_le (Nat.lt_of_lt_of_le id.isLt (by decide))⟩
  simp only [writeUInt64Field, Option.elim, List.length_append,
    length_writeTag_of_small (show 1 < 16 by decide)]
  omega

theorem length_writeStringField (text : StdString) :
    (writeStringField 2 (some text)).length =
      1 + (varintSize32 (BitVec.ofNat 32 text.length) + text.length) := by
  simp only [writeStringField, Option.elim, List.length_append,
    length_writeTag_of_small (show 2 < 16 by decide),
    length_writeDelimited]

/-- A name of up to 992 bytes fits the header, whatever the other fields are. -/
theorem length_messageHeader_le (short : text.length ≤ 992) :
    (messageHeader id text pb compressed checksum).serializeToString.length ≤ maxHeaderLen := by
  have size : varintSize32 (BitVec.ofNat 32 text.length) ≤ 2 := by
    have value : (BitVec.ofNat 32 text.length).toNat = text.length := by
      rw [BitVec.toNat_ofNat]
      exact Nat.mod_eq_of_lt (by omega)
    rw [varintSize32_eq, value]
    exact @Varint.length_encode_le _ 1 (by omega)
  have number := length_writeUInt64Field id
  have raw := length_writeUInt32Field (show 3 < 16 by decide) (BitVec.ofNat 32 pb.length)
  have packed := length_writeUInt32Field (show 4 < 16 by decide) (BitVec.ofNat 32 compressed.length)
  have hash := length_writeUInt32Field (show 5 < 16 by decide) checksum
  simp only [messageHeader, WireHeader.serializeToString, List.length_append, length_writeStringField,
    serializeUnknownFields, List.length_nil, maxHeaderLen]
  omega

/-- A name of 1014 bytes or more does not fit, whatever the other fields are. -/
theorem lt_length_messageHeader (long : 1014 ≤ text.length) :
    maxHeaderLen < (messageHeader id text pb compressed checksum).serializeToString.length := by
  have size : 1016 ≤ varintSize32 (BitVec.ofNat 32 text.length) + text.length := by
    rcases Nat.eq_or_lt_of_le long with exact_ | longer
    · rw [← exact_]
      decide
    · have positive : 0 < varintSize32 (BitVec.ofNat 32 text.length) := by
        rw [varintSize32_eq]
        exact Varint.length_encode_pos _
      omega
  have number := length_writeUInt64Field id
  have raw := length_writeUInt32Field (show 3 < 16 by decide) (BitVec.ofNat 32 pb.length)
  have packed := length_writeUInt32Field (show 4 < 16 by decide) (BitVec.ofNat 32 compressed.length)
  have hash := length_writeUInt32Field (show 5 < 16 by decide) checksum
  simp only [messageHeader, WireHeader.serializeToString, List.length_append, length_writeStringField,
    serializeUnknownFields, List.length_nil, maxHeaderLen]
  omega

/-- A header that was sent with a call fits its frame. -/
theorem messageHeader_fits {snappy : Snappy} {text pb : StdString} (shortText : text.length ≤ 992)
    (id : BitVec 64) :
    (messageHeader id text pb (snappy.compress pb) (hashCRC32 (snappy.compress pb))).WellFormed ∧
      (messageHeader id text pb (snappy.compress pb)
        (hashCRC32 (snappy.compress pb))).serializeToString.length ≤ maxHeaderLen :=
  ⟨wellFormed_messageHeader (by omega), length_messageHeader_le shortText⟩

/-!
### What is sent

The bytes of the two frames, in one piece.
-/

/-- The bytes of a call on the stream. -/
def messageBytes (snappy : Snappy) (id : BitVec 64) (text pb : StdString) : List Byte :=
  frame (messageHeader id text pb (snappy.compress pb) (hashCRC32 (snappy.compress pb))).serializeToString ++
    frame (snappy.compress pb)

/-- A header that fits goes out with its body; one that does not leaves the
stream untouched. -/
theorem send_eq (healthy : c.accepts = none) (short : (snappy.compress pb).length < 2147483648) :
    send function snappy c id text (some pb) =
      if maxHeaderLen < (messageHeader id text pb (snappy.compress pb)
          (hashCRC32 (snappy.compress pb))).serializeToString.length then
        .ok (failure function "header larger than max_header_len.", c)
      else .ok (.nil, { c with sent := c.sent ++ messageBytes snappy id text pb }) := by
  simp only [send, checksumOf_of_lt (Nat.lt_of_lt_of_le short (by decide)), Except.map]
  by_cases large : maxHeaderLen < (messageHeader id text pb (snappy.compress pb)
      (hashCRC32 (snappy.compress pb))).serializeToString.length
  · rw [if_pos large, if_pos large]
  · have inside : (messageHeader id text pb (snappy.compress pb)
        (hashCRC32 (snappy.compress pb))).serializeToString.length < 2147483648 :=
      Nat.lt_of_le_of_lt (Nat.le_of_not_lt large) (by decide)
    have second : ∀ sent, ({ c with sent := sent } : Conn).sendFrame (some (snappy.compress pb)) =
        (true, { c with sent := sent ++ frameBytes (snappy.compress pb) }) := fun sent => sendFrame_eq healthy
    rw [if_neg large, if_neg large, sendFrame_eq healthy]
    simp only [if_true, second, frameBytes_of_lt inside, frameBytes_of_lt short,
      messageBytes, List.append_assoc]

/-!
### What is received

The header and the body that were sent are received again, with whatever stands
behind them.
-/

/-- A well formed header within the limit is accepted as it was written. -/
theorem acceptHeader_serialize {header : WireHeader} (wellFormed : header.WellFormed)
    (fits : header.serializeToString.length ≤ maxHeaderLen) :
    acceptHeader function true header.serializeToString = .ok header := by
  have inside : header.serializeToString.length ≤ totalBytesLimit := Nat.le_trans fits (by decide)
  rw [acceptHeader, if_pos rfl, if_neg (Nat.not_lt.mpr fits),
    parseFromString_serializeToString wellFormed inside]

/-- A header that has arrived is received, and the bytes behind it stay. -/
theorem recvHeader_frame (function : String) {header : WireHeader} (wellFormed : header.WellFormed)
    (fits : header.serializeToString.length ≤ maxHeaderLen)
    (arrived : c.incoming = frame header.serializeToString ++ rest) :
    recvHeader function c = .ok (.ok header, { c with incoming := rest }) := by
  have small : header.serializeToString.length < 2147483648 := Nat.lt_of_le_of_lt fits (by decide)
  simp only [recvHeader, recvFrame_frame small arrived, Except.map, acceptHeader_serialize wellFormed fits]

/-- A header some of whose bytes are still on their way is waited on, and
received as it was sent. -/
theorem recvHeader_partial (function : String) {header : WireHeader} (wellFormed : header.WellFormed)
    (fits : header.serializeToString.length ≤ maxHeaderLen) (isOpen : c.peerClosed = false)
    (arriving : c.incoming ++ onTheWay = frame header.serializeToString ++ rest) :
    recvHeader function c = .error .blocks ∨
      ∃ more, more ++ onTheWay = rest ∧ recvHeader function c =
        .ok (.ok header, { c with incoming := more }) := by
  have small : header.serializeToString.length < 2147483648 := Nat.lt_of_le_of_lt fits (by decide)
  rcases frame_partial arriving with early | ⟨more, whole, behind⟩
  · refine Or.inl ?_
    rw [recvHeader, recvFrame_early small isOpen early.1 early.2]
    rfl
  · exact Or.inr ⟨more, behind, recvHeader_frame function wellFormed fits whole⟩

/-- A body that has arrived is received, uncompressed and parsed. -/
theorem recvBody_frame (function : String) (id : BitVec 64) (text : StdString) (lossless : snappy.Lossless)
    {message : μ} (parses : type.parseFromString pb = some message) (counted : pb.length < 4294967296)
    (short : (snappy.compress pb).length < 2147483648)
    (arrived : c.incoming = frame (snappy.compress pb) ++ rest) :
    recvBody function snappy type
        (messageHeader id text pb (snappy.compress pb) (hashCRC32 (snappy.compress pb))) c =
      .ok (.ok message, { c with incoming := rest }) := by
  have length : (BitVec.ofNat 32 pb.length).toNat = pb.length := by
    rw [BitVec.toNat_ofNat]
    exact Nat.mod_eq_of_lt counted
  have accepted : checkBody function snappy type
      (messageHeader id text pb (snappy.compress pb) (hashCRC32 (snappy.compress pb))) (snappy.compress pb)
      (hashCRC32 (snappy.compress pb)) = .ok message := by
    simp [checkBody, messageHeader, WireHeader.checksumValue, lossless pb, length, parses]
  rw [recvBody, recvFrame_frame short arrived]
  simp only [bind, Except.bind, acceptBody, if_true, checksumOf_of_lt (Nat.lt_of_lt_of_le short (by decide)),
    Except.map, accepted]

/-- A body some of whose bytes are still on their way is waited on, and received
as it was sent. -/
theorem recvBody_partial (function : String) (id : BitVec 64) (text : StdString) (lossless : snappy.Lossless)
    {message : μ} (parses : type.parseFromString pb = some message) (counted : pb.length < 4294967296)
    (short : (snappy.compress pb).length < 2147483648) (isOpen : c.peerClosed = false)
    (arriving : c.incoming ++ onTheWay = frame (snappy.compress pb) ++ rest) :
    let header := messageHeader id text pb (snappy.compress pb) (hashCRC32 (snappy.compress pb))
    recvBody function snappy type header c = .error .blocks ∨
      ∃ more, more ++ onTheWay = rest ∧
        recvBody function snappy type header c = .ok (.ok message, { c with incoming := more }) := by
  intro header
  rcases frame_partial arriving with early | ⟨more, whole, behind⟩
  · refine Or.inl ?_
    rw [recvBody, recvFrame_early short isOpen early.1 early.2]
    rfl
  · exact Or.inr ⟨more, behind, recvBody_frame function id text lossless parses counted short whole⟩

/-!
### What is refused

A body whose checksum differs, and so every body damaged by a short burst of bits.
-/

/-- A body that differs from the one announced in one stretch of at most 32 bits
is refused, and the stream is left where the next frame starts. -/
theorem recvBody_of_burst {header : WireHeader} {body body' : StdString}
    {front burst burst' after : List Bool}
    (announced : header.checksum = some (hashCRC32 body)) (small : body'.length < 2147483648)
    (bits : bitsOf body = front ++ burst ++ after) (bits' : bitsOf body' = front ++ burst' ++ after)
    (sameLength : burst.length = burst'.length) (short : burst.length ≤ 32) (differ : burst ≠ burst')
    (arrived : c.incoming = frame body' ++ rest) :
    recvBody function snappy type header c =
      .ok (.error (failure function "Unexpected checksum."), { c with incoming := rest }) := by
  have different : hashCRC32 body' ≠ header.checksumValue := by
    rw [WireHeader.checksumValue, announced, Option.getD_some]
    exact (hashCRC32_ne_of_burst bits bits' sameLength short differ).symm
  rw [recvBody, recvFrame_frame small arrived]
  simp only [bind, Except.bind, acceptBody, if_true, checksumOf_of_lt (Nat.lt_of_lt_of_le small (by decide)),
    Except.map, checkBody, if_neg different]

/-- What is taken as a message came in one frame of the checksum the header
announces, which unpacks to the length it announces. -/
theorem recvBody_accepted {header : WireHeader} {message : μ} {c' : Conn}
    (received : recvBody function snappy type header c = .ok (.ok message, c')) :
    ∃ compressed pb, c.recvFrame [] = .ok ((true, compressed), c') ∧
      hashCRC32 compressed = header.checksumValue ∧ snappy.uncompress compressed = some pb ∧
      pb.length = (header.rawLen.getD 0).toNat ∧ type.parseFromString pb = some message := by
  rw [recvBody] at received
  cases frame : c.recvFrame [] with
  | error halt =>
      rw [frame] at received
      cases received
  | ok result =>
      obtain ⟨⟨arrived, compressed⟩, behind⟩ := result
      rw [frame] at received
      simp only [bind, Except.bind, acceptBody] at received
      cases arrived with
      | false => cases received
      | true =>
          rw [if_pos rfl] at received
          cases loop : hashCRC32Loop compressed (compressed.length + 1) 0 (~~~0#32) with
          | none =>
              rw [checksumOf, loop] at received
              cases received
          | some checksum =>
              have computed := (hashCRC32Loop_eq_some_iff.mp ⟨_, loop⟩).2
              rw [checksumOf, loop] at received
              simp only [Except.map, Except.ok.injEq, Prod.mk.injEq] at received
              obtain ⟨accepted, same⟩ := received
              rw [checkBody] at accepted
              split_ifs at accepted with agrees
              cases unpacked : snappy.uncompress compressed with
              | none =>
                  rw [unpacked] at accepted
                  cases accepted
              | some pb =>
                  rw [unpacked] at accepted
                  simp only [] at accepted
                  split_ifs at accepted with length
                  cases parsed : type.parseFromString pb with
                  | none =>
                      rw [parsed] at accepted
                      cases accepted
                  | some message' =>
                      rw [parsed] at accepted
                      cases accepted
                      exact ⟨compressed, pb, by rw [same], by rw [← computed]; exact agrees, unpacked,
                        length, parsed⟩

/-!
### Bytes that arrive later

Receiving a body is patient: it returns the same when more bytes have arrived.
-/

/-- A computation between two reads. -/
theorem patient_lift {α : Type} (result : Except Halt α) : Patient fun c => result.map fun a => (a, c) := by
  intro c c' a more isOpen returned
  cases result with
  | error halt => cases returned
  | ok a =>
      cases returned
      exact ⟨isOpen, rfl⟩

/-- A body is received in the same way however its bytes arrive, and bytes
behind it are left. -/
theorem patient_recvBody (function : String) (snappy : Snappy) (type : MessageType μ) (header : WireHeader) :
    Patient (recvBody function snappy type header) := by
  have decides : ∀ frame : Bool × StdString, Patient fun c =>
      (acceptBody function snappy type header frame.1 frame.2).map fun message => (message, c) :=
    fun frame => patient_lift _
  intro c c' message more
  exact Patient.bind (patient_recvFrame []) decides more

/-- The body `hello`, on a connection on which three more bytes arrive meanwhile. -/
theorem patient_recvBody_hello :
    recvBody "RecvRequestBody" { compress := fun data => data, uncompress := some }
        { serializeToString := some, parseFromString := some }
        (messageHeader 7 (ascii "Echo") (ascii "hello") (ascii "hello") (hashCRC32 (ascii "hello")))
        { incoming := frame (ascii "hello") ++ [1, 2, 3], peerClosed := false, sent := [], accepts := none } =
      .ok (.ok (ascii "hello"),
        { incoming := [1, 2, 3], peerClosed := false, sent := [], accepts := none }) := by
  let snappy : Snappy := { compress := fun data => data, uncompress := some }
  let type : MessageType StdString := { serializeToString := some, parseFromString := some }
  let c : Conn := { incoming := frame (ascii "hello"), peerClosed := false, sent := [], accepts := none }
  have arrived : c.incoming = frame (snappy.compress (ascii "hello")) ++ [] := (List.append_nil _).symm
  have returned := recvBody_frame "RecvRequestBody" 7 (ascii "Echo") (fun _ => rfl)
    (rfl : type.parseFromString (ascii "hello") = some (ascii "hello")) (by decide) (by decide) arrived
  exact (patient_recvBody "RecvRequestBody" snappy type _ [1, 2, 3] rfl returned).2

end Q3df.Rpc
