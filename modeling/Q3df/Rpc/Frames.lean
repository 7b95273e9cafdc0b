/-
Module: Q3df.Rpc.Frames
Layer: Rpc
Purpose: Frames on a connection: a length and that many bytes. Every string a process can hold
  arrives as it was sent; a size that no string can have makes the receiver throw. Frames one after
  the other are received one after the other, and of a stream that is cut off only the frames that
  are complete.
Imports: Q3df.Rpc.Conn
Trusted boundary: human-reviewed transcription of RecvFrame and SendFrame of
  tools/protobuf/src/google/protobuf/rpc/rpc_conn.cc, in a process of 32 bits; allocations do not
  fail, and where nothing else is said a string can have any length below 2 GiB
Main exports: StdString, maxStringSize, resize, Conn.sendFrame, Conn.recvFrame, frame,
  recvFrame_frame, recvFrame_throws_iff, sendFrame_recvFrame, recvFrame_cut, frame_partial,
  recvFrames, recvFrames_frames, recvFrames_cut, patient_recvFrame
Open obligations: none
-/
import Q3df.Rpc.Conn

namespace Q3df.Rpc

/-- A `std::string` that holds bytes. -/
abbrev StdString := List Byte

/-- `int(size)`. -/
def asInt (size : Nat) : Int := (BitVec.ofNat 32 size).toInt

/-- The most bytes that a library can allow a string in a process of 32 bits. -/
def maxStringSize : Nat := 2147483647

/-- `data->resize(n)`, where the library allows a string so many bytes
(`max_size`). -/
def resize (data : StdString) (n : Nat) (maxSize : Nat := maxStringSize) : Except Halt StdString :=
  if maxSize < n then .error .lengthError
  else .ok (data.take n ++ List.replicate (n - data.length) 0)

/-- `SendFrame`; `none` for a null pointer. -/
def Conn.sendFrame (c : Conn) (data : Option StdString) : Bool × Conn :=
  match data with
  | none => c.writeUvarint 0
  | some data =>
      let (written, c) := c.writeUvarint (BitVec.ofNat 64 data.length)
      if written then c.write data (asInt data.length) else (false, c)

/-- What `RecvFrame` makes of the bytes it has read over a string of the size
announced. -/
def filled (resized : StdString) (bytes : Option (List Byte)) : Bool × StdString :=
  match bytes with
  | none => (false, [])
  | some bytes => (true, bytes ++ resized.drop bytes.length)

/-- `RecvFrame` after the size has been read, into a string that already has
contents: a frame of size 0 leaves them. -/
def Conn.recvSized (c : Conn) (data : StdString) (size : Option (BitVec 64))
    (maxSize : Nat := maxStringSize) : Except Halt ((Bool × StdString) × Conn) :=
  match size with
  | none => .ok ((false, data), c)
  | some size =>
      if size = 0 then .ok ((true, data), c)
      else do
        let resized ← resize data (size.toNat % 4294967296) maxSize
        (c.read (size.setWidth 32).toInt).map fun (bytes, c) => (filled resized bytes, c)

/-- `RecvFrame`. -/
def Conn.recvFrame (c : Conn) (data : StdString) (maxSize : Nat := maxStringSize) :
    Except Halt ((Bool × StdString) × Conn) := do
  let (size, c) ← c.readUvarint
  c.recvSized data size maxSize

/-- The bytes a frame takes on the stream when it is below 2 GiB. -/
def frame (data : StdString) : List Byte := Varint.encode data.length ++ data

/-- The bytes `SendFrame` writes. -/
def frameBytes (data : StdString) : List Byte :=
  putUvarint (BitVec.ofNat 64 data.length) ++ data.take (asInt data.length).toNat

/-- Receive so many frames, each into a string of its own; stops at the first
that does not arrive. -/
def recvFrames : Nat → Conn → Except Halt (List StdString × Conn)
  | 0, c => .ok ([], c)
  | n + 1, c => do
      let ((arrived, data), c) ← c.recvFrame []
      if arrived then
        let (frames, c) ← recvFrames n c
        return (data :: frames, c)
      else return ([], c)

variable {c : Conn} {data rest : StdString} {maxSize : Nat}

/-!
### Sizes

Lengths pass through `int` and `size_t` of 32 bits. Below 2^31 nothing is lost
on the way.
-/

theorem asInt_of_lt {n : Nat} (small : n < 2147483648) : asInt n = n := by
  rw [asInt, BitVec.toInt_eq_toNat_of_lt] <;> rw [BitVec.toNat_ofNat] <;> omega

/-- Below 2^31 bytes the frame is the length and the data. -/
theorem frameBytes_of_lt (small : data.length < 2147483648) : frameBytes data = frame data := by
  have fits : (BitVec.ofNat 64 data.length).toNat = data.length := by
    rw [BitVec.toNat_ofNat]
    exact Nat.mod_eq_of_lt (by omega)
  rw [frameBytes, frame, putUvarint_eq_encode, fits, asInt_of_lt small, Int.toNat_natCast, List.take_length]

/-- An empty string is resized to as many zero bytes. -/
theorem resize_nil {n : Nat} (holds : n ≤ maxSize) : resize [] n maxSize = .ok (List.replicate n 0) := by
  rw [resize, if_neg (Nat.not_lt.mpr holds), List.take_nil, List.nil_append, List.length_nil, Nat.sub_zero]

/-!
### One frame

A frame is a length and as many bytes. What `RecvFrame` makes of an announced
length is followed for every number, those included that no string can hold.
-/

/-- On a connection whose `send` reports no error, the whole frame goes out. -/
theorem sendFrame_eq (healthy : c.accepts = none) :
    c.sendFrame (some data) = (true, { c with sent := c.sent ++ frameBytes data }) := by
  simp [Conn.sendFrame, Conn.writeUvarint, Conn.write, healthy, frameBytes]

/-- A frame below 2 GiB that a string can hold arrives as it was sent, and the
stream is left where the next one starts. -/
theorem recvFrame_frame_of_le (holds : data.length ≤ maxSize) (small : data.length < 2147483648)
    (arrived : c.incoming = frame data ++ rest) :
    c.recvFrame [] maxSize = .ok ((true, data), { c with incoming := rest }) := by
  have size : (BitVec.ofNat 64 data.length).toNat = data.length := by
    rw [BitVec.toNat_ofNat]
    exact Nat.mod_eq_of_lt (by omega)
  have number : c.readUvarint =
      .ok (some (BitVec.ofNat 64 data.length), { c with incoming := data ++ rest }) := by
    apply readUvarint_putUvarint
    rw [arrived, frame, putUvarint_eq_encode, size, List.append_assoc]
  simp only [Conn.recvFrame, number, bind, Except.bind, Conn.recvSized]
  by_cases empty : BitVec.ofNat 64 data.length = 0
  · have noBytes : data = [] := by
      apply List.eq_nil_of_length_eq_zero
      rw [← size, empty]
      rfl
    subst noBytes
    exact if_pos empty
  · have narrow : ((BitVec.ofNat 64 data.length).setWidth 32).toInt = data.length := by
      rw [BitVec.setWidth_ofNat_of_le (by decide)]
      exact asInt_of_lt small
    have low : data.length % 4294967296 = data.length := Nat.mod_eq_of_lt (by omega)
    have body : Conn.read { c with incoming := data ++ rest } data.length =
        .ok (some data, { c with incoming := rest }) := by
      rw [Conn.read, Int.toNat_natCast, if_pos (by rw [List.length_append]; exact Nat.le_add_right _ _),
        List.take_left, List.drop_left]
    simp only [if_neg empty, narrow, body, Except.map, filled, size, low, resize_nil holds,
      List.drop_replicate, Nat.sub_self, List.replicate_zero, List.append_nil]

/-- The same where a string can have any length below 2 GiB. -/
theorem recvFrame_frame (small : data.length < 2147483648) (arrived : c.incoming = frame data ++ rest) :
    c.recvFrame [] = .ok ((true, data), { c with incoming := rest }) :=
  recvFrame_frame_of_le (Nat.le_of_lt_succ small) small arrived

/-- Nothing but the size makes `RecvFrame` throw. -/
theorem readUvarint_ne_lengthError (c : Conn) : c.readUvarint ≠ .error .lengthError := by
  rw [readUvarint_eq]
  split <;> split_ifs <;> simp

/-- The string cannot be resized exactly if the announced length exceeds what a
string can hold. -/
theorem recvSized_throws_iff {size : Option (BitVec 64)} :
    c.recvSized data size maxSize = .error .lengthError ↔
      ∃ announced, size = some announced ∧ maxSize < announced.toNat % 4294967296 := by
  cases size with
  | none => simp [Conn.recvSized]
  | some size =>
      rw [Conn.recvSized]
      by_cases empty : size = 0
      · simp [empty]
      · rw [if_neg empty, resize]
        by_cases large : maxSize < size.toNat % 4294967296
        · simp [large, bind, Except.bind]
        · rw [if_neg large, Conn.read]
          simp only [bind, Except.bind, Option.some.injEq, exists_eq_left', large, iff_false]
          split_ifs <;> simp [Except.map]

/-- `RecvFrame` throws exactly if the low word of the size in front of the frame
is more than a string can have, whatever stands behind it. -/
theorem recvFrame_throws_iff (c : Conn) (data : StdString) (maxSize : Nat) :
    c.recvFrame data maxSize = .error .lengthError ↔
      ∃ size c', c.readUvarint = .ok (some size, c') ∧ maxSize < size.toNat % 4294967296 := by
  rw [Conn.recvFrame]
  cases number : c.readUvarint with
  | error halt =>
      have other : halt ≠ .lengthError := by
        rintro rfl
        exact readUvarint_ne_lengthError c number
      simp [bind, Except.bind, other]
  | ok read =>
      obtain ⟨size, behind⟩ := read
      refine recvSized_throws_iff.trans ?_
      constructor
      · rintro ⟨announced, rfl, large⟩
        exact ⟨announced, behind, rfl, large⟩
      · rintro ⟨announced, behind', same, large⟩
        cases same
        exact ⟨announced, rfl, large⟩

/-- Whatever the library allows a string: the receiver of a frame is thrown out
exactly by its size, if the low word is more than that, and the bytes of the
number are enough for it. What `SendFrame` writes of a string that the process
can hold, on a connection whose `send` reports no error, is received as it was
sent, in front of any bytes. -/
theorem sendFrame_recvFrame (c : Conn) (maxSize : Nat) :
    (∀ data, c.recvFrame data maxSize = .error .lengthError ↔
      ∃ size c', c.readUvarint = .ok (some size, c') ∧ maxSize < size.toNat % 4294967296) ∧
    ∀ (peer : Conn) (data : StdString) (rest : List Byte), peer.accepts = none →
      data.length ≤ min maxSize maxStringSize →
      ∃ bytes, peer.sendFrame (some data) = (true, { peer with sent := peer.sent ++ bytes }) ∧
        (c.incoming = bytes ++ rest → c.recvFrame [] maxSize =
          .ok ((true, data), { c with incoming := rest })) := by
  refine ⟨fun data => recvFrame_throws_iff c data maxSize, ?_⟩
  intro peer data rest healthy holds
  obtain ⟨allowed, counted⟩ := Nat.le_min.mp holds
  have small : data.length < 2147483648 := Nat.lt_succ_of_le counted
  refine ⟨frame data, ?_, recvFrame_frame_of_le allowed small⟩
  rw [← frameBytes_of_lt small]
  exact sendFrame_eq healthy

/-- Five bytes are enough. -/
example : Conn.recvFrame { incoming := [0xff#8, 0xff#8, 0xff#8, 0xff#8, 0x0f#8], peerClosed := false
                           sent := [], accepts := none } [] = .error .lengthError := by
  decide

/-- Of a frame that is cut off nothing is delivered: the receiver fails when the
peer has closed, and waits for the rest while it has not. -/
theorem recvFrame_cut (small : data.length < 2147483648) (cut : c.incoming <+: frame data)
    (shorter : c.incoming.length < (frame data).length) :
    c.recvFrame [] =
      if c.peerClosed then .ok ((false, []), { c with incoming := [] }) else .error .blocks := by
  have size : (BitVec.ofNat 64 data.length).toNat = data.length := by
    rw [BitVec.toNat_ofNat]
    exact Nat.mod_eq_of_lt (by omega)
  have number : Varint.encode data.length = putUvarint (BitVec.ofNat 64 data.length) := by
    rw [putUvarint_eq_encode, size]
  rw [frame, number] at cut shorter
  rcases Nat.lt_or_ge c.incoming.length (putUvarint (BitVec.ofNat 64 data.length)).length with early | late
  · have inNumber := List.prefix_of_prefix_length_le cut (List.prefix_append _ _) (Nat.le_of_lt early)
    rw [Conn.recvFrame, readUvarint_cut inNumber early]
    cases c.peerClosed <;> rfl
  · obtain ⟨body, arrived⟩ := List.prefix_of_prefix_length_le (List.prefix_append _ _) cut late
    rw [← arrived, List.length_append, List.length_append] at shorter
    have missing : body.length < data.length := by omega
    have nonempty : BitVec.ofNat 64 data.length ≠ 0 := by
      intro empty
      rw [empty] at size
      simp at size
      omega
    have narrow : ((BitVec.ofNat 64 data.length).setWidth 32).toInt = data.length := by
      rw [BitVec.setWidth_ofNat_of_le (by decide)]
      exact asInt_of_lt small
    have short : ¬data.length ≤ body.length := Nat.not_le.mpr missing
    rw [Conn.recvFrame, readUvarint_putUvarint arrived.symm]
    have low : data.length % 4294967296 = data.length := Nat.mod_eq_of_lt (by omega)
    have holds : data.length ≤ maxStringSize := Nat.le_of_lt_succ small
    simp only [bind, Except.bind, Conn.recvSized, if_neg nonempty, size, low, resize_nil holds, narrow,
      Conn.read, Int.toNat_natCast, if_neg short]
    cases c.peerClosed <;> rfl

/-- Of a frame some of whose bytes are still on their way, a part has arrived or
all of it. -/
theorem frame_partial {incoming onTheWay : List Byte} (arriving : incoming ++ onTheWay = frame data ++ rest) :
    (incoming <+: frame data ∧ incoming.length < (frame data).length) ∨
      ∃ more, incoming = frame data ++ more ∧ more ++ onTheWay = rest := by
  rcases Nat.lt_or_ge incoming.length (frame data).length with early | late
  · exact Or.inl ⟨List.prefix_of_prefix_length_le ⟨_, arriving⟩ (List.prefix_append _ _)
      (Nat.le_of_lt early), early⟩
  · obtain ⟨more, whole⟩ := List.prefix_of_prefix_length_le
        (List.prefix_append _ _) ⟨_, arriving⟩ late
    rw [← whole, List.append_assoc] at arriving
    exact Or.inr ⟨more, whole.symm, List.append_cancel_left arriving⟩

/-- A frame that has not arrived completely keeps the reader waiting. -/
theorem recvFrame_early (small : data.length < 2147483648) (isOpen : c.peerClosed = false)
    (cut : c.incoming <+: frame data) (shorter : c.incoming.length < (frame data).length) :
    c.recvFrame [] = .error .blocks := by
  have waits := recvFrame_cut small cut shorter
  rwa [isOpen] at waits

/-!
### Frames one after the other

What the reader has taken never reaches into the next frame, so a stream of
frames is read frame by frame and a stream that breaks off gives those that were
complete.
-/

/-- The frames of a stream come out one after the other as they were sent, and
the stream is left behind the last one. -/
theorem recvFrames_frames {frames : List StdString} (small : ∀ data ∈ frames, data.length < 2147483648)
    (arrived : c.incoming = frames.flatMap frame ++ rest) :
    recvFrames frames.length c = .ok (frames, { c with incoming := rest }) := by
  induction frames generalizing c with
  | nil =>
      rw [List.flatMap_nil, List.nil_append] at arrived
      subst arrived
      rfl
  | cons data frames inductionHypothesis =>
      rw [List.flatMap_cons, List.append_assoc] at arrived
      have first := recvFrame_frame (small data List.mem_cons_self) arrived
      have others := @inductionHypothesis { c with incoming := frames.flatMap frame ++ rest }
        (fun data among => small data (List.mem_cons_of_mem _ among)) rfl
      simp only [List.length_cons, recvFrames, first, others, bind, Except.bind, pure, Except.pure, if_true]

/-- Two frames, one of them empty, and a byte behind them. -/
theorem recvFrames_frames_two :
    recvFrames 2 { incoming := [2#8, 7#8, 8#8, 0#8, 9#8], peerClosed := false, sent := [], accepts := none } =
      .ok ([[7#8, 8#8], []], { incoming := [9#8], peerClosed := false, sent := [], accepts := none }) :=
  @recvFrames_frames
    { incoming := [2#8, 7#8, 8#8, 0#8, 9#8], peerClosed := false, sent := [], accepts := none }
    [9#8] [[7#8, 8#8], []] (by decide) (by decide)

/-- Of a stream that is cut off, exactly the complete frames come out. -/
theorem recvFrames_cut {frames : List StdString} (small : ∀ data ∈ frames, data.length < 2147483648)
    (closed : c.peerClosed = true) (cut : c.incoming <+: frames.flatMap frame)
    (shorter : c.incoming.length < (frames.flatMap frame).length) :
    ∃ complete others : List StdString, ∃ data, frames = complete ++ data :: others ∧
      complete.flatMap frame <+: c.incoming ∧
      c.incoming.length < ((complete ++ [data]).flatMap frame).length ∧
      recvFrames frames.length c = .ok (complete, { c with incoming := [] }) := by
  induction frames generalizing c with
  | nil => simp at shorter
  | cons data frames inductionHypothesis =>
      rw [List.flatMap_cons] at cut shorter
      rcases Nat.lt_or_ge c.incoming.length (frame data).length with early | late
      · have inFrame := List.prefix_of_prefix_length_le cut (List.prefix_append _ _) (Nat.le_of_lt early)
        have failed := recvFrame_cut (small data List.mem_cons_self) inFrame early
        rw [if_pos closed] at failed
        refine ⟨[], frames, data, rfl, List.nil_prefix, by simpa using early, ?_⟩
        simp only [List.length_cons, recvFrames, failed, bind, Except.bind, pure, Except.pure]
        rfl
      · obtain ⟨behind, arrived⟩ := List.prefix_of_prefix_length_le (List.prefix_append _ _) cut late
        have first := recvFrame_frame (small data List.mem_cons_self) arrived.symm
        rw [← arrived] at cut shorter
        obtain ⟨complete, others, last, rfl, inside, ends, looped⟩ :=
          @inductionHypothesis { c with incoming := behind }
            (fun data among => small data (List.mem_cons_of_mem _ among)) closed
            ((List.prefix_append_right_inj _).mp cut) (by simp at shorter ⊢; omega)
        refine ⟨data :: complete, others, last, rfl, ?_, ?_, ?_⟩
        · rw [← arrived, List.flatMap_cons]
          exact (List.prefix_append_right_inj _).mpr inside
        · rw [← arrived]
          simp at ends ⊢
          omega
        · simp only [List.length_cons, recvFrames, first, looped, bind, Except.bind, pure,
            Except.pure, if_true]

/-- Two frames, the second of them cut off. -/
theorem recvFrames_cut_two : ∃ complete others : List StdString, ∃ data,
    [[7#8, 8#8], [5#8, 6#8]] = complete ++ data :: others ∧
      complete.flatMap frame <+: [2#8, 7#8, 8#8, 2#8] ∧ 4 < ((complete ++ [data]).flatMap frame).length ∧
      recvFrames 2 { incoming := [2#8, 7#8, 8#8, 2#8], peerClosed := true, sent := [], accepts := none } =
        .ok (complete, { incoming := [], peerClosed := true, sent := [], accepts := none }) :=
  @recvFrames_cut { incoming := [2#8, 7#8, 8#8, 2#8], peerClosed := true, sent := [], accepts := none }
    [[7#8, 8#8], [5#8, 6#8]] (by decide) rfl (by decide) (by decide)

theorem patient_recvSized (data : StdString) (size : Option (BitVec 64)) :
    Patient fun c => c.recvSized data size := by
  cases size with
  | none => exact patient_pure _
  | some size =>
      by_cases empty : size = 0
      · simp only [Conn.recvSized, if_pos empty]
        exact patient_pure _
      · simp only [Conn.recvSized, if_neg empty]
        cases resized : resize data (size.toNat % 4294967296) with
        | error halt =>
            intro more isOpen impossible
            cases impossible
        | ok resized => exact Patient.map (patient_read _) _

/-- Receiving a frame is patient. -/
theorem patient_recvFrame (data : StdString) : Patient fun c => c.recvFrame data :=
  Patient.bind patient_readUvarint fun size => patient_recvSized data size

end Q3df.Rpc
