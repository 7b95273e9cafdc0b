/-
Module: Q3df.Rpc.Conn
Layer: Rpc
Purpose: One end of a stream connection: reading and writing bytes, and the length numbers in front
  of every frame. Reading is the same however the bytes were cut up on the way. The number reader is
  described on every input: which bytes it takes, which it refuses, where it waits, and where it
  shifts a word by more than its width, which C++ leaves undefined.
Imports: Q3df.Library.Varint, Q3df.Rpc.HashCrc32
Trusted boundary: human-reviewed transcription of ReadUvarint, WriteUvarint and putUvarint of
  tools/protobuf/src/google/protobuf/rpc/rpc_conn.cc and of Read and Write of rpc_conn_posix.cc;
  `recv` hands out the bytes of a connection in their order; allocations do not fail
Main exports: Halt, Conn, readLoop, Conn.read, Conn.write, Conn.readUvarint, putUvarint, Patient,
  readLoop_eq, read_eq_readLoop, readUvarint_eq, readUvarint_undefined_iff, putUvarint_eq_encode,
  length_putUvarint_le, readUvarint_putUvarint, patient_read, patient_readUvarint
Open obligations: none
-/
import Q3df.Library.Varint
import Q3df.Rpc.HashCrc32

namespace Q3df.Rpc

/-- Why a call on a connection does not return: it waits for bytes that have not
come, it runs into an operation that C++ leaves undefined, it is in a loop that
does not end, or a string would have to be longer than strings can be, which
throws `std::length_error`. -/
inductive Halt where
  | blocks
  | undefined
  | spins
  | lengthError
deriving DecidableEq, Repr

/-- One end of a connection: the bytes that have arrived and were not read,
whether the peer has closed its end, the bytes `send` has taken, and how many
more it takes before it reports an error (`none`: it never does). -/
structure Conn where
  incoming : List Byte
  peerClosed : Bool
  sent : List Byte
  accepts : Option Nat
deriving DecidableEq, Repr

/-- More bytes arrive. -/
def Conn.arrive (c : Conn) (more : List Byte) : Conn := { c with incoming := c.incoming ++ more }

/-!
### Reading and writing

`recv` hands out what one packet brought, or the part of it that fits; `Read`
repeats it until it has all it wants.
-/

/-- The loop of `Read` over the packets that have arrived, for so many bytes:
what it got, the packets left, and how many bytes are missing. -/
def readLoop : List (List Byte) → Nat → List Byte × List (List Byte) × Nat
  | [], len => ([], [], len)
  | packet :: packets, len =>
      if len = 0 then ([], packet :: packets, 0)
      else if packet.length ≤ len then
        let (got, left, missing) := readLoop packets (len - packet.length)
        (packet ++ got, left, missing)
      else (packet.take len, packet.drop len :: packets, 0)

/-- `Read`: exactly `len` bytes; nothing and false when the peer closes before
they have come. A negative length reads nothing. -/
def Conn.read (c : Conn) (len : Int) : Except Halt (Option (List Byte) × Conn) :=
  if len.toNat ≤ c.incoming.length then
    .ok (some (c.incoming.take len.toNat), { c with incoming := c.incoming.drop len.toNat })
  else if c.peerClosed then .ok (none, { c with incoming := [] })
  else .error .blocks

/-- `Write` of the first `len` bytes of a buffer; nothing when `len` is negative. -/
def Conn.write (c : Conn) (buf : List Byte) (len : Int) : Bool × Conn :=
  let bytes := buf.take len.toNat
  match c.accepts with
  | none => (true, { c with sent := c.sent ++ bytes })
  | some room =>
      if bytes.length ≤ room then
        (true, { c with sent := c.sent ++ bytes, accepts := some (room - bytes.length) })
      else (false, { c with sent := c.sent ++ bytes.take room, accepts := some 0 })

/-!
### Numbers

A length is written seven bits at a time and read with a shift that grows by
seven. The shift is a byte, and past the tenth byte C leaves its effect open.
-/

/-- The loop of `ReadUvarint`. The shift counter `s` is a `uint8`; a shift by 64
or more is undefined. -/
def readUvarintLoop (peerClosed : Bool) :
    List Byte → Nat → BitVec 64 → BitVec 8 → Except Halt (Option (BitVec 64) × List Byte)
  | [], _, _, _ => if peerClosed then .ok (none, []) else .error .blocks
  | b :: incoming, i, x, s =>
      if b.toNat < 0x80 then
        if (9 < i ∨ i = 9) ∧ 1 < b.toNat then .ok (none, incoming)
        else if s.toNat < 64 then .ok (some (x ||| b.setWidth 64 <<< s.toNat), incoming)
        else .error .undefined
      else if s.toNat < 64 then
        readUvarintLoop peerClosed incoming (i + 1) (x ||| (b &&& 0x7f#8).setWidth 64 <<< s.toNat) (s + 7)
      else .error .undefined

/-- `ReadUvarint`; `none` for false. -/
def Conn.readUvarint (c : Conn) : Except Halt (Option (BitVec 64) × Conn) := do
  let (x, incoming) ← readUvarintLoop c.peerClosed c.incoming 0 0 0
  return (x, { c with incoming := incoming })

/-- The loop of `putUvarint`, for so many rounds. -/
def putUvarintLoop : Nat → BitVec 64 → List Byte
  | 0, x => [x.setWidth 8]
  | rounds + 1, x =>
      if 0x80 ≤ x.toNat then (x.setWidth 8 ||| 0x80#8) :: putUvarintLoop rounds (x >>> 7)
      else [x.setWidth 8]

/-- What `putUvarint` leaves in its buffer. A word of 64 bits is shifted away
after fewer rounds than these. -/
def putUvarint (x : BitVec 64) : List Byte := putUvarintLoop 64 x

/-- `WriteUvarint`. -/
def Conn.writeUvarint (c : Conn) (x : BitVec 64) : Bool × Conn :=
  c.write (putUvarint x) (putUvarint x).length

/-- A call on a connection that is not in a hurry: once it returns, it returns
the same in front of any bytes that arrive later, and leaves these alone. -/
def Patient {α : Type} (call : Conn → Except Halt (α × Conn)) : Prop :=
  ∀ {c c' : Conn} {a : α} (more : List Byte), c.peerClosed = false → call c = .ok (a, c') →
    c'.peerClosed = false ∧ call (c.arrive more) = .ok (a, c'.arrive more)

variable {c : Conn} {incoming rest more : List Byte}

/-!
### Packets

`Read` asks again until it has all it wants. How the bytes were cut into packets
makes no difference.
-/

/-- However the bytes were cut up, the loop gets the first of them and leaves
the others. -/
theorem readLoop_eq (packets : List (List Byte)) (len : Nat) :
    ∃ left, readLoop packets len = (packets.flatten.take len, left, len - packets.flatten.length) ∧
      left.flatten = packets.flatten.drop len := by
  induction packets generalizing len with
  | nil => exact ⟨[], by simp [readLoop]⟩
  | cons packet packets inductionHypothesis =>
      rw [readLoop, List.flatten_cons]
      by_cases done : len = 0
      · subst done
        exact ⟨packet :: packets, by simp⟩
      · by_cases whole : packet.length ≤ len
        · obtain ⟨left, looped, after⟩ := inductionHypothesis (len - packet.length)
          refine ⟨left, ?_, ?_⟩
          · rw [if_neg done, if_pos whole, looped, List.take_append, List.take_of_length_le whole,
              List.length_append, Nat.sub_sub]
          · rw [after, List.drop_append, List.drop_of_length_le whole, List.nil_append]
        · have inside : len ≤ packet.length := Nat.le_of_not_le whole
          refine ⟨packet.drop len :: packets, ?_, ?_⟩
          · have enough : len - (packet.length + packets.flatten.length) = 0 := by omega
            rw [if_neg done, if_neg whole, List.take_append_of_le_length inside, List.length_append, enough]
          · rw [List.drop_append_of_le_length inside, List.flatten_cons]

/-- `Read` in terms of the packets. -/
theorem read_eq_readLoop {packets : List (List Byte)} (arrived : c.incoming = packets.flatten) (len : Int) :
    c.read len =
      let (got, left, missing) := readLoop packets len.toNat
      if missing = 0 then .ok (some got, { c with incoming := left.flatten })
      else if c.peerClosed then .ok (none, { c with incoming := left.flatten })
      else .error .blocks := by
  obtain ⟨left, looped, after⟩ := readLoop_eq packets len.toNat
  rw [looped, Conn.read, arrived]
  simp only [after]
  rcases Nat.lt_or_ge packets.flatten.length len.toNat with short | enough
  · have missing : len.toNat - packets.flatten.length ≠ 0 := by omega
    rw [if_neg (Nat.not_le.mpr short), if_neg missing, List.drop_of_length_le (Nat.le_of_lt short)]
  · have complete : len.toNat - packets.flatten.length = 0 := by omega
    rw [if_pos enough, if_pos complete]

/-- Three bytes in two packets, two of them asked for. -/
theorem read_eq_readLoop_packets :
    Conn.read { incoming := [1#8, 2#8, 3#8], peerClosed := false, sent := [], accepts := none } 2 =
      let (got, left, missing) := readLoop [[1#8], [2#8, 3#8]] 2
      if missing = 0 then
        .ok (some got, { incoming := left.flatten, peerClosed := false, sent := [], accepts := none })
      else .error .blocks :=
  @read_eq_readLoop { incoming := [1#8, 2#8, 3#8], peerClosed := false, sent := [], accepts := none }
    [[1#8], [2#8, 3#8]] rfl 2

/-!
### Writing numbers

The loop writes the shortest encoding, in at most ten bytes.
-/

theorem setWidth_eq_ofNat {v : Nat} (w : Nat) (x : BitVec v) : x.setWidth w = BitVec.ofNat w x.toNat :=
  BitVec.eq_of_toNat_eq (by rw [BitVec.toNat_setWidth, BitVec.toNat_ofNat])

theorem or_high : ∀ b : Byte, b ||| 0x80#8 = BitVec.ofNat 8 (b.toNat % 128 + 128) := by
  decide +kernel

/-- The byte that is sent holds the lowest digit and continues. -/
theorem setWidth_or_high (x : BitVec 64) :
    x.setWidth 8 ||| 0x80#8 = BitVec.ofNat 8 (x.toNat % 128 + 128) := by
  have low : (x.setWidth 8).toNat % 128 = x.toNat % 128 := by
    rw [BitVec.toNat_setWidth]
    exact Nat.mod_mod_of_dvd _ (by decide)
  rw [or_high, low]

/-- A loop with room for all digits writes the shortest encoding. -/
theorem putUvarintLoop_eq {rounds : Nat} (x : BitVec 64) (room : x.toNat < 128 ^ (rounds + 1)) :
    putUvarintLoop rounds x = Varint.encode x.toNat := by
  induction rounds generalizing x with
  | zero =>
      have short : x.toNat < 128 := by simpa using room
      rw [putUvarintLoop, Varint.encode_of_lt short, setWidth_eq_ofNat]
  | succ rounds inductionHypothesis =>
      rw [putUvarintLoop]
      by_cases long : 0x80 ≤ x.toNat
      · have next : (x >>> 7).toNat = x.toNat / 128 := by
          rw [BitVec.toNat_ushiftRight, Nat.shiftRight_eq_div_pow]
        rw [if_pos long, Varint.encode_of_ge long, setWidth_or_high,
          inductionHypothesis _ (by rw [next]; exact Varint.div_lt_pow room), next]
      · rw [if_neg long, Varint.encode_of_lt (Nat.lt_of_not_le long), setWidth_eq_ofNat]

/-- The writer's bytes are the shortest group of the number. -/
theorem putUvarint_eq_encode (x : BitVec 64) : putUvarint x = Varint.encode x.toNat :=
  putUvarintLoop_eq x (Nat.lt_of_lt_of_le x.isLt (by decide))

/-- They fit the buffer of `maxVarintLen64` bytes. -/
theorem length_putUvarint_le (x : BitVec 64) : (putUvarint x).length ≤ 10 := by
  rw [putUvarint_eq_encode]
  exact Varint.length_encode_le (Nat.lt_of_lt_of_le x.isLt (by decide))

/-!
### Reading numbers

A number has up to ten bytes and fits 64 bits. Anything longer is refused, or
runs into a shift that C leaves undefined: the last byte decides.
-/

theorem and_low : ∀ b : Byte, (b &&& 0x7f#8).toNat = Varint.payload b := by
  decide +kernel

theorem setWidth_of_continues (b : Byte) :
    (b &&& 0x7f#8).setWidth 64 = BitVec.ofNat 64 (Varint.payload b) := by
  rw [setWidth_eq_ofNat, and_low]

theorem setWidth_of_last {b : Byte} (ends : b.toNat < 128) :
    b.setWidth 64 = BitVec.ofNat 64 (Varint.payload b) := by
  rw [setWidth_eq_ofNat, Varint.payload_of_last ends]

/-- The shift does not wrap within ten bytes. -/
theorem toNat_shift {n : Nat} (inside : n ≤ 10) : (BitVec.ofNat 8 (7 * n)).toNat = 7 * n := by
  rw [BitVec.toNat_ofNat]
  exact Nat.mod_eq_of_lt (by omega)

/-- Nine bytes and a last one stand for a word of 64 bits exactly when the last
one is at most 1. -/
theorem value_concat_lt_iff {front : List Byte} {b : Byte} (inside : front.length ≤ 9)
    (ends : b.toNat < 128) :
    Varint.value (front ++ [b]) < 18446744073709551616 ↔ ¬(front.length = 9 ∧ 1 < b.toNat) := by
  have low := Varint.value_lt front
  rw [Varint.value_append, Varint.value_cons, Varint.value_nil, Varint.payload_of_last ends, Nat.mul_zero,
    Nat.add_zero]
  rcases Nat.lt_or_eq_of_le inside with fewer | nine
  · have power : 128 ^ front.length ≤ 128 ^ 8 := Nat.pow_le_pow_right (by decide) (by omega)
    have digit : 128 ^ front.length * b.toNat ≤ 128 ^ 8 * 127 := Nat.mul_le_mul power (by omega)
    constructor
    · omega
    · intro _
      have sum : Varint.value front + 128 ^ front.length * b.toNat < 128 ^ 8 + 128 ^ 8 * 127 := by omega
      exact Nat.lt_of_lt_of_le sum (by decide)
  · rw [nine] at low ⊢
    omega

/-- The counters after so many bytes, none of them the last: the loop is
described by what it does with the ten or eleven bytes that decide about the
number. -/
theorem readUvarintLoop_eq (peerClosed : Bool) (front : List Byte) (inside : front.length ≤ 10) :
    readUvarintLoop peerClosed incoming front.length (BitVec.ofNat 64 (Varint.value front))
        (BitVec.ofNat 8 (7 * front.length)) =
      match Varint.groupWithin (11 - front.length) incoming with
      | some (group, rest) =>
          if (front ++ group).length ≤ 10 ∧ Varint.value (front ++ group) < 18446744073709551616 then
            .ok (some (BitVec.ofNat 64 (Varint.value (front ++ group))), rest)
          else if 1 < (group.getLastD 0).toNat then .ok (none, rest)
          else .error .undefined
      | none =>
          if 11 - front.length ≤ incoming.length then .error .undefined
          else if peerClosed then .ok (none, []) else .error .blocks := by
  have decides : 11 - front.length = (10 - front.length) + 1 := by omega
  induction incoming generalizing front with
  | nil => simp [readUvarintLoop, decides, Varint.groupWithin]
  | cons b incoming inductionHypothesis =>
      rw [readUvarintLoop, decides, Varint.groupWithin, toNat_shift inside]
      by_cases ends : b.toNat < 128
      · have length : (front ++ [b]).length ≤ 10 ↔ front.length ≤ 9 := by
          rw [List.length_append, List.length_singleton]
          exact Nat.succ_le_succ_iff
        rw [if_pos ends, if_pos ends]
        simp only [length, List.getLastD_cons, List.getLastD_nil]
        rcases Nat.lt_or_eq_of_le inside with fits | eleventh
        · have nine : front.length ≤ 9 := Nat.le_of_lt_succ fits
          rw [setWidth_of_last ends, Varint.ofNat_value_concat]
          simp only [value_concat_lt_iff nine ends]
          by_cases overflows : front.length = 9 ∧ 1 < b.toNat
          · simp [overflows]
          · have accepted : ¬((9 < front.length ∨ front.length = 9) ∧ 1 < b.toNat) := by omega
            rw [if_neg accepted, if_pos (by omega), if_pos ⟨nine, overflows⟩]
        · simp [eleventh]
      · rw [if_neg ends, if_neg ends]
        rcases Nat.lt_or_eq_of_le inside with fits | eleventh
        · have further : (front ++ [b]).length ≤ 10 := by simp; omega
          have counter : front.length + 1 = (front ++ [b]).length := by simp
          have shift : BitVec.ofNat 8 (7 * front.length) + 7 =
              BitVec.ofNat 8 (7 * (front ++ [b]).length) := by
            rw [← counter, Nat.mul_add, BitVec.ofNat_add]
            rfl
          have bytes : 11 - (front ++ [b]).length = 10 - front.length := by rw [← counter]; omega
          rw [if_pos (by omega), setWidth_of_continues, Varint.ofNat_value_concat, counter, shift,
            inductionHypothesis _ further (by omega), bytes]
          cases found : Varint.groupWithin (10 - front.length) incoming with
          | none => simp
          | some parts =>
              obtain ⟨group, _⟩ := parts
              obtain ⟨last, others, rfl⟩ : ∃ last others, group = last :: others :=
                List.exists_cons_of_ne_nil (Varint.groupWithin_eq_some.mp found).1.ne_nil
              simp
        · simp [eleventh, Varint.groupWithin]

/-- `ReadUvarint` on every input. A group of at most ten bytes below `2 ^ 64` is
read; ten bytes with a last one above 1, and eleven with such a last one, are
refused and taken off the stream; a peer that sends eleven bytes in any other
way makes the shift undefined; and up to ten bytes without a last one are waited
on. -/
theorem readUvarint_eq (c : Conn) :
    c.readUvarint =
      match Varint.groupWithin 11 c.incoming with
      | some (group, rest) =>
          if group.length ≤ 10 ∧ Varint.value group < 18446744073709551616 then
            .ok (some (BitVec.ofNat 64 (Varint.value group)), { c with incoming := rest })
          else if 1 < (group.getLastD 0).toNat then .ok (none, { c with incoming := rest })
          else .error .undefined
      | none =>
          if 11 ≤ c.incoming.length then .error .undefined
          else if c.peerClosed then .ok (none, { c with incoming := [] })
          else .error .blocks := by
  have looped := @readUvarintLoop_eq c.incoming c.peerClosed [] (Nat.zero_le _)
  have start : readUvarintLoop c.peerClosed c.incoming 0 0 0 =
      readUvarintLoop c.peerClosed c.incoming ([] : List Byte).length (BitVec.ofNat 64 (Varint.value []))
        (BitVec.ofNat 8 (7 * ([] : List Byte).length)) := rfl
  rw [Conn.readUvarint, start, looped]
  simp only [List.length_nil, Nat.sub_zero, List.nil_append]
  cases Varint.groupWithin 11 c.incoming with
  | none =>
      simp only
      split_ifs <;> rfl
  | some parts =>
      obtain ⟨group, rest⟩ := parts
      simp only
      split_ifs <;> rfl

/-- A peer can make the shift undefined with eleven bytes, and with no fewer:
exactly when ten that continue are followed by one that the test for an overflow
does not stop, be it zero, one or another that continues. -/
theorem readUvarint_undefined_iff (c : Conn) :
    c.readUvarint = .error .undefined ↔
      ∃ front b rest, c.incoming = front ++ b :: rest ∧ front.length = 10 ∧
        (∀ x ∈ front, 128 ≤ x.toNat) ∧
        (b.toNat ≤ 1 ∨ 128 ≤ b.toNat) := by
  cases within : Varint.groupWithin 10 c.incoming with
  | some found =>
      obtain ⟨group, rest⟩ := found
      obtain ⟨isGroup, short, _⟩ := Varint.groupWithin_eq_some.mp within
      constructor
      · intro undefined
        rw [readUvarint_eq, Varint.groupWithin_mono (by decide) within] at undefined
        simp only [] at undefined
        split_ifs at undefined with fits large
        obtain ⟨front, last, rfl, ends⟩ := isGroup.exists_concat
        have nine : front.length ≤ 9 := by
          rw [List.length_append, List.length_singleton] at short
          exact Nat.le_of_succ_le_succ short
        have big : ¬Varint.value (front ++ [last]) < 18446744073709551616 := fun small =>
            fits ⟨short, small⟩
        rw [value_concat_lt_iff nine ends, not_not] at big
        rw [List.getLastD_concat] at large
        exact absurd big.2 large
      · rintro ⟨front, b, others, arrived, ten, continues, _⟩
        have noGroup : Varint.groupWithin 10 c.incoming = none := by
          rw [Varint.groupWithin_eq_none_iff, arrived, ← ten, List.take_left]
          exact continues
        rw [noGroup] at within
        cases within
  | none =>
      have continues := Varint.groupWithin_eq_none_iff.mp within
      rcases Nat.lt_or_ge 10 c.incoming.length with enough | few
      · have first : (c.incoming.take 10).length = 10 := List.length_take_of_le (Nat.le_of_lt enough)
        have parts := List.take_append_drop 10 c.incoming
        cases behind : c.incoming.drop 10 with
        | nil => exact absurd (List.drop_eq_nil_iff.mp behind) (Nat.not_le.mpr enough)
        | cons b rest =>
            rw [behind] at parts
            have decided : (c.readUvarint = .error .undefined) ↔ (b.toNat ≤ 1 ∨ 128 ≤ b.toNat) := by
              rw [readUvarint_eq, Varint.groupWithin_add 10 1, within, behind]
              simp only [if_neg (Nat.not_lt.mpr (Nat.le_of_lt enough)), Varint.groupWithin]
              by_cases ends : b.toNat < 128
              · have noOther : ¬128 ≤ b.toNat := Nat.not_le.mpr ends
                simp [ends, first, noOther]
              · have more : 11 ≤ c.incoming.length := enough
                have continuesToo : 128 ≤ b.toNat := Nat.le_of_not_lt ends
                simp [ends, more, continuesToo]
            rw [decided]
            constructor
            · intro unstopped
              exact ⟨_, b, rest, parts.symm, first, continues, unstopped⟩
            · rintro ⟨front, b', rest', arrived, ten, _, unstopped⟩
              rw [arrived, ← ten, List.drop_left] at behind
              cases behind
              exact unstopped
      · constructor
        · intro undefined
          have noGroup : Varint.groupWithin 11 c.incoming = none := by
            rw [Varint.groupWithin_eq_none_iff, List.take_of_length_le (Nat.le_succ_of_le few),
              ← List.take_of_length_le few]
            exact continues
          rw [readUvarint_eq, noGroup] at undefined
          simp only [if_neg (Nat.not_le.mpr (Nat.lt_succ_of_le few))] at undefined
          split_ifs at undefined
          cases undefined
        · rintro ⟨front, b, rest, arrived, ten, _, _⟩
          rw [arrived, List.length_append, List.length_cons, ten] at few
          omega

/-- What the writer wrote, the reader reads, in front of any bytes. -/
theorem readUvarint_putUvarint {x : BitVec 64} (arrived : c.incoming = putUvarint x ++ rest) :
    c.readUvarint = .ok (some x, { c with incoming := rest }) := by
  have short : (Varint.encode x.toNat).length ≤ 10 := by
    rw [← putUvarint_eq_encode]
    exact length_putUvarint_le x
  have found : Varint.groupWithin 11 c.incoming = some (Varint.encode x.toNat, rest) := by
    rw [arrived, putUvarint_eq_encode]
    exact Varint.groupWithin_encode_append (Nat.lt_of_lt_of_le x.isLt (by decide)) rest
  rw [readUvarint_eq, found]
  simp only [Varint.value_encode]
  rw [if_pos ⟨short, x.isLt⟩, BitVec.ofNat_toNat, BitVec.setWidth_eq]

/-- A number that is cut off is waited on, or refused when the peer has closed. -/
theorem readUvarint_cut {x : BitVec 64} (cut : c.incoming <+: putUvarint x)
    (shorter : c.incoming.length < (putUvarint x).length) :
    c.readUvarint = if c.peerClosed then .ok (none, { c with incoming := [] }) else .error .blocks := by
  have few : c.incoming.length < 10 := Nat.lt_of_lt_of_le shorter (length_putUvarint_le x)
  rw [putUvarint_eq_encode] at cut shorter
  have noGroup : Varint.groupWithin 11 c.incoming = none :=
    Varint.groupWithin_of_continues ((Varint.isGroup_encode _).continues_of_cut cut shorter)
  rw [readUvarint_eq, noGroup]
  exact if_neg (by omega)

/-!
### Bytes that arrive later

A call that has returned would have returned the same with more bytes behind.
Such calls compose.
-/

/-- Bytes behind a number that has been read stay where they are. -/
theorem readUvarintLoop_append {i : Nat} {x : BitVec 64} {s : BitVec 8} {a : Option (BitVec 64)}
    (returned : readUvarintLoop false incoming i x s = .ok (a, rest)) :
    readUvarintLoop false (incoming ++ more) i x s = .ok (a, rest ++ more) := by
  induction incoming generalizing i x s with
  | nil => simp [readUvarintLoop] at returned
  | cons b incoming inductionHypothesis =>
      rw [readUvarintLoop] at returned
      rw [List.cons_append, readUvarintLoop]
      split_ifs at returned ⊢
      · cases returned
        rfl
      · cases returned
        rfl
      · exact inductionHypothesis returned

theorem patient_pure {α : Type} (a : α) : Patient fun c => .ok (a, c) := by
  intro c c' a more isOpen returned
  cases returned
  exact ⟨isOpen, rfl⟩

/-- Calls that are patient one after the other are patient together. -/
theorem Patient.bind {α β : Type} {call : Conn → Except Halt (α × Conn)}
    {next : α → Conn → Except Halt (β × Conn)} (first : Patient call)
    (later : ∀ a, Patient (next a)) :
    Patient fun c => (call c).bind fun (a, c) => next a c := by
  intro c c' b more isOpen returned
  cases called : call c with
  | error halt =>
      simp only [called] at returned
      cases returned
  | ok result =>
      obtain ⟨a, between⟩ := result
      simp only [called] at returned
      obtain ⟨stillOpen, same⟩ := first more isOpen called
      obtain ⟨openAtEnd, sameAfter⟩ := later a more stillOpen returned
      refine ⟨openAtEnd, ?_⟩
      simp only [same]
      exact sameAfter

theorem Patient.map {α β : Type} {call : Conn → Except Halt (α × Conn)}
    (first : Patient call) (f : α → β) :
    Patient fun c => (call c).map fun (a, c) => (f a, c) := by
  intro c c' b more isOpen returned
  cases called : call c with
  | error halt =>
      simp only [called] at returned
      cases returned
  | ok result =>
      simp only [called] at returned
      cases returned
      obtain ⟨stillOpen, same⟩ := first more isOpen called
      refine ⟨stillOpen, ?_⟩
      simp only [same]
      rfl

theorem patient_read (len : Int) : Patient fun c => c.read len := by
  intro c c' a more isOpen returned
  simp only [Conn.read] at returned
  split_ifs at returned with enough closed
  · cases returned
    have enough' : len.toNat ≤ (c.arrive more).incoming.length := by
      rw [Conn.arrive, List.length_append]
      omega
    refine ⟨isOpen, ?_⟩
    simp only [Conn.read, if_pos enough']
    simp [Conn.arrive, List.take_append_of_le_length enough, List.drop_append_of_le_length enough]
  · rw [isOpen] at closed
    cases closed

/-- Reading a number is patient. -/
theorem patient_readUvarint : Patient Conn.readUvarint := by
  intro c c' a more isOpen returned
  rw [Conn.readUvarint, isOpen] at returned
  cases looped : readUvarintLoop false c.incoming 0 0 0 with
  | error halt =>
      rw [looped] at returned
      cases returned
  | ok result =>
      obtain ⟨x, left⟩ := result
      rw [looped] at returned
      cases returned
      refine ⟨rfl, ?_⟩
      have later := @readUvarintLoop_append c.incoming left more _ _ _ _ looped
      simp only [Conn.readUvarint, Conn.arrive, isOpen, later]
      rfl

end Q3df.Rpc
