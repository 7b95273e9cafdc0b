/-
Module: Q3df.Rpc.HashCrc32
Layer: Rpc
Purpose: The checksum of a message body, table and loop as the source has them. The table holds the
  remainders of the reflected polynomial 0xedb88320, so the checksum is the bit-wise one of that
  polynomial. The loop's counter has 32 bits: the function returns on exactly the bodies below 4
  GiB. Bodies that differ in one stretch of at most 32 bits have different checksums.
Imports: Q3df.Library.Crc
Trusted boundary: human-reviewed transcription of
  tools/protobuf/src/google/protobuf/rpc/rpc_crc32.cc
Main exports: crc32tab, crcRound, hashCRC32Loop, hashCRC32, bitsOf, hashCRC32Loop_eq_some_iff,
  hashCRC32_eq_feed, hashCRC32_ne_of_burst
Open obligations: none
-/
import Q3df.Library.Crc

namespace Q3df.Rpc

/-- A byte of a stream, of a frame or of a `std::string` that holds either. -/
abbrev Byte := BitVec 8

/-- The constants of the source. -/
def crc32tab : List (BitVec 32) :=
  [0x00000000, 0x77073096, 0xee0e612c, 0x990951ba, 0x076dc419, 0x706af48f, 0xe963a535, 0x9e6495a3,
   0x0edb8832, 0x79dcb8a4, 0xe0d5e91e, 0x97d2d988, 0x09b64c2b, 0x7eb17cbd, 0xe7b82d07, 0x90bf1d91,
   0x1db71064, 0x6ab020f2, 0xf3b97148, 0x84be41de, 0x1adad47d, 0x6ddde4eb, 0xf4d4b551, 0x83d385c7,
   0x136c9856, 0x646ba8c0, 0xfd62f97a, 0x8a65c9ec, 0x14015c4f, 0x63066cd9, 0xfa0f3d63, 0x8d080df5,
   0x3b6e20c8, 0x4c69105e, 0xd56041e4, 0xa2677172, 0x3c03e4d1, 0x4b04d447, 0xd20d85fd, 0xa50ab56b,
   0x35b5a8fa, 0x42b2986c, 0xdbbbc9d6, 0xacbcf940, 0x32d86ce3, 0x45df5c75, 0xdcd60dcf, 0xabd13d59,
   0x26d930ac, 0x51de003a, 0xc8d75180, 0xbfd06116, 0x21b4f4b5, 0x56b3c423, 0xcfba9599, 0xb8bda50f,
   0x2802b89e, 0x5f058808, 0xc60cd9b2, 0xb10be924, 0x2f6f7c87, 0x58684c11, 0xc1611dab, 0xb6662d3d,
   0x76dc4190, 0x01db7106, 0x98d220bc, 0xefd5102a, 0x71b18589, 0x06b6b51f, 0x9fbfe4a5, 0xe8b8d433,
   0x7807c9a2, 0x0f00f934, 0x9609a88e, 0xe10e9818, 0x7f6a0dbb, 0x086d3d2d, 0x91646c97, 0xe6635c01,
   0x6b6b51f4, 0x1c6c6162, 0x856530d8, 0xf262004e, 0x6c0695ed, 0x1b01a57b, 0x8208f4c1, 0xf50fc457,
   0x65b0d9c6, 0x12b7e950, 0x8bbeb8ea, 0xfcb9887c, 0x62dd1ddf, 0x15da2d49, 0x8cd37cf3, 0xfbd44c65,
   0x4db26158, 0x3ab551ce, 0xa3bc0074, 0xd4bb30e2, 0x4adfa541, 0x3dd895d7, 0xa4d1c46d, 0xd3d6f4fb,
   0x4369e96a, 0x346ed9fc, 0xad678846, 0xda60b8d0, 0x44042d73, 0x33031de5, 0xaa0a4c5f, 0xdd0d7cc9,
   0x5005713c, 0x270241aa, 0xbe0b1010, 0xc90c2086, 0x5768b525, 0x206f85b3, 0xb966d409, 0xce61e49f,
   0x5edef90e, 0x29d9c998, 0xb0d09822, 0xc7d7a8b4, 0x59b33d17, 0x2eb40d81, 0xb7bd5c3b, 0xc0ba6cad,
   0xedb88320, 0x9abfb3b6, 0x03b6e20c, 0x74b1d29a, 0xead54739, 0x9dd277af, 0x04db2615, 0x73dc1683,
   0xe3630b12, 0x94643b84, 0x0d6d6a3e, 0x7a6a5aa8, 0xe40ecf0b, 0x9309ff9d, 0x0a00ae27, 0x7d079eb1,
   0xf00f9344, 0x8708a3d2, 0x1e01f268, 0x6906c2fe, 0xf762575d, 0x806567cb, 0x196c3671, 0x6e6b06e7,
   0xfed41b76, 0x89d32be0, 0x10da7a5a, 0x67dd4acc, 0xf9b9df6f, 0x8ebeeff9, 0x17b7be43, 0x60b08ed5,
   0xd6d6a3e8, 0xa1d1937e, 0x38d8c2c4, 0x4fdff252, 0xd1bb67f1, 0xa6bc5767, 0x3fb506dd, 0x48b2364b,
   0xd80d2bda, 0xaf0a1b4c, 0x36034af6, 0x41047a60, 0xdf60efc3, 0xa867df55, 0x316e8eef, 0x4669be79,
   0xcb61b38c, 0xbc66831a, 0x256fd2a0, 0x5268e236, 0xcc0c7795, 0xbb0b4703, 0x220216b9, 0x5505262f,
   0xc5ba3bbe, 0xb2bd0b28, 0x2bb45a92, 0x5cb36a04, 0xc2d7ffa7, 0xb5d0cf31, 0x2cd99e8b, 0x5bdeae1d,
   0x9b64c2b0, 0xec63f226, 0x756aa39c, 0x026d930a, 0x9c0906a9, 0xeb0e363f, 0x72076785, 0x05005713,
   0x95bf4a82, 0xe2b87a14, 0x7bb12bae, 0x0cb61b38, 0x92d28e9b, 0xe5d5be0d, 0x7cdcefb7, 0x0bdbdf21,
   0x86d3d2d4, 0xf1d4e242, 0x68ddb3f8, 0x1fda836e, 0x81be16cd, 0xf6b9265b, 0x6fb077e1, 0x18b74777,
   0x88085ae6, 0xff0f6a70, 0x66063bca, 0x11010b5c, 0x8f659eff, 0xf862ae69, 0x616bffd3, 0x166ccf45,
   0xa00ae278, 0xd70dd2ee, 0x4e048354, 0x3903b3c2, 0xa7672661, 0xd06016f7, 0x4969474d, 0x3e6e77db,
   0xaed16a4a, 0xd9d65adc, 0x40df0b66, 0x37d83bf0, 0xa9bcae53, 0xdebb9ec5, 0x47b2cf7f, 0x30b5ffe9,
   0xbdbdf21c, 0xcabac28a, 0x53b39330, 0x24b4a3a6, 0xbad03605, 0xcdd70693, 0x54de5729, 0x23d967bf,
   0xb3667a2e, 0xc4614ab8, 0x5d681b02, 0x2a6f2b94, 0xb40bbe37, 0xc30c8ea1, 0x5a05df1b, 0x2d02ef8d]

/-- The body of the loop. `data[i]` is a plain `char`, whose sign is spread
before the mask takes it away. -/
def crcRound (crc : BitVec 32) (c : Byte) : BitVec 32 :=
  (crc >>> 8) ^^^ crc32tab.getD ((crc ^^^ c.signExtend 32) &&& 0xff#32).toNat 0

/-- The loop for so many rounds; `none` when they do not suffice. The counter is
a `uint32_t`, the length a `size_t`. -/
def hashCRC32Loop (data : List Byte) : Nat → BitVec 32 → BitVec 32 → Option (BitVec 32)
  | 0, _, _ => none
  | fuel + 1, i, crc =>
      if i.toNat < data.length then hashCRC32Loop data fuel (i + 1) (crcRound crc (data.getD i.toNat 0))
      else some (~~~crc)

/-- `HashCRC32` on the bodies on which its loop ends. -/
def hashCRC32 (data : List Byte) : BitVec 32 := ~~~(data.foldl crcRound (~~~0#32))

/-- The polynomial, reflected and without its leading term. -/
def polynomial : BitVec 32 := 0xedb88320#32

/-- The bits of a body in the order the checksum takes them. -/
def bitsOf (data : List Byte) : List Bool := data.flatMap Crc.byteBits

variable {data data' : List Byte}

/-!
### The loop

The loop goes over the bytes by pointer, with the index of the table computed in
each round.
-/

/-- Where the counter does not wrap, the loop runs over the rest of the body, if
it has the rounds. -/
theorem hashCRC32Loop_eq {fuel : Nat} {i crc : BitVec 32} (short : data.length < 4294967296)
    (inside : i.toNat ≤ data.length) :
    hashCRC32Loop data fuel i crc =
      if data.length - i.toNat < fuel then some (~~~((data.drop i.toNat).foldl crcRound crc)) else none := by
  induction fuel generalizing i crc with
  | zero => rw [hashCRC32Loop, if_neg (Nat.not_lt_zero _)]
  | succ fuel inductionHypothesis =>
      rw [hashCRC32Loop]
      by_cases below : i.toNat < data.length
      · have next : (i + 1).toNat = i.toNat + 1 := by
          rw [BitVec.toNat_add]
          exact Nat.mod_eq_of_lt (by simp; omega)
        have rounds : data.length - (i.toNat + 1) < fuel ↔ data.length - i.toNat < fuel + 1 := by omega
        rw [if_pos below, inductionHypothesis (by omega), next, List.drop_eq_getElem_cons below,
          List.foldl_cons, List.getD_eq_getElem?_getD, List.getElem?_eq_getElem below, Option.getD_some]
        simp only [rounds]
      · rw [if_neg below, if_pos (by omega), List.drop_eq_nil_of_le (Nat.le_of_not_lt below),
          List.foldl_nil]

/-- A counter of 32 bits never reaches the end of a body of 4 GiB. -/
theorem hashCRC32Loop_eq_none (long : 4294967296 ≤ data.length) (fuel : Nat) (i crc : BitVec 32) :
    hashCRC32Loop data fuel i crc = none := by
  induction fuel generalizing i crc with
  | zero => rfl
  | succ fuel inductionHypothesis =>
      have below : i.toNat < data.length := Nat.lt_of_lt_of_le i.isLt long
      rw [hashCRC32Loop, if_pos below]
      exact inductionHypothesis _ _

/-- The function returns on exactly the bodies below 4 GiB, and there it returns
`hashCRC32`. -/
theorem hashCRC32Loop_eq_some_iff {crc : BitVec 32} :
    (∃ fuel, hashCRC32Loop data fuel 0 (~~~0#32) = some crc) ↔
      data.length < 4294967296 ∧ crc = hashCRC32 data := by
  rcases Nat.lt_or_ge data.length 4294967296 with short | long
  · have loop := @hashCRC32Loop_eq data (data.length + 1) 0 (~~~0#32) short (Nat.zero_le _)
    constructor
    · rintro ⟨fuel, returned⟩
      rw [hashCRC32Loop_eq short (Nat.zero_le _)] at returned
      obtain ⟨_, same⟩ := Option.ite_none_right_eq_some.mp returned
      exact ⟨short, (Option.some.inj same).symm⟩
    · rintro ⟨_, rfl⟩
      rw [if_pos (by simp)] at loop
      exact ⟨data.length + 1, loop⟩
  · constructor
    · rintro ⟨fuel, returned⟩
      rw [hashCRC32Loop_eq_none long] at returned
      cases returned
    · rintro ⟨short, _⟩
      omega

/-!
### The polynomial

The table of the source is the one for 0xedb88320, so the checksum is the
division of bits that the library describes.
-/

/-- The low byte picks the table's entry, whatever the sign of the `char`. -/
theorem toNat_mask (crc : BitVec 32) (c : Byte) :
    ((crc ^^^ c.signExtend 32) &&& 0xff#32).toNat = (crc.setWidth 8 ^^^ c).toNat := by
  have masked : (crc ^^^ c.signExtend 32) &&& 0xff#32 = (crc.setWidth 8 ^^^ c).setWidth 32 := by
    apply BitVec.eq_of_getLsbD_eq
    intro i inside
    have mask : ∀ i < 32, (0xff#32).getLsbD i = decide (i < 8) := by decide
    rw [BitVec.getLsbD_and, BitVec.getLsbD_xor, mask i inside, BitVec.getLsbD_setWidth, BitVec.getLsbD_xor,
      BitVec.getLsbD_setWidth, BitVec.getLsbD_signExtend]
    rcases Nat.lt_or_ge i 8 with low | high
    · simp [low, inside]
    · simp [Nat.not_lt.mpr high, BitVec.getLsbD_of_ge c i high]
  rw [masked, BitVec.toNat_setWidth]
  exact Nat.mod_eq_of_lt (Nat.lt_of_lt_of_le (BitVec.isLt _) (by decide))

/-- Every constant is the remainder of its index. -/
theorem crc32tab_eq_tableEntry : ∀ index : BitVec 8,
    crc32tab.getD index.toNat 0 = Crc.tableEntry polynomial index := by
  decide +kernel

/-- A round of the loop is the library's step for one byte. -/
theorem crcRound_eq_byteStep (crc : BitVec 32) (c : Byte) :
    crcRound crc c = Crc.byteStep polynomial crc c := by
  rw [crcRound, toNat_mask, crc32tab_eq_tableEntry, Crc.byteStep_eq_table]

/-- The table-driven checksum is the bit-wise one of the polynomial. -/
theorem hashCRC32_eq_feed (data : List Byte) :
    hashCRC32 data = ~~~(Crc.feed polynomial (~~~0#32) (bitsOf data)) := by
  have round : crcRound = Crc.byteStep polynomial := by
    funext crc c
    exact crcRound_eq_byteStep crc c
  rw [hashCRC32, round, Crc.foldl_byteStep_eq_feed (by decide)]
  rfl

/-- Bodies that differ in one stretch of at most 32 bits have different
checksums. -/
theorem hashCRC32_ne_of_burst {front burst burst' after : List Bool}
    (bits : bitsOf data = front ++ burst ++ after) (bits' : bitsOf data' = front ++ burst' ++ after)
    (sameLength : burst.length = burst'.length) (short : burst.length ≤ 32) (differ : burst ≠ burst') :
    hashCRC32 data ≠ hashCRC32 data' := by
  rw [hashCRC32_eq_feed, hashCRC32_eq_feed, bits, bits']
  intro same
  exact Crc.feed_ne_of_burst (by decide) sameLength short differ (BitVec.not_inj.mp same)

end Q3df.Rpc
