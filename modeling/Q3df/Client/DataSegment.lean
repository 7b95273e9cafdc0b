/-
Module: Q3df.Client.DataSegment
Layer: Client
Purpose: What a loaded data segment should hold and when it does. The segment is meant to be the
  data section, its words in the byte order of the process, then the lit section, then zeros. The
  loader copies whole words and lets `memcpy` go on from where they end, so it loses the last bytes
  of the two sections when `dataLength` is not a multiple of four; and it swaps the header in the
  buffer it copies from. The headline `data_segment_faithful_iff` says for which files the segment
  comes out right.
Imports: Q3df.Client.SegmentLoad
Trusted boundary: none
Main exports: swapWords, dataSection, litSection, intendedSegment, dataSegmentBytes, SectionsInFile,
  HeaderSwapHarmless, LostBytesZero, data_segment_faithful_iff
Open obligations: none
-/
import Q3df.Client.SegmentLoad

namespace Q3df.Client

open ByteMemory SignedWord

/-!
### What the segment should hold

The intended contents, from the comment of the header's structure: the words of
the data section in the host's order, the literals byte by byte, and zeros
behind them.
-/

/-- Each word of a section in the other byte order; fewer than four bytes are no
word. -/
def swapWords : List Byte → List Byte
  | b0 :: b1 :: b2 :: b3 :: rest => b3 :: b2 :: b1 :: b0 :: swapWords rest
  | rest => rest

/-- The `dataLength` bytes of the data section. -/
def dataSection (file : List Byte) (header : VmHeader) : List Byte :=
  (file.drop header.dataOffset.toNat).take header.dataLength.toNat

/-- The `litLength` bytes of the lit section, which follows the data section. -/
def litSection (file : List Byte) (header : VmHeader) : List Byte :=
  (file.drop (header.dataOffset.toNat + header.dataLength.toNat)).take header.litLength.toNat

/-- Data, lit and zeros, as a faithful load leaves them. -/
def intendedSegment (swapped : Bool) (file : List Byte) (header : VmHeader) : List Byte :=
  (if swapped then swapWords (dataSection file header) else dataSection file header) ++
    litSection file header ++ List.replicate header.bssLength.toNat 0

/-- The bytes of the data segment of a VM. -/
def dataSegmentBytes (vm : Vm) (mem : Memory) : List Byte :=
  (List.range vm.dataSegmentLen.toNat).map fun i => mem (vm.dataSegment + BitVec.ofNat 32 i)

/-- The offsets and lengths of the header are not negative and the sections lie
in the file. -/
structure SectionsInFile (file : List Byte) (header : VmHeader) : Prop extends
    FitsAddressSpace header where
  headerInside : 32 ≤ file.length
  codeOffset : 0 ≤ header.codeOffset.toInt
  codeLength : 0 ≤ header.codeLength.toInt
  codeInside : header.codeOffset.toInt + header.codeLength.toInt ≤ file.length
  dataOffset : 0 ≤ header.dataOffset.toInt
  dataInside :
    header.dataOffset.toInt + header.dataLength.toInt + header.litLength.toInt ≤ file.length

/-!
### The exact condition

The loader swaps whole words and copies bytes, from a file whose header it has
swapped in place. What goes wrong is a condition on the sections: that the swap
reaches their bytes, or that a byte left out is not zero.
-/

/-- Swapping the header in the buffer leaves every byte of the sections that
lies in the header as the file has it. -/
def HeaderSwapHarmless (image : Int → Byte) (header : VmHeader) : Prop :=
  ∀ p : Nat, p < 32 → header.dataOffset.toNat ≤ p →
    p < header.dataOffset.toNat + 4 * (header.dataLength.toNat / 4) + header.litLength.toNat →
    loadedImage image p = image p

/-- The last `dataLength % 4` bytes of the two sections are zero. -/
def LostBytesZero (file : List Byte) (header : VmHeader) : Prop :=
  ∀ byte ∈ (file.drop (header.dataOffset.toNat + 4 * (header.dataLength.toNat / 4) +
    header.litLength.toNat)).take (header.dataLength.toNat % 4), byte = 0

/-- A header that has not been swapped, or sections behind the header, make the
swap harmless. -/
theorem headerSwapHarmless_of_apart {image : Int → Byte} {header : VmHeader}
    (apart : fileSwapped image = false ∨ 32 ≤ header.dataOffset.toNat) :
      HeaderSwapHarmless image header := by
  intro p inHeader behind _
  rcases apart with sameOrder | behindHeader
  · rw [loadedImage, sameOrder]
    rfl
  · omega

/-- Swapping the header in place changes none of the bytes behind it. -/
theorem loadedImage_of_behind {image : Int → Byte} {p : Nat} (behind : 32 ≤ p) :
    loadedImage image p = image p := by
  rw [loadedImage]
  split
  · rw [VmHeader.store, if_neg (by omega)]
  · rfl

section Bytes

variable {file : List Byte} {header : VmHeader} {heap : Int → Byte} {swapped : Bool} {i p : Nat}

theorem fileImage_of_lt (inside : p < file.length) : fileImage heap file p = file[p] := by
  rw [fileImage, if_pos (by omega), Int.toNat_natCast, List.getElem?_eq_getElem inside, Option.getD_some]

theorem swapWords_length (bytes : List Byte) : (swapWords bytes).length = bytes.length := by
  induction bytes using swapWords.induct with
  | case1 b0 b1 b2 b3 rest inductionHypothesis =>
      simp [swapWords, inductionHypothesis]
  | case2 rest notWord =>
      rw [swapWords]
      exact notWord

/-- The bytes of a swapped section: each word turned around, the rest in place. -/
theorem swapWords_getElem? (bytes : List Byte) (i : Nat) :
    (swapWords bytes)[i]? =
      bytes[if i < 4 * (bytes.length / 4) then sourceByte true i else i]? := by
  induction bytes using swapWords.induct generalizing i with
  | case1 b0 b1 b2 b3 rest inductionHypothesis =>
      have quarter : (rest.length + 4) / 4 = rest.length / 4 + 1 := by omega
      have length : (b0 :: b1 :: b2 :: b3 :: rest).length = rest.length + 4 := rfl
      rw [length, quarter, swapWords]
      rcases i with _ | _ | _ | _ | i
      case succ.succ.succ.succ =>
        have step : (if i + 4 < 4 * (rest.length / 4 + 1) then sourceByte true (i + 4) else i + 4) =
            (if i < 4 * (rest.length / 4) then sourceByte true i else i) + 4 := by
          rw [sourceByte_add_four]
          split_ifs <;> first | rfl | omega
        rw [step]
        exact inductionHypothesis i
      all_goals
        rw [if_pos (by omega)]
        rfl
  | case2 rest notWord =>
      have short : rest.length < 4 := by
        rcases rest with _ | ⟨b0, _ | ⟨b1, _ | ⟨b2, _ | ⟨b3, rest⟩⟩⟩⟩
        case cons.cons.cons.cons => exact absurd rfl (notWord b0 b1 b2 b3 rest)
        all_goals simp
      rw [swapWords, if_neg (by omega)]
      exact notWord

/-- The lengths and ends of the sections as natural numbers. -/
theorem SectionsInFile.ends (inFile : SectionsInFile file header) :
    header.dataOffset.toInt = header.dataOffset.toNat ∧
      header.dataOffset.toNat + header.dataLength.toNat + header.litLength.toNat ≤ file.length := by
  have offset := toNat_of_toInt_nonneg inFile.dataOffset
  have data := toNat_of_toInt_nonneg inFile.dataLength
  have lit := toNat_of_toInt_nonneg inFile.litLength
  have inside := inFile.dataInside
  omega

/-- A data section inside the file is as long as the header says. -/
theorem dataSection_length (inFile : SectionsInFile file header) :
    (dataSection file header).length = header.dataLength.toNat := by
  have ends := inFile.ends
  rw [dataSection, List.length_take, List.length_drop]
  omega

/-- A literal section inside the file is as long as the header says. -/
theorem litSection_length (inFile : SectionsInFile file header) :
    (litSection file header).length = header.litLength.toNat := by
  have ends := inFile.ends
  rw [litSection, List.length_take, List.length_drop]
  omega

/-- The data section starts at `dataOffset`. -/
theorem dataSection_getElem? (inFile : SectionsInFile file header) (inside : i < header.dataLength.toNat) :
    (dataSection file header)[i]? = some (fileImage heap file (header.dataOffset.toNat + i : Nat)) := by
  have ends := inFile.ends
  rw [dataSection, List.getElem?_take_of_lt inside, List.getElem?_drop, fileImage_of_lt (by omega)]
  exact List.getElem?_eq_getElem (by omega)

/-- The literals follow the data section directly. -/
theorem litSection_getElem? (inFile : SectionsInFile file header) (inside : i < header.litLength.toNat) :
    (litSection file header)[i]? =
      some (fileImage heap file (header.dataOffset.toNat + header.dataLength.toNat + i : Nat)) := by
  have ends := inFile.ends
  rw [litSection, List.getElem?_take_of_lt inside, List.getElem?_drop, fileImage_of_lt (by omega)]
  exact List.getElem?_eq_getElem (by omega)

/-- The intended segment, byte by byte. -/
theorem intendedSegment_getElem? (inFile : SectionsInFile file header)
    (inside : i < header.dataSegmentLen.toNat) :
    (intendedSegment swapped file header)[i]? =
      some (if i < 4 * (header.dataLength.toNat / 4) then
          fileImage heap file (header.dataOffset.toNat + sourceByte swapped i : Nat)
        else if i < header.dataLength.toNat + header.litLength.toNat then
          fileImage heap file (header.dataOffset.toNat + i : Nat)
        else 0) := by
  rw [inFile.dataSegmentLen_toNat] at inside
  have whole : 4 * (header.dataLength.toNat / 4) ≤ header.dataLength.toNat := Nat.mul_div_le _ 4
  have dataLength : (if swapped then swapWords (dataSection file header)
      else dataSection file header).length = header.dataLength.toNat := by
    rw [apply_ite List.length, swapWords_length, ite_self, dataSection_length inFile]
  rw [intendedSegment, List.append_assoc]
  by_cases inData : i < header.dataLength.toNat
  · rw [List.getElem?_append_left (by rw [dataLength]; exact inData)]
    by_cases inWords : i < 4 * (header.dataLength.toNat / 4)
    · rw [if_pos inWords, ← dataSection_getElem? inFile (Nat.lt_of_lt_of_le (sourceByte_lt inWords) whole)]
      cases swapped with
      | false => rfl
      | true => rw [if_pos rfl, swapWords_getElem?, dataSection_length inFile, if_pos inWords]
    · have inSections : i < header.dataLength.toNat + header.litLength.toNat := by omega
      rw [if_neg inWords, if_pos inSections, ← dataSection_getElem? inFile inData]
      cases swapped with
      | false => rfl
      | true => rw [if_pos rfl, swapWords_getElem?, dataSection_length inFile, if_neg inWords]
  · rw [List.getElem?_append_right (by rw [dataLength]; omega), dataLength, if_neg (by omega)]
    by_cases inLit : i < header.dataLength.toNat + header.litLength.toNat
    · have place : header.dataOffset.toNat + header.dataLength.toNat + (i - header.dataLength.toNat) =
          header.dataOffset.toNat + i := by omega
      rw [List.getElem?_append_left (by rw [litSection_length inFile]; omega), if_pos inLit,
        litSection_getElem? inFile (by omega), place]
    · rw [List.getElem?_append_right (by rw [litSection_length inFile]; omega), if_neg inLit,
        List.getElem?_replicate_of_lt (by rw [litSection_length inFile]; omega)]

/-- The intended segment is as long as the one the loader allocates. -/
theorem intendedSegment_length (inFile : SectionsInFile file header) :
    (intendedSegment swapped file header).length = header.dataSegmentLen.toNat := by
  rw [inFile.dataSegmentLen_toNat, intendedSegment, List.length_append, List.length_append,
    List.length_replicate, apply_ite List.length, swapWords_length, ite_self, dataSection_length inFile,
    litSection_length inFile]

theorem dataSegmentBytes_getElem? {vm : Vm} {mem : Memory} (inside : i < vm.dataSegmentLen.toNat) :
    (dataSegmentBytes vm mem)[i]? = some (mem (vm.dataSegment + BitVec.ofNat 32 i)) := by
  rw [dataSegmentBytes, List.getElem?_map, List.getElem?_range inside, Option.map_some]

/-- Positions behind the header are never swapped. -/
theorem HeaderSwapHarmless.loadedImage_eq {image : Int → Byte} (harmless : HeaderSwapHarmless image header)
    (behind : header.dataOffset.toNat ≤ p)
    (copied : p < header.dataOffset.toNat + 4 * (header.dataLength.toNat / 4) + header.litLength.toNat) :
    loadedImage image p = image p := by
  by_cases inHeader : p < 32
  · exact harmless p inHeader behind copied
  · exact loadedImage_of_behind (by omega)

/-- The lost bytes by their positions in the file. -/
theorem lostBytesZero_iff (inFile : SectionsInFile file header) :
    LostBytesZero file header ↔
      ∀ p : Nat,
        header.dataOffset.toNat + 4 * (header.dataLength.toNat / 4) + header.litLength.toNat ≤ p →
        p < header.dataOffset.toNat + header.dataLength.toNat + header.litLength.toNat →
        fileImage heap file p = 0 := by
  have ends := inFile.ends
  have split := Nat.div_add_mod header.dataLength.toNat 4
  constructor
  · intro zero p behind inside
    rw [fileImage_of_lt (by omega)]
    apply zero
    refine List.mem_iff_getElem?.mpr ⟨p - (header.dataOffset.toNat +
      4 * (header.dataLength.toNat / 4) + header.litLength.toNat), ?_⟩
    rw [List.getElem?_take_of_lt (by omega), List.getElem?_drop, Nat.add_sub_of_le behind]
    exact List.getElem?_eq_getElem (by omega)
  · intro zero byte member
    obtain ⟨j, found⟩ := List.mem_iff_getElem?.mp member
    have inside : j < header.dataLength.toNat % 4 := by
      have bound := (List.getElem?_eq_some_iff.mp found).choose
      rw [List.length_take] at bound
      omega
    rw [List.getElem?_take_of_lt inside, List.getElem?_drop,
      List.getElem?_eq_getElem (by omega), ← @fileImage_of_lt _ heap] at found
    exact (Option.some.inj found).symm.trans (zero _ (by omega) (by omega))

end Bytes

/-!
### The segment the loader leaves

The loops are read off byte by byte, and compared with the segment the format
intends: the words of the data section in the order of the host, then the lit
bytes as the file has them, then zeros. The two are equal exactly if the swap of
the header does no harm to the bytes that are copied, and the bytes that are
lost are zero.
-/

section LoadedSegment

variable {oldmem : Option Word} {env : LoadEnv} {file : List Byte} {vm : Vm} {mem : Memory}

/-- A created VM has the header and the byte order of its file. -/
theorem created_header (created : (create 0 oldmem env file).result = .qtrue vm mem) :
    vm.header = fileHeader (fileImage env.heap file) ∧
      vm.swapped = fileSwapped (fileImage env.heap file) ∧
      vm.dataSegmentLen = vm.header.dataSegmentLen := by
  obtain ⟨-, mask, memory, -, -, rfl, -⟩ := create_eq_qtrue created
  exact ⟨rfl, rfl, rfl⟩

/-- The data segment of a created VM, byte by byte as the loops have left it. -/
theorem created_data_byte (inFile : SectionsInFile file vm.header)
    (created : (create 0 oldmem env file).result = .qtrue vm mem) {i : Nat}
    (inside : i < vm.header.dataSegmentLen.toNat) :
    (dataSegmentBytes vm mem)[i]? =
      some (if i < 4 * (vm.header.dataLength.toNat / 4) then
          loadedImage (fileImage env.heap file)
            (vm.header.dataOffset.toNat + sourceByte vm.swapped i : Nat)
        else if i < 4 * (vm.header.dataLength.toNat / 4) + vm.header.litLength.toNat then
          loadedImage (fileImage env.heap file) (vm.header.dataOffset.toNat + i : Nat)
        else 0) := by
  obtain ⟨-, mask, memory, -, -, rfl, rfl⟩ := create_eq_qtrue created
  have ends := inFile.ends
  have byte := @loadSegments_data_byte (loadedImage (fileImage env.heap file))
    (fileSwapped (fileImage env.heap file)) _ memory env inFile.toFitsAddressSpace i inside
  rw [dataSegmentBytes_getElem? inside, Int.natCast_add, Int.natCast_add, ← ends.1]
  refine congrArg some (Eq.trans ?_ byte)
  rw [blockByte, BitVec.ofNat_add, ← FitsAddressSpace.codeSegmentSize_eq, ← BitVec.add_assoc]
  rfl

/-- The data segment comes out right exactly when the header swap touches no
byte that is copied and the bytes that are not copied are zero. -/
theorem data_segment_faithful_iff (inFile : SectionsInFile file (fileHeader (fileImage env.heap file)))
    (created : (create 0 oldmem env file).result = .qtrue vm mem) :
    dataSegmentBytes vm mem =
        intendedSegment (fileSwapped (fileImage env.heap file)) file
          (fileHeader (fileImage env.heap file)) ↔
      HeaderSwapHarmless (fileImage env.heap file) (fileHeader (fileImage env.heap file)) ∧
        LostBytesZero file (fileHeader (fileImage env.heap file)) := by
  obtain ⟨sameHeader, sameOrder, sameLength⟩ := created_header created
  rw [← sameHeader] at inFile ⊢
  rw [← sameOrder, @lostBytesZero_iff _ _ env.heap inFile]
  have actual {i : Nat} (inside : i < vm.header.dataSegmentLen.toNat) :=
    created_data_byte inFile created inside
  have intended {i : Nat} (inside : i < vm.header.dataSegmentLen.toNat) :=
    @intendedSegment_getElem? file vm.header env.heap vm.swapped i inFile inside
  have ends := inFile.ends
  have length := inFile.dataSegmentLen_toNat
  have whole : 4 * (vm.header.dataLength.toNat / 4) ≤ vm.header.dataLength.toNat := Nat.mul_div_le _ 4
  constructor
  · intro same
    have sameByte (i : Nat) (inside : i < vm.header.dataSegmentLen.toNat) :=
      Option.some.inj ((actual inside).symm.trans ((congrArg (·[i]?) same).trans (intended inside)))
    constructor
    · intro p _ behind copied
      by_cases inWords : p - vm.header.dataOffset.toNat < 4 * (vm.header.dataLength.toNat / 4)
      · have place := @sourceByte_lt vm.swapped _ _ inWords
        have byte := sameByte (sourceByte vm.swapped (p - vm.header.dataOffset.toNat)) (by omega)
        rw [if_pos place, if_pos place, sourceByte_sourceByte, Nat.add_sub_of_le behind] at byte
        exact byte
      · have byte := sameByte (p - vm.header.dataOffset.toNat) (by omega)
        rw [if_neg inWords, if_neg inWords, if_pos (by omega), if_pos (by omega),
          Nat.add_sub_of_le behind] at byte
        exact byte
    · intro p behind inside
      have byte := sameByte (p - vm.header.dataOffset.toNat) (by omega)
      rw [if_neg (by omega), if_neg (by omega), if_neg (by omega), if_pos (by omega),
        Nat.add_sub_of_le (by omega)] at byte
      exact byte.symm
  · rintro ⟨harmless, zero⟩
    apply List.ext_getElem?
    intro i
    by_cases inside : i < vm.header.dataSegmentLen.toNat
    · rw [actual inside, intended inside]
      refine congrArg some ?_
      by_cases inWords : i < 4 * (vm.header.dataLength.toNat / 4)
      · have place := @sourceByte_lt vm.swapped _ _ inWords
        rw [if_pos inWords, if_pos inWords]
        exact harmless.loadedImage_eq (by omega) (by omega)
      · rw [if_neg inWords, if_neg inWords]
        by_cases copied : i < 4 * (vm.header.dataLength.toNat / 4) + vm.header.litLength.toNat
        · rw [if_pos copied, if_pos (by omega)]
          exact harmless.loadedImage_eq (by omega) (by omega)
        · rw [if_neg copied]
          by_cases lost : i < vm.header.dataLength.toNat + vm.header.litLength.toNat
          · rw [if_pos lost, zero _ (by omega) (by omega)]
          · rw [if_neg lost]
    · have actualLength : (dataSegmentBytes vm mem).length = vm.header.dataSegmentLen.toNat := by
        rw [dataSegmentBytes, List.length_map, List.length_range, sameLength]
      rw [List.getElem?_eq_none (by omega),
        List.getElem?_eq_none (by rw [intendedSegment_length inFile]; omega)]

end LoadedSegment

/-- A file with five data bytes and three lit bytes. -/
def oddDataFile : List Byte :=
  [0x44, 0x14, 0x72, 0x12, 1, 0, 0, 0, 32, 0, 0, 0, 1, 0, 0, 0,
    33, 0, 0, 0, 5, 0, 0, 0, 3, 0, 0, 0, 0, 0, 0, 0, 7, 1, 2, 3, 4, 5, 6, 7, 8]

/-- The sections of the failing file lie inside it. -/
theorem oddDataFile_sections :
    SectionsInFile oddDataFile (fileHeader (fileImage zeroHeap.heap oddDataFile)) where
  instructionCount := by decide
  dataLength := by decide
  litLength := by decide
  bssLength := by decide
  block := by decide
  headerInside := by decide
  codeOffset := by decide
  codeLength := by decide
  codeInside := by decide
  dataOffset := by decide
  dataInside := by decide

/-- Its last lit byte is not loaded. -/
theorem oddDataFile_not_faithful :
    SectionsInFile oddDataFile (fileHeader (fileImage zeroHeap.heap oddDataFile)) ∧
      ∃ vm mem, (create 0 none zeroHeap oddDataFile).result = .qtrue vm mem ∧
        dataSegmentBytes vm mem = [1, 2, 3, 4, 5, 6, 7, 0] ∧
        dataSegmentBytes vm mem ≠
          intendedSegment (fileSwapped (fileImage zeroHeap.heap oddDataFile)) oddDataFile
            (fileHeader (fileImage zeroHeap.heap oddDataFile)) := by
  refine ⟨oddDataFile_sections, _, _, rfl, ?_, ?_⟩
  · decide +kernel
  · decide +kernel

example : intendedSegment false oddDataFile (fileHeader (fileImage zeroHeap.heap oddDataFile)) =
    [1, 2, 3, 4, 5, 6, 7, 8] := by decide +kernel

/-- A file of the other byte order with one data word, one lit byte and two
bytes of bss. -/
def wordDataFile : List Byte :=
  [0x12, 0x72, 0x14, 0x44, 0, 0, 0, 1, 0, 0, 0, 32, 0, 0, 0, 1,
    0, 0, 0, 33, 0, 0, 0, 4, 0, 0, 0, 1, 0, 0, 0, 2, 7, 1, 2, 3, 4, 5]

theorem wordDataFile_sections :
    SectionsInFile wordDataFile (fileHeader (fileImage zeroHeap.heap wordDataFile)) where
  instructionCount := by decide
  dataLength := by decide
  litLength := by decide
  bssLength := by decide
  block := by decide
  headerInside := by decide
  codeOffset := by decide
  codeLength := by decide
  codeInside := by decide
  dataOffset := by decide
  dataInside := by decide

/-- The exact condition at a file whose data section is made of whole words. -/
theorem wordDataFile_faithful :
    ∃ vm mem, (create 0 none zeroHeap wordDataFile).result = .qtrue vm mem ∧
      dataSegmentBytes vm mem =
        intendedSegment (fileSwapped (fileImage zeroHeap.heap wordDataFile)) wordDataFile
          (fileHeader (fileImage zeroHeap.heap wordDataFile)) := by
  refine ⟨_, _, rfl, (@data_segment_faithful_iff none _ _ _ _ wordDataFile_sections rfl).mpr ⟨?_, ?_⟩⟩
  · exact headerSwapHarmless_of_apart (Or.inr (by decide))
  · unfold LostBytesZero
    decide

example : intendedSegment true wordDataFile (fileHeader (fileImage zeroHeap.heap wordDataFile)) =
    [4, 3, 2, 1, 5, 0, 0] := by decide +kernel

end Q3df.Client
