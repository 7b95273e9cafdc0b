/-
Module: Q3df.Client.Q3VmCreate
Layer: Client
Purpose: `Q3Vm::Create`, the loader of a `.qvm` file: the header and its byte order, the sizes of the
  segments, the data mask, the memory block, the instruction loop and the copy of the data and lit
  sections. A run of the loader also lists the ranges of the file it reads and the ranges of the memory
  block it writes, in order.
Imports: Mathlib.Logic.Function.Iterate, Q3df.Library.DoublingMask, Q3df.Library.Memory, Q3df.Client.Vm
Trusted boundary: human-reviewed transcription of client/Q3Vm.cc, lines 504-668. The file buffer and the
  memory block are separate allocations; a read outside the file sees what `LoadEnv.heap` holds there.
Main exports: LoadEnv, Access, fileImage, fileHeader, loadedImage, VmHeader.Accepted,
  VmHeader.dataSegmentLen, VmHeader.codeSegmentSize, VmHeader.memorySize, dataSegmentMask?,
  loadInstruction, loadDataWord, loadLit, CreateResult, CreateRun, create
Open obligations: none
-/
import Mathlib.Logic.Function.Iterate
import Q3df.Library.DoublingMask
import Q3df.Library.Memory
import Q3df.Client.Vm

namespace Q3df.Client

open ByteMemory

/-!
### The file

The header's fields at their offsets, swapped or not, with the sizes and checks
that are computed from them.
-/

/-- What `Create` finds outside the file: whether the buffer for the file can be
allocated, what the heap holds around it, the result of the allocation of the
memory block, and the memory of the process. -/
structure LoadEnv where
  fileBuffer : Bool
  heap : Int → Byte
  block : Option Word
  mem : Memory

/-- The bytes at and around `vmBase` once the file has been read, by their
distance from `vmBase`. -/
def fileImage (heap : Int → Byte) (file : List Byte) : Int → Byte := fun index =>
  if 0 ≤ index then (file[index.toNat]?).getD (heap index) else heap index

/-- `*(int*)src`. -/
def readInt (image : Int → Byte) (src : Int) : Word :=
  image (src + 3) ++ image (src + 2) ++ image (src + 1) ++ image src

/-- The header at the start of the buffer. -/
def readHeader (image : Int → Byte) : VmHeader :=
  { vmMagic := readInt image 0
    instructionCount := readInt image 4
    codeOffset := readInt image 8
    codeLength := readInt image 12
    dataOffset := readInt image 16
    dataLength := readInt image 20
    litLength := readInt image 24
    bssLength := readInt image 28 }

namespace VmHeader

/-- The fields in the order of the file. -/
def fields (header : VmHeader) : List Word :=
  [header.vmMagic, header.instructionCount, header.codeOffset, header.codeLength, header.dataOffset,
    header.dataLength, header.litLength, header.bssLength]

/-- Each field swapped. -/
def byteswap (header : VmHeader) : VmHeader :=
  { vmMagic := intByteswap header.vmMagic
    instructionCount := intByteswap header.instructionCount
    codeOffset := intByteswap header.codeOffset
    codeLength := intByteswap header.codeLength
    dataOffset := intByteswap header.dataOffset
    dataLength := intByteswap header.dataLength
    litLength := intByteswap header.litLength
    bssLength := intByteswap header.bssLength }

/-- The buffer with the header written over its first 32 bytes. -/
def store (header : VmHeader) (image : Int → Byte) : Int → Byte := fun index =>
  if 0 ≤ index ∧ index < 32 then
    ((header.fields[(index / 4).toNat]?).getD 0).extractLsb' (8 * (index % 4).toNat) 8
  else image index

/-- `header->vmMagic != VM_MAGIC || header->instructionCount <= 0 ||
header->codeLength <= 0` is false. -/
def Accepted (header : VmHeader) : Prop :=
  header.vmMagic = Client.vmMagic ∧ 0 < header.instructionCount.toInt ∧ 0 < header.codeLength.toInt

instance (header : VmHeader) : Decidable header.Accepted :=
  inferInstanceAs (Decidable (_ ∧ _ ∧ _))

/-- `vm_.dataSegmentLen`. -/
def dataSegmentLen (header : VmHeader) : Word :=
  header.dataLength + header.litLength + header.bssLength

/-- `codeSegmentSize`: each instruction is two ints. -/
def codeSegmentSize (header : VmHeader) : Word := header.instructionCount * 8

/-- `vm_.memorySize`. -/
def memorySize (header : VmHeader) (stacksize : Word) : Word :=
  header.codeSegmentSize + header.dataSegmentLen + stacksize

end VmHeader

/-- Whether the file is in the other byte order. -/
def fileSwapped (image : Int → Byte) : Bool := (readHeader image).vmMagic == vmMagicBig

/-- The header `Create` works with. -/
def fileHeader (image : Int → Byte) : VmHeader :=
  if fileSwapped image then (readHeader image).byteswap else readHeader image

/-- The buffer after the header has been swapped in place. -/
def loadedImage (image : Int → Byte) : Int → Byte :=
  if fileSwapped image then (fileHeader image).store image else image

/-!
### The copy loops

A cursor over the file and one over the block. Every read and write is logged
with its place and length, so that the bounds can be stated about the log.
-/

/-- One access of the loader: a range of the file, or a range of the memory
block, by its first index and its length. -/
inductive Access where
  | read (index : Int) (length : Nat)
  | write (offset : Int) (length : Nat)
deriving Repr, DecidableEq

/-- The pointers of the copy loops: `src` as an index into the file buffer,
`dst` as an offset into the memory block, with the process memory and the
accesses made so far. -/
structure Loader where
  mem : Memory
  src : Int
  dst : Int
  accesses : List Access

namespace Loader

/-- Read `length` bytes and move `src` behind them. -/
def advance (s : Loader) (length : Nat) : Loader :=
  { s with src := s.src + length, accesses := s.accesses ++ [.read s.src length] }

/-- `*dst++ = value`. -/
def put (memory : Word) (s : Loader) (value : Word) : Loader :=
  { s with
    mem := writeWord s.mem (memory + BitVec.ofInt 32 s.dst) value
    dst := s.dst + 4
    accesses := s.accesses ++ [.write s.dst 4] }

end Loader

/-- The form of the parameter that follows an opcode byte; a byte that is no
opcode has none. -/
def paramFormOf (op : Byte) : ParamForm :=
  (VmOp.ofInt? op.toNat).elim .none VmOp.paramForm

/-- One round of the instruction loop. -/
def loadInstruction (image : Int → Byte) (swapped : Bool) (memory : Word) (s : Loader) : Loader :=
  let op := image s.src
  let s := (s.advance 1).put memory (op.setWidth 32)
  match paramFormOf op with
  | .word =>
      let param := readInt image s.src
      (s.advance 4).put memory (if swapped then intByteswap param else param)
  | .byte => (s.advance 1).put memory ((image s.src).setWidth 32)
  | .none => s.put memory 0

/-- One round of the data loop. -/
def loadDataWord (image : Int → Byte) (swapped : Bool) (memory : Word) (s : Loader) : Loader :=
  let word := readInt image s.src
  (s.advance 4).put memory (if swapped then intByteswap word else word)

/-- `memcpy(dst, lsrc, litLength)`. -/
def loadLit (image : Int → Byte) (memory : Word) (litLength : Word) (s : Loader) : Loader :=
  let first := memory + BitVec.ofInt 32 s.dst
  { s with
    mem := fun a =>
      if InRange first litLength.toNat a then image (s.src + (a - first).toNat) else s.mem a
    accesses := s.accesses ++ [.read s.src litLength.toNat, .write s.dst litLength.toNat] }

/-- `memset(vm_.memory, 0, vm_.memorySize)`. -/
def clearBlock (mem : Memory) (memory memorySize : Word) : Memory := fun a =>
  if InRange memory memorySize.toNat a then 0 else mem a

/-- Rounds of the data loop: `header->dataLength/(int)sizeof(int)`, none for a
negative length. -/
def VmHeader.dataWords (header : VmHeader) : Nat := header.dataLength.toInt.toNat / 4

/-- Everything from the cleared block on. -/
def loadSegments (image : Int → Byte) (swapped : Bool) (header : VmHeader) (memory memorySize : Word)
    (env : LoadEnv) : Loader :=
  let start : Loader :=
    { mem := clearBlock env.mem memory memorySize
      src := header.codeOffset.toInt
      dst := 0
      accesses := [.read 0 32, .write 0 memorySize.toNat] }
  let code := (loadInstruction image swapped memory)^[header.instructionCount.toInt.toNat] start
  let data := (loadDataWord image swapped memory)^[header.dataWords]
    { code with src := header.dataOffset.toInt, dst := header.codeSegmentSize.toInt }
  loadLit image memory header.litLength data

/-!
### The mask and the result

The loop that doubles the mask runs on 32-bit words, and does not end for bounds
of 2^30 and more.
-/

/-- The mask loop. A mask that 32 rounds do not find is never found. -/
def dataSegmentMask? (bound : Word) : Option Word := DoublingMask.search bound 32 1

/-- Below 2^30 the loop finds one less than the least power of two above the
bound. -/
theorem dataSegmentMask?_of_small {bound : Word} (small : bound.toInt < 2 ^ 30) :
    dataSegmentMask? bound = some (BitVec.twoPow 32 (DoublingMask.exponent bound) - 1) := by
  have le : DoublingMask.exponent bound ≤ 30 := DoublingMask.exponent_le_iff.mpr small
  exact DoublingMask.search_eq_some (by omega) (by omega)

theorem dataSegmentMask?_of_large {bound : Word} (large : 2 ^ 30 ≤ bound.toInt) :
    dataSegmentMask? bound = none := DoublingMask.search_eq_none large 32

/-- How a call of `Create` ends. `diverges` is the mask loop without end. -/
inductive CreateResult where
  | qfalse
  | diverges
  | qtrue (vm : Vm) (mem : Memory)

/-- The result of a call, the ranges it has accessed and the texts it has
printed. -/
structure CreateRun where
  result : CreateResult
  accesses : List Access
  printed : List String

/-- The warning about a file in the other byte order. -/
def byteOrderWarning (image : Int → Byte) : List String :=
  if fileSwapped image then
    ["VM_Create: Big-endian magic number detected, will byteswap during load.\n"]
  else []

/-- The segments and registers of a VM whose block lies at `memory`. -/
def segmentsOf (stacksize : Word) (file : List Byte) (image : Int → Byte) (mask memory : Word) : Vm :=
  let header := fileHeader image
  let dataSegment := memory + header.codeSegmentSize
  let stackSegment := dataSegment + header.dataSegmentLen
  { name := ""
    codeSegment := memory
    dataSegment := dataSegment
    stackSegment := stackSegment
    codeSegmentLen := header.instructionCount
    dataSegmentLen := header.dataSegmentLen
    dataSegmentMask := mask
    opPointer := 0
    opStack := stackSegment + stacksize
    opBase := header.dataSegmentLen + stacksize.sdiv 2
    memorySize := header.memorySize stacksize
    memory := memory
    swapped := fileSwapped image
    fileSize := BitVec.ofNat 32 file.length
    header := header
    hookRealfunc := 0 }

/-- `Q3Vm::Create`, for the file the engine opens under the path. `oldmem` is
the block of a VM that is being restarted. -/
def create (stacksize : Word) (oldmem : Option Word) (env : LoadEnv) (file : List Byte) : CreateRun :=
  if env.fileBuffer then
    let image := fileImage env.heap file
    let header := fileHeader image
    if header.Accepted then
      match dataSegmentMask? (header.dataSegmentLen + stacksize) with
      | none =>
          { result := .diverges, accesses := [.read 0 32], printed := byteOrderWarning image }
      | some mask =>
          let memorySize := header.memorySize stacksize
          match oldmem.or env.block with
          | none =>
              { result := .qfalse
                accesses := [.read 0 32]
                printed := byteOrderWarning image ++
                  ["Unable to allocate VM memory chunk (size=" ++ toString memorySize.toInt ++ ")\n"] }
          | some memory =>
              let loaded :=
                loadSegments (loadedImage image) (fileSwapped image) header memory memorySize env
              { result := .qtrue (segmentsOf stacksize file image mask memory) loaded.mem
                accesses := loaded.accesses
                printed := byteOrderWarning image }
    else
      { result := .qfalse, accesses := [.read 0 32], printed := byteOrderWarning image }
  else
    { result := .qfalse, accesses := [], printed := [] }

/-- Everything a successful call has done. -/
theorem create_eq_qtrue {stacksize : Word} {oldmem : Option Word} {env : LoadEnv} {file : List Byte}
    {vm : Vm} {mem : Memory} (created : (create stacksize oldmem env file).result = .qtrue vm mem) :
    (fileHeader (fileImage env.heap file)).Accepted ∧
      ∃ mask memory,
        dataSegmentMask? ((fileHeader (fileImage env.heap file)).dataSegmentLen + stacksize) = some mask ∧
        oldmem.or env.block = some memory ∧
        vm = segmentsOf stacksize file (fileImage env.heap file) mask memory ∧
        mem = (loadSegments (loadedImage (fileImage env.heap file)) (fileSwapped (fileImage env.heap file))
          (fileHeader (fileImage env.heap file)) memory
          ((fileHeader (fileImage env.heap file)).memorySize stacksize) env).mem := by
  simp only [create] at created
  split at created
  · split at created
    · rename_i accepted
      split at created
      · cases created
      · rename_i mask found
        split at created
        · cases created
        · rename_i memory allocated
          cases created
          exact ⟨accepted, mask, memory, found, allocated, rfl, rfl⟩
    · cases created
  · cases created

end Q3df.Client
