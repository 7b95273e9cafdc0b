/-
Module: Q3df.Client.Vm
Layer: Client
Purpose: The data of a game VM: the header of a `.qvm` file, the opcodes of its instructions with
  the form of their parameters, and the record of segments and registers the proxy keeps for a
  loaded VM.
Imports: Q3df.Client.Q3SysCall
Trusted boundary: human-reviewed transcription of client/Quake3.h, lines 34-35 and 316-425, and of
  the case lists of client/Q3Vm.cc, lines 604-643
Main exports: VmHeader, vmMagic, vmMagicBig, intByteswap, VmOp, VmOp.ofInt?, VmOp.ofInt?_toInt,
  ParamForm, VmOp.paramForm, Vm
Open obligations: none
-/
import Q3df.Client.Q3SysCall

namespace Q3df.Client

abbrev Byte := BitVec 8

/-- `VM_MAGIC`. -/
def vmMagic : Word := 0x12721444

/-- `VM_MAGIC_BIG`, the same number in the other byte order. -/
def vmMagicBig : Word := 0x44147212

/-- `int_byteswap`. -/
def intByteswap (i : Word) : Word :=
  let b1 := i &&& 255
  let b2 := (i >>> 8) &&& 255
  let b3 := (i >>> 16) &&& 255
  let b4 := (i >>> 24) &&& 255
  (b1 <<< 24) + (b2 <<< 16) + (b3 <<< 8) + b4

example : intByteswap vmMagicBig = vmMagic := by decide

/-- `vmHeader_t`, eight words at the start of the file. -/
structure VmHeader where
  vmMagic : Word
  instructionCount : Word
  codeOffset : Word
  codeLength : Word
  dataOffset : Word
  dataLength : Word
  litLength : Word
  bssLength : Word
deriving Repr, DecidableEq

/-- `vmOps_t`. -/
inductive VmOp where
  | opUndef
  | opNop
  | opBreak
  | opEnter
  | opLeave
  | opCall
  | opPush
  | opPop
  | opConst
  | opLocal
  | opJump
  | opEq
  | opNe
  | opLti
  | opLei
  | opGti
  | opGei
  | opLtu
  | opLeu
  | opGtu
  | opGeu
  | opEqf
  | opNef
  | opLtf
  | opLef
  | opGtf
  | opGef
  | opLoad1
  | opLoad2
  | opLoad4
  | opStore1
  | opStore2
  | opStore4
  | opArg
  | opBlockCopy
  | opSex8
  | opSex16
  | opNegi
  | opAdd
  | opSub
  | opDivi
  | opDivu
  | opModi
  | opModu
  | opMuli
  | opMulu
  | opBand
  | opBor
  | opBxor
  | opBcom
  | opLsh
  | opRshi
  | opRshu
  | opNegf
  | opAddf
  | opSubf
  | opDivf
  | opMulf
  | opCvif
  | opCvfi
deriving Repr, DecidableEq

namespace VmOp

/-- The opcode's number. -/
def toInt : VmOp → Int
  | opUndef => 0
  | opNop => 1
  | opBreak => 2
  | opEnter => 3
  | opLeave => 4
  | opCall => 5
  | opPush => 6
  | opPop => 7
  | opConst => 8
  | opLocal => 9
  | opJump => 10
  | opEq => 11
  | opNe => 12
  | opLti => 13
  | opLei => 14
  | opGti => 15
  | opGei => 16
  | opLtu => 17
  | opLeu => 18
  | opGtu => 19
  | opGeu => 20
  | opEqf => 21
  | opNef => 22
  | opLtf => 23
  | opLef => 24
  | opGtf => 25
  | opGef => 26
  | opLoad1 => 27
  | opLoad2 => 28
  | opLoad4 => 29
  | opStore1 => 30
  | opStore2 => 31
  | opStore4 => 32
  | opArg => 33
  | opBlockCopy => 34
  | opSex8 => 35
  | opSex16 => 36
  | opNegi => 37
  | opAdd => 38
  | opSub => 39
  | opDivi => 40
  | opDivu => 41
  | opModi => 42
  | opModu => 43
  | opMuli => 44
  | opMulu => 45
  | opBand => 46
  | opBor => 47
  | opBxor => 48
  | opBcom => 49
  | opLsh => 50
  | opRshi => 51
  | opRshu => 52
  | opNegf => 53
  | opAddf => 54
  | opSubf => 55
  | opDivf => 56
  | opMulf => 57
  | opCvif => 58
  | opCvfi => 59

/-- Every opcode, in the order of the header. -/
def all : List VmOp :=
  [.opUndef, .opNop, .opBreak, .opEnter, .opLeave, .opCall, .opPush, .opPop, .opConst, .opLocal,
   .opJump, .opEq, .opNe, .opLti, .opLei, .opGti, .opGei, .opLtu, .opLeu, .opGtu, .opGeu, .opEqf,
   .opNef, .opLtf, .opLef, .opGtf, .opGef, .opLoad1, .opLoad2, .opLoad4, .opStore1, .opStore2,
   .opStore4, .opArg, .opBlockCopy, .opSex8, .opSex16, .opNegi, .opAdd, .opSub, .opDivi, .opDivu,
   .opModi, .opModu, .opMuli, .opMulu, .opBand, .opBor, .opBxor, .opBcom, .opLsh, .opRshi, .opRshu,
   .opNegf, .opAddf, .opSubf, .opDivf, .opMulf, .opCvif, .opCvfi]

/-- The opcode a `switch` over the number selects, `none` for a number the
header does not name. -/
def ofInt? (op : Int) : Option VmOp :=
  all.find? fun vmOp => vmOp.toInt == op

@[simp] theorem ofInt?_toInt (op : VmOp) : ofInt? op.toInt = some op := by
  cases op <;> decide

end VmOp

/-- How the parameter of an instruction is stored in the file. -/
inductive ParamForm where
  | word
  | byte
  | none
deriving Repr, DecidableEq

/-- The case list of the loader's `switch`. -/
def VmOp.paramForm : VmOp → ParamForm
  | .opEnter | .opLeave | .opConst | .opLocal | .opEq
  | .opNe | .opLti | .opLei | .opGti | .opGei
  | .opLtu | .opLeu | .opGtu | .opGeu | .opEqf
  | .opNef | .opLtf | .opLef | .opGtf | .opGef
  | .opBlockCopy => .word
  | .opArg => .byte
  | _ => .none

/-- Bytes of the parameter in the file. -/
def ParamForm.length : ParamForm → Nat
  | word => 4
  | byte => 1
  | none => 0

/-- `vm_t`. Pointers are addresses of the process; `name` is the path a restart
loads again. -/
structure Vm where
  name : String
  codeSegment : Word
  dataSegment : Word
  stackSegment : Word
  codeSegmentLen : Word
  dataSegmentLen : Word
  dataSegmentMask : Word
  opPointer : Word
  opStack : Word
  opBase : Word
  memorySize : Word
  memory : Word
  swapped : Bool
  fileSize : Word
  header : VmHeader
  hookRealfunc : Word
deriving Repr, DecidableEq

/-- `memset(&vm_, 0, sizeof(vm_t))`. -/
def Vm.zero : Vm :=
  { name := "", codeSegment := 0, dataSegment := 0, stackSegment := 0, codeSegmentLen := 0
    dataSegmentLen := 0, dataSegmentMask := 0, opPointer := 0, opStack := 0, opBase := 0, memorySize := 0
    memory := 0, swapped := false, fileSize := 0, header := ⟨0, 0, 0, 0, 0, 0, 0, 0⟩, hookRealfunc := 0 }

end Q3df.Client
