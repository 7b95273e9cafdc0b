/-
Module: Q3df.Client.CodeSegment
Layer: Client
Purpose: The encoding of a program in the code section of a `.qvm` file and what the loader makes of
  it. An instruction is its opcode byte and, for some opcodes, a parameter of four bytes or of one;
  the loader lays down two words for each. The headline `instructions_decoded` says that loading
  undoes encoding in either byte order.
Imports: Q3df.Client.CodeShape, Q3df.Client.DataSegment
Trusted boundary: none
Main exports: Instruction, Instruction.encode, encode, CodeFile, Allocated, codeWord, DecodedTo,
  instructions_decoded
Open obligations: none
-/
import Q3df.Client.CodeShape
import Q3df.Client.DataSegment

namespace Q3df.Client

open ByteMemory SignedWord

/-!
### Encoding

The form a compiler writes: one byte for the opcode and four, one or no bytes
for its parameter. The form depends on the opcode alone.
-/

/-- The parameter an opcode has in the file. -/
def VmOp.encodedForm (op : VmOp) : ParamForm :=
  if op = .opEnter ∨ op = .opLeave ∨ op = .opConst ∨ op = .opLocal ∨ op.isBranch = true ∨
      op = .opBlockCopy then .word
  else if op = .opArg then .byte
  else .none

/-- The parameters a form can hold. -/
def ParamForm.Admits : ParamForm → Word → Prop
  | .word, _ => True
  | .byte, param => param.toNat < 256
  | .none, param => param = 0

/-- An instruction, its parameter 0 when the opcode has none. -/
structure Instruction where
  op : VmOp
  param : Word
  admitted : op.encodedForm.Admits param

/-- A word in the byte order of the file. -/
def wordBytes (bigEndian : Bool) (word : Word) : List Byte :=
  let bytes := [word.extractLsb' 0 8, word.extractLsb' 8 8, word.extractLsb' 16 8, word.extractLsb' 24 8]
  if bigEndian then bytes.reverse else bytes

/-- The opcode byte and the parameter. -/
def Instruction.encode (bigEndian : Bool) (instruction : Instruction) : List Byte :=
  BitVec.ofInt 8 instruction.op.toInt ::
    match instruction.op.encodedForm with
    | .word => wordBytes bigEndian instruction.param
    | .byte => [instruction.param.setWidth 8]
    | .none => []

/-- The code section of a program. -/
def encode (bigEndian : Bool) (instructions : List Instruction) : List Byte :=
  instructions.flatMap (Instruction.encode bigEndian)

/-- The program as the interpreter sees it. -/
def programOf (instructions : List Instruction) : VmProgram :=
  instructions.map fun instruction => (instruction.op, instruction.param)

/-- The loader's case list is the encoding's. -/
theorem paramFormOf_opcode (op : VmOp) : paramFormOf (BitVec.ofInt 8 op.toInt) = op.encodedForm := by
  cases op <;> rfl

/-- The opcode's byte, widened to the word the code segment stores. -/
theorem opcode_setWidth (op : VmOp) :
    (BitVec.ofInt 8 op.toInt).setWidth 32 = BitVec.ofInt 32 op.toInt := by
  cases op <;> rfl

/-- `switch( op )` finds the opcode again in the stored word. -/
theorem ofInt?_opcode (op : VmOp) : VmOp.ofInt? (BitVec.ofInt 32 op.toInt).toInt = some op := by
  cases op <;> rfl

/-!
### Reading the encoding back

The loader's cursor is followed over one instruction. It reads the opcode byte,
then the parameter in the opcode's form, and stores both as words.
-/

/-- The bytes stand in the file from an index on. -/
def ReadsFrom (image : Int → Byte) (src : Int) (bytes : List Byte) : Prop :=
  ∀ (j : Nat) (byte : Byte), bytes[j]? = some byte → image (src + j) = byte

section Decoding

variable {image : Int → Byte} {bigEndian : Bool} {memory : Word} {s : Loader} {d : Nat} {src : Int}

/-- An image that holds two byte strings one behind the other holds each at its
place. -/
theorem readsFrom_append {first second : List Byte} (reads : ReadsFrom image src (first ++ second)) :
    ReadsFrom image src first ∧ ReadsFrom image (src + first.length) second := by
  constructor
  · intro j byte found
    have inside := (List.getElem?_eq_some_iff.mp found).choose
    exact reads j byte (by rw [List.getElem?_append_left inside, found])
  · intro j byte found
    have place : src + first.length + (j : Int) = src + ((first.length + j : Nat) : Int) := by omega
    rw [place]
    apply reads
    rw [List.getElem?_append_right (Nat.le_add_right _ _), Nat.add_sub_cancel_left, found]

/-- Words with the same bytes are the same. -/
theorem word_ext_bytes {x y : Word}
    (same : ∀ r, r < 4 → x.extractLsb' (8 * r) 8 = y.extractLsb' (8 * r) 8) : x = y := by
  apply BitVec.eq_of_getLsbD_eq
  intro i inside
  have bit := congrArg (·.getLsbD (i % 8)) (same (i / 8) (by omega))
  have split : 8 * (i / 8) + i % 8 = i := Nat.div_add_mod i 8
  have small : i % 8 < 8 := Nat.mod_lt i (by decide)
  simpa only [BitVec.getLsbD_extractLsb', small, split, decide_true, Bool.true_and] using bit

/-- A word of the file is the word that was encoded. -/
theorem readInt_wordBytes {word : Word} (reads : ReadsFrom image src (wordBytes bigEndian word)) :
    (if bigEndian then intByteswap (readInt image src) else readInt image src) = word := by
  apply word_ext_bytes
  intro r small
  rw [storedInt_byte image bigEndian src small]
  apply reads
  have digits : r = 0 ∨ r = 1 ∨ r = 2 ∨ r = 3 := by omega
  cases bigEndian with
  | false => rcases digits with rfl | rfl | rfl | rfl <;> rfl
  | true => rcases digits with rfl | rfl | rfl | rfl <;> rfl

/-- A parameter byte is the parameter. -/
theorem setWidth_setWidth_byte {param : Word} (small : param.toNat < 256) :
    (param.setWidth 8).setWidth 32 = param := by
  apply BitVec.eq_of_toNat_eq
  rw [BitVec.toNat_setWidth, BitVec.toNat_setWidth]
  omega

@[simp] theorem advance_mem (length : Nat) : (s.advance length).mem = s.mem := rfl

@[simp] theorem put_mem (value : Word) :
    (s.put memory value).mem = writeWord s.mem (memory + BitVec.ofInt 32 s.dst) value := rfl

/-- One round of the instruction loop: the two words of the instruction, and
`src` behind it. -/
theorem loadInstruction_encoded {instruction : Instruction}
    (reads : ReadsFrom image s.src (instruction.encode bigEndian)) :
    (loadInstruction image bigEndian memory s).src =
        s.src + (instruction.encode bigEndian).length ∧
      (loadInstruction image bigEndian memory s).mem =
        writeWord (writeWord s.mem (memory + BitVec.ofInt 32 s.dst) (BitVec.ofInt 32 instruction.op.toInt))
          (memory + BitVec.ofInt 32 (s.dst + 4)) instruction.param := by
  have opcode : image s.src = BitVec.ofInt 8 instruction.op.toInt := by
    have first := reads 0 (BitVec.ofInt 8 instruction.op.toInt) rfl
    rwa [Int.natCast_zero, Int.add_zero] at first
  have admitted := instruction.admitted
  rw [Instruction.encode] at reads ⊢
  have rest := (@readsFrom_append image s.src [BitVec.ofInt 8 instruction.op.toInt] _ reads).2
  cases form : instruction.op.encodedForm with
  | word =>
      rw [form] at rest
      have length : (wordBytes bigEndian instruction.param).length = 4 := by
        cases bigEndian <;> rfl
      simp only [loadInstruction, opcode, paramFormOf_opcode, form, put_src, put_dst, put_mem, advance_src,
        advance_dst, advance_mem, opcode_setWidth, List.length_cons, length]
      refine ⟨by omega, ?_⟩
      exact congrArg _ (readInt_wordBytes rest)
  | byte =>
      rw [form] at rest admitted
      have param : image (s.src + 1) = instruction.param.setWidth 8 := by
        have first := rest 0 (instruction.param.setWidth 8) rfl
        rwa [Int.natCast_zero, Int.add_zero] at first
      simp only [loadInstruction, opcode, paramFormOf_opcode, form, put_src, put_dst, put_mem, advance_src,
        advance_dst, advance_mem, opcode_setWidth, List.length_cons, List.length_nil]
      refine ⟨by omega, ?_⟩
      have stored : (image (s.src + (1 : Nat))).setWidth 32 = instruction.param := by
        rw [Int.natCast_one, param]
        exact setWidth_setWidth_byte admitted
      rw [stored]
  | none =>
      rw [form] at admitted
      have zero : instruction.param = 0 := admitted
      simp only [loadInstruction, opcode, paramFormOf_opcode, form, put_src, put_dst, put_mem, advance_src,
        advance_dst, advance_mem, opcode_setWidth, List.length_cons, List.length_nil, Nat.zero_add, zero,
        and_self]

/-!
### The whole stream

By induction on the instructions. A later instruction writes behind the words of
an earlier one, so these stay as they were stored.
-/

/-- The word at an offset of the memory block. -/
def blockWord (mem : Memory) (memory : Word) (offset : Nat) : Word :=
  readWord mem (memory + BitVec.ofNat 32 offset)

/-- A word of the code segment depends on its own four bytes only. -/
theorem blockWord_congr {mem mem' : Memory} {k : Nat}
    (same : ∀ j, k ≤ j → j < k + 4 → blockByte mem' memory j = blockByte mem memory j) :
    blockWord mem' memory k = blockWord mem memory k := by
  apply readWord_congr
  intro c inside
  have place : c = memory + BitVec.ofNat 32 (k + (c - (memory + BitVec.ofNat 32 k)).toNat) := by
    bv_omega
  rw [InRange] at inside
  rw [place]
  exact same _ (Nat.le_add_right _ _) (by omega)

/-- The first instruction's words, before the rest of the stream is read. -/
theorem loadInstruction_words {instruction : Instruction} (points : s.PointsAt d)
    (reads : ReadsFrom image s.src (instruction.encode bigEndian)) :
    blockWord (loadInstruction image bigEndian memory s).mem memory d =
        BitVec.ofInt 32 instruction.op.toInt ∧
      blockWord (loadInstruction image bigEndian memory s).mem memory (d + 4) = instruction.param := by
  have next := @pointsAt_put memory s d 0 points
  rw [Loader.PointsAt] at points next
  rw [put_dst] at next
  rw [(loadInstruction_encoded reads).2, points, next]
  constructor
  · have apart (c : Word) (inside : InRange (memory + BitVec.ofNat 32 d) 4 c) :
        ¬InRange (memory + BitVec.ofNat 32 (d + 4)) 4 c := by
      rw [InRange] at inside ⊢
      bv_omega
    exact (readWord_write_of_apart apart).trans (readWord_writeWord_same _)
  · exact readWord_writeWord_same _

/-- Every instruction of an encoded program lands in its two words. The
induction is on the program: what the first entry leaves is not touched by the
rest of the loop. -/
theorem loadInstructions_words {instructions : List Instruction} (points : s.PointsAt d)
    (fits : d + 8 * instructions.length ≤ 2 ^ 32)
    (reads : ReadsFrom image s.src (encode bigEndian instructions)) {i : Nat} {instruction : Instruction}
    (found : instructions[i]? = some instruction) :
    blockWord ((loadInstruction image bigEndian memory)^[instructions.length] s).mem memory (d + 8 * i) =
        BitVec.ofInt 32 instruction.op.toInt ∧
      blockWord ((loadInstruction image bigEndian memory)^[instructions.length] s).mem memory
        (d + 8 * i + 4) = instruction.param := by
  induction instructions generalizing s d i with
  | nil => simp at found
  | cons first rest inductionHypothesis =>
      rw [List.length_cons] at fits
      rw [encode, List.flatMap_cons] at reads
      obtain ⟨readsFirst, readsRest⟩ := readsFrom_append reads
      have next := @pointsAt_loadInstruction image bigEndian memory s d points
      rw [List.length_cons, Function.iterate_succ_apply]
      cases i with
      | zero =>
          obtain rfl : first = instruction := Option.some.inj found
          have kept (j : Nat) (before : j < d + 8) :
              blockByte ((loadInstruction image bigEndian memory)^[rest.length]
                  (loadInstruction image bigEndian memory s)).mem memory j =
                blockByte (loadInstruction image bigEndian memory s).mem memory j :=
            loadInstructions_byte_apart next (by omega) (by omega) (Or.inl before)
          obtain ⟨opcode, param⟩ := @loadInstruction_words image bigEndian memory s d first points
            readsFirst
          rw [← opcode, ← param]
          exact ⟨blockWord_congr fun j _ before => kept j (by omega),
            blockWord_congr fun j _ before => kept j (by omega)⟩
      | succ i =>
          have place : d + 8 * (i + 1) = d + 8 + 8 * i := by omega
          rw [place]
          refine inductionHypothesis next (by omega) ?_ found
          rw [(loadInstruction_encoded readsFirst).1]
          exact readsRest

end Decoding

/-!
### Loading undoes encoding

The decoded words are those of the program the file encodes, for either byte
order of the header, and the branch targets that `Goto` takes are positions in
this program.
-/

/-- A file whose header describes the program: the magic number of its byte
order, the number of instructions, and behind the header a code section with
their encoding. -/
structure CodeFile (bigEndian : Bool) (instructions : List Instruction) (heap : Int → Byte)
    (file : List Byte) : Prop extends FitsAddressSpace (fileHeader (fileImage heap file)) where
  magic : (readHeader (fileImage heap file)).vmMagic = if bigEndian then vmMagicBig else vmMagic
  count : (fileHeader (fileImage heap file)).instructionCount.toInt = instructions.length
  length : (fileHeader (fileImage heap file)).codeLength.toInt = (encode bigEndian instructions).length
  behindHeader : 32 ≤ (fileHeader (fileImage heap file)).codeOffset.toInt
  codeSection : (file.drop (fileHeader (fileImage heap file)).codeOffset.toNat).take
    (fileHeader (fileImage heap file)).codeLength.toNat = encode bigEndian instructions

/-- Both allocations succeed, and the data segment is small enough for the mask
loop to end. -/
structure Allocated (oldmem : Option Word) (env : LoadEnv) (file : List Byte) : Prop where
  fileBuffer : env.fileBuffer = true
  block : (oldmem.or env.block).isSome = true
  mask : (fileHeader (fileImage env.heap file)).dataSegmentLen.toInt < 2 ^ 30

/-- `codeSegment[j]`. -/
def codeWord (vm : Vm) (mem : Memory) (j : Nat) : Word :=
  readWord mem (vm.codeSegment + BitVec.ofNat 32 (4 * j))

/-- The code segment holds opcode and parameter of every instruction. -/
def DecodedTo (instructions : List Instruction) (vm : Vm) (mem : Memory) : Prop :=
  ∀ i instruction, instructions[i]? = some instruction →
    codeWord vm mem (2 * i) = BitVec.ofInt 32 instruction.op.toInt ∧
      codeWord vm mem (2 * i + 1) = instruction.param

/-- `GOTO(x)` leads to the instruction with the index `x`, as long as the code
segment is what it was. -/
def ReachedByGoto (instructions : List Instruction) (vm : Vm) (mem : Memory) : Prop :=
  ∀ (fpu : FloatUnit) (s : RunState) (x : Word) (instruction : Instruction),
    instructions[x.toNat]? = some instruction → s.vm.codeSegment = vm.codeSegment →
    (∀ j, j < 2 * instructions.length → codeWord s.vm s.mem j = codeWord vm mem j) →
    runPass fpu (s.goto x) =
      runOpcode fpu instruction.op instruction.param { s with opPointer := instr s.vm (x.toNat + 1) }

section Files

variable {bigEndian : Bool} {instructions : List Instruction} {oldmem : Option Word} {env : LoadEnv}
  {file : List Byte} {vm : Vm} {mem : Memory}

/-- The interpreter fetches the instruction whose two words stand at the instruction
pointer. -/
theorem fetch_eq {i : Nat} {instruction : Instruction}
    (opcode : codeWord vm mem (2 * i) = BitVec.ofInt 32 instruction.op.toInt)
    (param : codeWord vm mem (2 * i + 1) = instruction.param) :
    fetch vm mem i = some (instruction.op, instruction.param) := by
  have place : vm.codeSegment + BitVec.ofNat 32 (4 * (2 * i)) = instr vm i := by
    rw [instr]
    bv_omega
  have next : vm.codeSegment + BitVec.ofNat 32 (4 * (2 * i + 1)) = instr vm i + 4 := by
    rw [instr]
    bv_omega
  rw [codeWord, place] at opcode
  rw [codeWord, next] at param
  rw [fetch, opcode, param, ofInt?_opcode]
  rfl

/-- Every instruction of the decoded program is reached by a jump to its index. -/
theorem reachedByGoto_of_decodedTo (decoded : DecodedTo instructions vm mem) :
    ReachedByGoto instructions vm mem := by
  intro fpu s x instruction found sameSegment sameCode
  have inside := (List.getElem?_eq_some_iff.mp found).choose
  obtain ⟨opcode, param⟩ := decoded x.toNat instruction found
  rw [← sameCode _ (by omega)] at opcode param
  exact runPass_fetch (goto_opPointer s x) (fetch_eq opcode param)

/-- The header in the byte order of the process. -/
theorem CodeFile.fileSwapped_eq (codeFile : CodeFile bigEndian instructions env.heap file) :
    fileSwapped (fileImage env.heap file) = bigEndian := by
  rw [fileSwapped, codeFile.magic]
  cases bigEndian <;> decide

/-- A file that encodes a non-empty program passes every check that `Create`
makes on the header. -/
theorem CodeFile.accepted (codeFile : CodeFile bigEndian instructions env.heap file)
    (nonempty : instructions ≠ []) : (fileHeader (fileImage env.heap file)).Accepted := by
  have positive := List.length_pos_iff.mpr nonempty
  refine ⟨?_, ?_, ?_⟩
  · have swapped := codeFile.fileSwapped_eq
    have magic := codeFile.magic
    rw [fileHeader, swapped]
    cases bigEndian with
    | false => exact magic
    | true =>
        have native : intByteswap vmMagicBig = vmMagic := by decide
        rw [if_pos rfl, VmHeader.byteswap, magic]
        exact native
  · rw [codeFile.count]
    omega
  · obtain ⟨first, rest, rfl⟩ := List.exists_cons_of_ne_nil nonempty
    rw [codeFile.length, encode, List.flatMap_cons, Instruction.encode, List.length_append, List.length_cons]
    omega

/-- The loader finds the encoding at `codeOffset`. -/
theorem CodeFile.readsFrom (codeFile : CodeFile bigEndian instructions env.heap file) :
    ReadsFrom (loadedImage (fileImage env.heap file))
      (fileHeader (fileImage env.heap file)).codeOffset.toInt (encode bigEndian instructions) := by
  intro j byte found
  have behind := codeFile.behindHeader
  have offset := toNat_of_toInt_nonneg (Int.le_trans (by decide) behind)
  rw [← codeFile.codeSection] at found
  have inside := (List.getElem?_eq_some_iff.mp found).choose
  rw [List.length_take, List.length_drop] at inside
  rw [List.getElem?_take_of_lt (by omega), List.getElem?_drop, List.getElem?_eq_getElem (by omega)] at found
  have place : (fileHeader (fileImage env.heap file)).codeOffset.toInt + j =
      ((fileHeader (fileImage env.heap file)).codeOffset.toNat + j : Nat) := by omega
  rw [place, loadedImage_of_behind (by omega), fileImage_of_lt (by omega)]
  exact Option.some.inj found

/-- The header counts the instructions of the program, so the loader's loop
makes one round for each. -/
theorem CodeFile.instructionCount_toNat (codeFile : CodeFile bigEndian instructions env.heap file) :
    (fileHeader (fileImage env.heap file)).instructionCount.toNat = instructions.length := by
  have cast := toNat_of_toInt_nonneg codeFile.instructionCount
  have count := codeFile.count
  omega

/-- Loading an encoded program succeeds and gives the program back. -/
theorem CodeFile.decoded (codeFile : CodeFile bigEndian instructions env.heap file)
    (nonempty : instructions ≠ []) (allocated : Allocated oldmem env file) :
    ∃ vm mem, (create 0 oldmem env file).result = .qtrue vm mem ∧ DecodedTo instructions vm mem := by
  obtain ⟨memory, block⟩ := Option.isSome_iff_exists.mp allocated.block
  obtain ⟨⟨vm, mem, created, -⟩, -⟩ := (create_of_small oldmem allocated.fileBuffer
    (codeFile.accepted nonempty) allocated.mask).2 memory block
  refine ⟨vm, mem, created, ?_⟩
  obtain ⟨-, mask, memory, -, -, rfl, rfl⟩ := create_eq_qtrue created
  intro i instruction found
  have inside := (List.getElem?_eq_some_iff.mp found).choose
  have count := codeFile.instructionCount_toNat
  obtain ⟨-, -, total⟩ := codeFile.sizes
  have kept (k : Nat) (before : k + 4 ≤ 8 * instructions.length) :=
    @blockWord_congr memory _ _ k fun j _ below =>
      @loadSegments_code_byte (loadedImage (fileImage env.heap file)) bigEndian
        (fileHeader (fileImage env.heap file)) memory env j codeFile.toFitsAddressSpace
        ((fileHeader (fileImage env.heap file)).memorySize 0) (by omega)
  obtain ⟨opcode, param⟩ := @loadInstructions_words (loadedImage (fileImage env.heap file))
      bigEndian memory
    (codeLoader (fileHeader (fileImage env.heap file)) memory
      ((fileHeader (fileImage env.heap file)).memorySize 0) env) 0 instructions pointsAt_codeLoader (by omega)
    codeFile.readsFrom i instruction found
  rw [Nat.zero_add, ← count] at opcode param
  have even : 4 * (2 * i) = 8 * i := by omega
  have odd : 4 * (2 * i + 1) = 8 * i + 4 := by omega
  rw [codeWord, codeWord, even, odd, codeFile.fileSwapped_eq]
  exact ⟨(kept _ (by omega)).trans opcode, (kept _ (by omega)).trans param⟩

end Files

/-- Loading undoes encoding: for every program that is not empty and either byte
order the load succeeds, the code segment holds opcode and parameter of every
instruction, and a jump to an index executes the instruction with that index.
The two encodings of a program load to the same code segment. -/
theorem instructions_decoded {instructions : List Instruction} (nonempty : instructions ≠ []) :
    (∀ bigEndian oldmem env file, CodeFile bigEndian instructions env.heap file →
      Allocated oldmem env file →
      ∃ vm mem, (create 0 oldmem env file).result = .qtrue vm mem ∧ DecodedTo instructions vm mem ∧
        ReachedByGoto instructions vm mem) ∧
    (∀ oldmem env file oldmem' env' file', CodeFile false instructions env.heap file →
      CodeFile true instructions env'.heap file' → Allocated oldmem env file →
        Allocated oldmem' env' file' →
      ∃ vm mem vm' mem', (create 0 oldmem env file).result = .qtrue vm mem ∧
        (create 0 oldmem' env' file').result = .qtrue vm' mem' ∧
        ∀ j, j < 2 * instructions.length → codeWord vm mem j = codeWord vm' mem' j) := by
  constructor
  · intro bigEndian oldmem env file codeFile allocated
    obtain ⟨vm, mem, created, decoded⟩ := codeFile.decoded nonempty allocated
    exact ⟨vm, mem, created, decoded, reachedByGoto_of_decodedTo decoded⟩
  · intro oldmem env file oldmem' env' file' little big allocated allocated'
    obtain ⟨vm, mem, created, decoded⟩ := little.decoded nonempty allocated
    obtain ⟨vm', mem', created', decoded'⟩ := big.decoded nonempty allocated'
    refine ⟨vm, mem, vm', mem', created, created', ?_⟩
    intro j inside
    have found : instructions[j / 2]? = some instructions[j / 2] :=
      List.getElem?_eq_getElem (by omega)
    obtain ⟨opcode, param⟩ := decoded _ _ found
    obtain ⟨opcode', param'⟩ := decoded' _ _ found
    rcases Nat.mod_two_eq_zero_or_one j with even | odd
    · have place : 2 * (j / 2) = j := by omega
      rw [place] at opcode opcode'
      rw [opcode, opcode']
    · have place : 2 * (j / 2) + 1 = j := by omega
      rw [place] at param param'
      rw [param, param']

theorem eight_admitted : ParamForm.Admits (VmOp.encodedForm .opArg) 8 := by
  show (8 : Word).toNat < 256
  decide

theorem pop_admitted : ParamForm.Admits (VmOp.encodedForm .opPop) 0 := rfl

/-- `ENTER 16`, `CONST 5`, `ARG 8`, `POP`. -/
def sampleProgram : List Instruction :=
  [⟨.opEnter, 16, trivial⟩, ⟨.opConst, 5, trivial⟩, ⟨.opArg, 8, eight_admitted⟩,
    ⟨.opPop, 0, pop_admitted⟩]

/-- The program in either byte order. -/
def sampleFile : Bool → List Byte
  | false =>
      [0x44, 0x14, 0x72, 0x12, 4, 0, 0, 0, 32, 0, 0, 0, 13, 0, 0, 0,
        45, 0, 0, 0, 0, 0, 0, 0, 0, 0, 0, 0, 4, 0, 0, 0,
        3, 16, 0, 0, 0, 8, 5, 0, 0, 0, 33, 8, 7]
  | true =>
      [0x12, 0x72, 0x14, 0x44, 0, 0, 0, 4, 0, 0, 0, 32, 0, 0, 0, 13,
        0, 0, 0, 45, 0, 0, 0, 0, 0, 0, 0, 0, 0, 0, 0, 4,
        3, 0, 0, 0, 16, 8, 0, 0, 0, 5, 33, 8, 7]

/-- The sample file encodes the sample program in both byte orders. -/
theorem sampleFile_codeFile (bigEndian : Bool) :
    CodeFile bigEndian sampleProgram zeroHeap.heap (sampleFile bigEndian) := by
  cases bigEndian <;>
    exact { instructionCount := by decide, dataLength := by decide, litLength := by decide
            bssLength := by decide, block := by decide, magic := by decide, count := by decide
            length := by decide, behindHeader := by decide, codeSection := by decide }

theorem sampleFile_allocated (bigEndian : Bool) : Allocated none zeroHeap (sampleFile bigEndian) := by
  cases bigEndian <;> exact { fileBuffer := rfl, block := rfl, mask := by decide }

/-- `instructions_decoded` at the sample program: both files give the same code
words. -/
theorem sampleProgram_decoded :
    ∃ vm mem vm' mem', (create 0 none zeroHeap (sampleFile false)).result = .qtrue vm mem ∧
      (create 0 none zeroHeap (sampleFile true)).result = .qtrue vm' mem' ∧
      ∀ j, j < 2 * sampleProgram.length → codeWord vm mem j = codeWord vm' mem' j :=
  (instructions_decoded (List.cons_ne_nil _ _)).2 none zeroHeap _ none zeroHeap _ (sampleFile_codeFile false)
    (sampleFile_codeFile true) (sampleFile_allocated false) (sampleFile_allocated true)

/-- A header without instructions. -/
def emptyCodeFile : List Byte :=
  [0x44, 0x14, 0x72, 0x12, 0, 0, 0, 0, 32, 0, 0, 0, 0, 0, 0, 0,
    32, 0, 0, 0, 0, 0, 0, 0, 0, 0, 0, 0, 4, 0, 0, 0]

/-- One `POP`, and 2^30 bytes of bss. -/
def largeBssFile : List Byte :=
  [0x44, 0x14, 0x72, 0x12, 1, 0, 0, 0, 32, 0, 0, 0, 1, 0, 0, 0,
    33, 0, 0, 0, 0, 0, 0, 0, 0, 0, 0, 0, 0, 0, 0, 0x40, 7]

/-- The empty program is refused, and a segment of 2^30 bytes keeps the loader
in its mask loop. -/
theorem loader_refuses :
    (CodeFile false [] zeroHeap.heap emptyCodeFile ∧ Allocated none zeroHeap emptyCodeFile ∧
        (create 0 none zeroHeap emptyCodeFile).result = .qfalse) ∧
      (CodeFile false [⟨.opPop, 0, pop_admitted⟩] zeroHeap.heap largeBssFile ∧
        (create 0 none zeroHeap largeBssFile).result = .diverges) := by
  have empty : CodeFile false [] zeroHeap.heap emptyCodeFile :=
    { instructionCount := by decide, dataLength := by decide, litLength := by decide
      bssLength := by decide, block := by decide, magic := by decide, count := by decide
      length := by decide, behindHeader := by decide, codeSection := by decide }
  have large : CodeFile false [⟨.opPop, 0, pop_admitted⟩] zeroHeap.heap largeBssFile :=
    { instructionCount := by decide, dataLength := by decide, litLength := by decide
      bssLength := by decide, block := by decide, magic := by decide, count := by decide
      length := by decide, behindHeader := by decide, codeSection := by decide }
  have accepted : (fileHeader (fileImage zeroHeap.heap largeBssFile)).Accepted := by decide
  refine ⟨⟨empty, ⟨rfl, rfl, by decide⟩, create_of_refused none rfl (by decide)⟩, large, ?_⟩
  exact (create_of_large none rfl accepted (by decide)).1

end Q3df.Client
