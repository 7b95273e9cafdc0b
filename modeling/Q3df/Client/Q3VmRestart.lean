/-
Module: Q3df.Client.Q3VmRestart
Layer: Client
Purpose: Whether a load ends, and what a restart loads. The mask loop of `Create` ends exactly when
  the sum it compares with is below 2^30. `Restart` takes the path from `vm_.name`, which nothing
  ever sets, so it asks the engine for the file with the empty name.
Imports: Q3df.Client.DataMask
Trusted boundary: human-reviewed transcription of client/Q3Vm.cc, lines 41-49 and 454-484. The
  engine answers -1 for a file it does not find, and no process has a block of 2^32 - 1 bytes.
Main exports: MaskLoopEnds, IsLeastMask, LoadingTerminates, loading_terminates_iff, EngineFiles,
  Q3Vm, Q3Vm.new, Q3Vm.restart, SameLoad, RestartsLikeNew, restart_never_like_new
Open obligations: none
-/
import Q3df.Client.DataMask

namespace Q3df.Client

open Q3df.Transition

/-!
### Whether a load ends

Only the mask loop can fail to end. Its condition is compared with that of the
words it visits.
-/

section MaskLoop

variable {bound mask : Word}

/-- The mask loop is left after finitely many rounds, with this mask. -/
def MaskLoopEnds (bound mask : Word) : Prop := ∃ rounds, DoublingMask.search bound rounds 1 = some mask

/-- The mask is `2^k - 1` for the least `k` with `2^k` above the bound. -/
def IsLeastMask (bound mask : Word) : Prop :=
  ∃ k : Nat, mask.toNat = 2 ^ k - 1 ∧ bound.toInt < 2 ^ k ∧ ∀ j : Nat, bound.toInt < 2 ^ j → k ≤ j

/-- Below 2^30 the loop ends at the mask. -/
theorem maskLoopEnds_of_small (small : bound.toInt < 2 ^ 30) :
    MaskLoopEnds bound (BitVec.twoPow 32 (DoublingMask.exponent bound) - 1) :=
  ⟨32, dataSegmentMask?_of_small small⟩

/-- The mask is the least number of the form 2^k - 1 that covers the bound. -/
theorem isLeastMask_of_small (small : bound.toInt < 2 ^ 30) :
    IsLeastMask bound (BitVec.twoPow 32 (DoublingMask.exponent bound) - 1) := by
  have le : DoublingMask.exponent bound ≤ 30 := DoublingMask.exponent_le_iff.mpr small
  refine ⟨DoublingMask.exponent bound, DoublingMask.toNat_mask (by omega), ?_, ?_⟩
  · exact DoublingMask.exponent_le_iff.mp (Nat.le_refl _)
  · intro j above
    exact DoublingMask.exponent_le_iff.mpr above

/-- No number of rounds leaves the loop once the bound has reached the largest
positive power of two. -/
theorem not_maskLoopEnds_of_large (large : 2 ^ 30 ≤ bound.toInt) : ¬ MaskLoopEnds bound mask := by
  rintro ⟨rounds, found⟩
  rw [DoublingMask.search_eq_none large rounds] at found
  cases found

end MaskLoop

/-- `Create` comes to its end, and its mask loop, if it comes so far, ends with
the least mask. -/
def LoadingTerminates (stacksize : Word) (oldmem : Option Word) (env : LoadEnv) (file : List Byte) : Prop :=
  (create stacksize oldmem env file).result ≠ .diverges ∧
    ∃ mask, MaskLoopEnds ((fileHeader (fileImage env.heap file)).dataSegmentLen + stacksize) mask ∧
      IsLeastMask ((fileHeader (fileImage env.heap file)).dataSegmentLen + stacksize) mask ∧
      ∀ vm mem, (create stacksize oldmem env file).result = .qtrue vm mem → vm.dataSegmentMask = mask

/-- If the mask loop ends, so does the call. -/
theorem create_ne_diverges {stacksize : Word} {oldmem : Option Word} {env : LoadEnv} {file : List Byte}
    {mask : Word}
    (found : dataSegmentMask? ((fileHeader (fileImage env.heap file)).dataSegmentLen + stacksize) =
      some mask) :
    (create stacksize oldmem env file).result ≠ .diverges := by
  intro diverges
  simp only [create, found] at diverges
  split at diverges
  · split at diverges
    · split at diverges <;> cases diverges
    · cases diverges
  · cases diverges

/-- A load terminates exactly when the wrapped sum of the segment lengths and
the stack is below 2^30. -/
theorem loading_terminates_iff (stacksize : Word) (oldmem : Option Word) (env : LoadEnv)
    (file : List Byte) :
    LoadingTerminates stacksize oldmem env file ↔
      ((fileHeader (fileImage env.heap file)).dataSegmentLen + stacksize).toInt < 2 ^ 30 := by
  constructor
  · rintro ⟨-, mask, ends, -⟩
    by_contra large
    exact not_maskLoopEnds_of_large (Int.not_lt.mp large) ends
  · intro small
    have found := dataSegmentMask?_of_small small
    refine ⟨create_ne_diverges found, _, maskLoopEnds_of_small small, isLeastMask_of_small small, ?_⟩
    intro vm mem created
    obtain ⟨-, mask, memory, foundAgain, -, rfl, -⟩ := create_eq_qtrue created
    exact Option.some.inj (foundAgain.symm.trans found)

/-- One instruction, and 2^30 bytes of bss. -/
def hugeBssFile : List Byte :=
  [0x44, 0x14, 0x72, 0x12, 1, 0, 0, 0, 32, 0, 0, 0, 1, 0, 0, 0,
    33, 0, 0, 0, 0, 0, 0, 0, 0, 0, 0, 0, 0, 0, 0, 0x40, 29]

/-- A header that passes all checks and asks for 2^30 bytes of bss keeps the
loader in its loop for ever. -/
theorem hugeBssFile_diverges :
    (fileHeader (fileImage zeroHeap.heap hugeBssFile)).Accepted ∧
      (create 0 none zeroHeap hugeBssFile).result = .diverges ∧
      ¬ LoadingTerminates 0 none zeroHeap hugeBssFile := by
  have diverges : (create 0 none zeroHeap hugeBssFile).result = .diverges := rfl
  refine ⟨by decide, diverges, ?_⟩
  rintro ⟨ends, -⟩
  exact ends diverges

/-!
### What a restart loads

`Restart` opens the file that `vm_.name` names, and no statement of the program
writes this field.
-/

/-- The file the engine opens under a path, if there is one. -/
abbrev EngineFiles := String → Option (List Byte)

/-- `Create` for a path. A file that is not found has the length -1, and there
is no buffer for it. -/
def createFrom (files : EngineFiles) (path : String) (oldmem : Option Word) (env : LoadEnv) :
    CreateResult :=
  match files path with
  | some file => (create 0 oldmem env file).result
  | none => (create 0 oldmem { env with fileBuffer := false } []).result

/-- `Q3Vm`, with the memory of its process. -/
structure Q3Vm where
  vm : Vm
  mem : ByteMemory.Memory
  initialized : Bool

namespace Q3Vm

/-- The constructor; `none` where it leaves its members as they are, or does not
return. -/
def new (files : EngineFiles) (path : String) (env : LoadEnv) : Option Q3Vm :=
  if path = "" then none
  else
    match createFrom files path none env with
    | .qtrue vm mem => some { vm := vm, mem := mem, initialized := true }
    | .qfalse => some { vm := .zero, mem := env.mem, initialized := false }
    | .diverges => none

/-- `Restart`, with what it returns; `none` where it does not return. The old
block is kept or freed, and `vm_` is cleared before the load. -/
def restart (files : EngineFiles) (env : LoadEnv) (s : Q3Vm) (savemem : Bool) : Option (Bool × Q3Vm) :=
  let name := s.vm.name
  let oldmem := if savemem && s.vm.memory != 0 then some s.vm.memory else none
  match createFrom files name oldmem { env with mem := s.mem } with
  | .qtrue vm mem => some (true, { vm := vm, mem := mem, initialized := true })
  | .qfalse => some (false, { vm := .zero, mem := s.mem, initialized := false })
  | .diverges => none

/-- The object before the first `Exec`. -/
def process (s : Q3Vm) : VmProcess :=
  { vm := s.vm, mem := s.mem, messages := [], activations := [], results := [] }

/-- The object after some `Exec`s. -/
def after (p : VmProcess) : Q3Vm := { vm := p.vm, mem := p.mem, initialized := true }

end Q3Vm

/-- Both objects hold the same code and data, with the same mask and sizes, and
their registers point to the same places of their blocks. -/
structure SameLoad (s fresh : Q3Vm) : Prop where
  code : ∀ k : Nat, k < 8 * fresh.vm.codeSegmentLen.toNat →
    s.mem (s.vm.codeSegment + BitVec.ofNat 32 k) = fresh.mem (fresh.vm.codeSegment + BitVec.ofNat 32 k)
  data : ∀ k : Nat, k < fresh.vm.dataSegmentLen.toNat →
    s.mem (s.vm.dataSegment + BitVec.ofNat 32 k) = fresh.mem (fresh.vm.dataSegment + BitVec.ofNat 32 k)
  mask : s.vm.dataSegmentMask = fresh.vm.dataSegmentMask
  sizes : s.vm.codeSegmentLen = fresh.vm.codeSegmentLen ∧ s.vm.dataSegmentLen = fresh.vm.dataSegmentLen ∧
    s.vm.memorySize = fresh.vm.memorySize ∧ s.vm.fileSize = fresh.vm.fileSize
  registers : s.vm.opPointer = fresh.vm.opPointer ∧ s.vm.opBase = fresh.vm.opBase ∧
    s.vm.opStack - s.vm.memory = fresh.vm.opStack - fresh.vm.memory

/-- `Restart` returns `qtrue` and leaves what a new object for the path has. -/
def RestartsLikeNew (files : EngineFiles) (path : String) (env : LoadEnv) (s : Q3Vm) (savemem : Bool) :
    Prop :=
  ∃ restarted, s.restart files env savemem = some (true, restarted) ∧
    ∀ freshEnv fresh, Q3Vm.new files path freshEnv = some fresh → fresh.initialized = true →
      SameLoad restarted fresh

section Restart

variable {files : EngineFiles} {path : String} {env : LoadEnv} {fpu : FloatUnit} {s : Q3Vm}
  {actions : List VmAction} {q : VmProcess}

/-- What an initialised object has been loaded from. -/
theorem loaded_of_new (made : Q3Vm.new files path env = some s) (initialized : s.initialized = true) :
    ∃ file, files path = some file ∧ (create 0 none env file).result = .qtrue s.vm s.mem := by
  unfold Q3Vm.new at made
  split at made
  · cases made
  · unfold createFrom at made
    cases found : files path with
    | none =>
        rw [found] at made
        cases made
        cases initialized
    | some file =>
        rw [found] at made
        refine ⟨file, rfl, ?_⟩
        dsimp only at made
        split at made
        case h_1 vm mem created =>
          cases made
          exact created
        case h_2 =>
          cases made
          cases initialized
        case h_3 => cases made

/-- Nothing gives the VM a name. -/
theorem name_of_new (made : Q3Vm.new files path env = some s) (initialized : s.initialized = true) :
    s.vm.name = "" := by
  obtain ⟨file, -, created⟩ := loaded_of_new made initialized
  obtain ⟨-, mask, memory, -, -, same, -⟩ := create_eq_qtrue created
  rw [same]
  rfl

/-- No step of a run gives the VM a name. -/
theorem name_of_run (made : Q3Vm.new files path env = some s) (initialized : s.initialized = true)
    (ran : run (VmProcess.step fpu) s.process actions = some q) : q.vm.name = "" := by
  have same : q.vm.segments = s.vm.segments := run_segments ran
  have names : q.vm.segments.name = s.vm.segments.name := congrArg Vm.name same
  exact names.trans (name_of_new made initialized)

/-- Without a file of that name the restart fails, and the VM is gone. -/
theorem restart_of_noName {savemem : Bool} (noName : s.vm.name = "") (noFile : files "" = none) :
    s.restart files env savemem = some (false, { vm := .zero, mem := s.mem, initialized := false }) := by
  have refused (oldmem : Option Word) : createFrom files s.vm.name oldmem { env with mem := s.mem } =
      .qfalse := by
    rw [createFrom, noName, noFile]
    rfl
  rw [Q3Vm.restart, refused]

end Restart

/-- No restart of a VM in any state it reaches is a fresh load: the engine opens
no file under the empty name. -/
theorem restart_never_like_new {files : EngineFiles} {path : String} {loadEnv env : LoadEnv}
    {fpu : FloatUnit} {s : Q3Vm} {actions : List VmAction} {q : VmProcess} {savemem : Bool}
    (noFile : files "" = none) (made : Q3Vm.new files path loadEnv = some s)
    (initialized : s.initialized = true)
    (ran : run (VmProcess.step fpu) s.process actions = some q) :
    ¬ RestartsLikeNew files path env (.after q) savemem := by
  rintro ⟨restarted, returned, -⟩
  have noName := name_of_run made initialized ran
  have failed := @restart_of_noName files env (.after q) savemem noName noFile
  rw [failed] at returned
  cases returned

/-- An engine with one file. -/
def oneFile : EngineFiles := fun path => if path = "vm/qagame.qvm" then some bssFile else none

theorem oneFile_new : ∃ s, Q3Vm.new oneFile "vm/qagame.qvm" zeroHeap = some s ∧ s.initialized = true ∧
    s.vm = bssVm := by
  obtain ⟨mem, created⟩ := bssVm_created
  refine ⟨{ vm := bssVm, mem := mem, initialized := true }, ?_, rfl, rfl⟩
  have found : oneFile "vm/qagame.qvm" = some bssFile := if_pos rfl
  rw [Q3Vm.new, if_neg (by decide), createFrom, found]
  simp only [created]

/-- The restart comes after an `Exec` has begun. -/
theorem oneFile_restart_never_like_new : ∃ s q, Q3Vm.new oneFile "vm/qagame.qvm" zeroHeap = some s ∧
    run (VmProcess.step noFloats) s.process [.exec 0 (Vector.replicate 12 0)] = some q ∧
    q.vm.opBase = s.vm.opBase - 15 * 4 ∧
    ¬ RestartsLikeNew oneFile "vm/qagame.qvm" zeroHeap (.after q) true := by
  obtain ⟨s, made, initialized, -⟩ := oneFile_new
  let q := s.process.exec 0 (Vector.replicate 12 0)
  have ran : run (VmProcess.step noFloats) s.process [.exec 0 (Vector.replicate 12 0)] = some q := rfl
  exact ⟨s, q, made, ran, rfl, @restart_never_like_new oneFile "vm/qagame.qvm" zeroHeap zeroHeap noFloats s
    [.exec 0 (Vector.replicate 12 0)] q true (if_neg (by decide)) made initialized ran⟩

/-- A restart before the first `Exec` returns `qfalse` on both memory paths. -/
theorem oneFile_restart_fails : ∃ s, Q3Vm.new oneFile "vm/qagame.qvm" zeroHeap = some s ∧
    s.initialized = true ∧ ∀ savemem,
      (s.restart oneFile zeroHeap savemem).map Prod.fst = some false ∧
        ¬ RestartsLikeNew oneFile "vm/qagame.qvm" zeroHeap s savemem := by
  obtain ⟨s, made, initialized, -⟩ := oneFile_new
  refine ⟨s, made, initialized, ?_⟩
  intro savemem
  have failed := @restart_of_noName oneFile zeroHeap s savemem (name_of_new made initialized)
    (if_neg (by decide))
  rw [failed]
  refine ⟨rfl, ?_⟩
  rintro ⟨restarted, returned, -⟩
  rw [failed] at returned
  cases returned

end Q3df.Client
