/-
Module: Q3df.Server.MysqlPool
Layer: Server
Purpose: The pool of database connections: an idle list and a semaphore, with `Get` and `Return`
  taken as atomic. Runs of any number of users are watched together with who holds what. The list
  never contains a connection twice and the semaphore counts it, in every run. But the guard of
  `Return` looks at the idle list only: a second `Return` puts a connection back that somebody else
  has obtained in between.
Imports: Mathlib.Data.List.Nodup, Mathlib.Data.List.Perm.Subperm, Q3df.Library.Transition
Trusted boundary: human-reviewed transcription of server/MysqlPool.{h,cc}; sem_init, sem_wait and
  sem_post as POSIX has them; the driver returns a new object for each connect
Main exports: MysqlPool, PoolRun, PoolRun.step, Consistent, Exclusive, pool_has_one_holder
Open obligations: none
-/
import Mathlib.Data.List.Nodup
import Mathlib.Data.List.Perm.Subperm
import Q3df.Library.Transition

namespace Q3df.Server

open Q3df.Transition

/-- `SEM_VALUE_MAX`. -/
def semValueMax : Nat := 2147483647

/-- `sem_init`: `none` where it fails, which leaves the semaphore as it was in
memory. -/
def semInit (value : BitVec 32) : Option Nat :=
  if value.toNat ≤ semValueMax then some value.toNat else none

/-- `sem_post`. -/
def semPost (value : Nat) : Nat := if value < semValueMax then value + 1 else value

/-- `MysqlPool`; `mutex` is the value of the semaphore, `none` if it was never
initialised. -/
structure MysqlPool (C : Type*) where
  objList : List C
  mutex : Option Nat
  size : BitVec 32

namespace MysqlPool

variable {C : Type*}

/-- The constructor; `callbackInitObject i` is what the callback returns the
`i`-th time. -/
def new (size : BitVec 32) (callbackInitObject : Nat → C) : MysqlPool C where
  objList := (List.range size.toInt.toNat).map callbackInitObject
  mutex := semInit size
  size := size

/-- `IsObjInList`. -/
def isObjInList [DecidableEq C] (pool : MysqlPool C) (obj : C) : Bool :=
  pool.objList.any fun listed => obj = listed

/-- `Get`: `none` where the call waits for the semaphore, or is undefined. -/
def get (pool : MysqlPool C) : Option (C × MysqlPool C) :=
  match pool.mutex, pool.objList.getLast? with
  | some (value + 1), some ret =>
      some (ret, { pool with objList := pool.objList.dropLast, mutex := some value })
  | _, _ => none

/-- `Return`. -/
def return_ [DecidableEq C] (pool : MysqlPool C) (obj : C) : MysqlPool C :=
  if !pool.isObjInList obj then
    { pool with objList := pool.objList ++ [obj], mutex := pool.mutex.map semPost }
  else pool

end MysqlPool

/-- The calls of the pool's users. -/
inductive PoolAction (U C : Type*) where
  | get (user : U)
  | return_ (user : U) (obj : C)
deriving DecidableEq

/-- The pool, who has ever obtained what, and who holds it: has not returned it
since. -/
structure PoolRun (U C : Type*) where
  pool : MysqlPool C
  obtained : List (U × C)
  held : List (U × C)

namespace PoolRun

variable {U C : Type*} [DecidableEq U] [DecidableEq C]

/-- The pool is constructed. -/
def initial (U : Type*) (size : BitVec 32) (callbackInitObject : Nat → C) : PoolRun U C :=
  { pool := .new size callbackInitObject, obtained := [], held := [] }

/-- One call. A user returns what it once obtained, and may do so again. -/
def step (s : PoolRun U C) : PoolAction U C → Option (PoolRun U C)
  | .get user =>
      s.pool.get.map fun got =>
        { pool := got.2, obtained := (user, got.1) :: s.obtained, held := (user, got.1) :: s.held }
  | .return_ user obj =>
      if (user, obj) ∈ s.obtained then
        some { s with
          pool := s.pool.return_ obj
          held := s.held.filter fun holder => holder ≠ (user, obj) }
      else none

/-- What `Get` hands to the user is held by no other. -/
def HandsOutFree (s : PoolRun U C) : PoolAction U C → Prop
  | .get user => ∀ holder ∈ s.held, s.pool.get.map Prod.fst = some holder.2 → holder.1 = user
  | .return_ _ _ => True

/-- What is returned is held by no other user. -/
def ReturnsUnshared (s : PoolRun U C) : PoolAction U C → Prop
  | .get _ => True
  | .return_ user obj => ∀ holder ∈ s.held, holder.2 = obj → holder.1 = user

instance decidableHandsOutFree (s : PoolRun U C) : ∀ action, Decidable (s.HandsOutFree action)
  | .get user => inferInstanceAs
      (Decidable (∀ holder ∈ s.held, s.pool.get.map Prod.fst = some holder.2 → holder.1 = user))
  | .return_ _ _ => isTrue trivial

instance decidableReturnsUnshared (s : PoolRun U C) :
    ∀ action, Decidable (s.ReturnsUnshared action)
  | .get _ => isTrue trivial
  | .return_ user obj => inferInstanceAs
      (Decidable (∀ holder ∈ s.held, holder.2 = obj → holder.1 = user))

/-- The list has no connection twice, and the semaphore counts it within the
size of the pool. -/
def Sound (s : PoolRun U C) : Prop :=
  s.pool.objList.Nodup ∧ s.pool.mutex = some s.pool.objList.length ∧
    (s.pool.objList.length : Int) ≤ s.pool.size.toInt

end PoolRun

/-!
### One call

`Get` waits for a connection and takes the last one. `Return` puts one back,
unless it is in the list.
-/

section Calls

variable {C : Type*} {pool : MysqlPool C} {obj : C}

/-- A `Get` that returns took the last connection of the list and one unit of
the semaphore. -/
theorem get_eq_some {got : C × MysqlPool C} (took : pool.get = some got) :
    ∃ value, pool.mutex = some (value + 1) ∧ pool.objList = got.2.objList ++ [got.1] ∧
      got.2.mutex = some value ∧ got.2.size = pool.size := by
  unfold MysqlPool.get at took
  split at took
  case h_1 value ret counted last =>
    cases took
    refine ⟨value, counted, ?_, rfl, rfl⟩
    exact (List.dropLast_append_getLast? ret last).symm
  case h_2 => cases took

/-- A semaphore that counts less than an `int` can be posted. -/
theorem lt_semValueMax {value : Nat} {size : BitVec 32} (below : (value + 1 : Int) ≤ size.toInt) :
    value < semValueMax := by
  have limit := @BitVec.toInt_lt 32 size
  unfold semValueMax
  omega

theorem nodup_pushBack {objList : List C} (unlisted : obj ∉ objList) (nodup : objList.Nodup) :
    (objList ++ [obj]).Nodup :=
  List.nodup_append_comm.mp (List.nodup_cons.mpr ⟨unlisted, nodup⟩)

variable [DecidableEq C]

theorem isObjInList_iff : pool.isObjInList obj = true ↔ obj ∈ pool.objList := by
  simp [MysqlPool.isObjInList]

/-- Returning a connection that is in the list does nothing. -/
theorem return_of_mem (listed : obj ∈ pool.objList) : pool.return_ obj = pool := by
  rw [MysqlPool.return_, isObjInList_iff.mpr listed]
  rfl

/-- Returning any other appends it and posts the semaphore. -/
theorem return_of_notMem (unlisted : obj ∉ pool.objList) :
    pool.return_ obj =
      { pool with objList := pool.objList ++ [obj], mutex := pool.mutex.map semPost } := by
  have notFound : pool.isObjInList obj = false := by
    rw [Bool.eq_false_iff]
    intro found
    exact unlisted (isObjInList_iff.mp found)
  rw [MysqlPool.return_, notFound]
  rfl

end Calls

/-!
### What every run keeps

The list and the semaphore agree, and every connection of the list is one that
was created. Whether it is held at the same time is the second invariant, which
needs the condition on the returns.
-/

section Runs

variable {U C : Type*} {created : List C} {s t : PoolRun U C} {action : PoolAction U C}

/-- The list holds connections the pool was created with, none twice, and the
semaphore counts them. -/
structure Consistent (created : List C) (s : PoolRun U C) : Prop where
  nodup : s.pool.objList.Nodup
  listed : s.pool.objList ⊆ created
  obtained : ∀ holder ∈ s.obtained, holder.2 ∈ created
  counted : s.pool.mutex = some s.pool.objList.length
  size : (created.length : Int) = s.pool.size.toInt

/-- The list is never longer than the number of connections created. -/
theorem Consistent.length_le (consistent : Consistent created s) :
    s.pool.objList.length ≤ created.length :=
  (List.subperm_of_subset consistent.nodup consistent.listed).length_le

theorem Consistent.sound (consistent : Consistent created s) : s.Sound := by
  refine ⟨consistent.nodup, consistent.counted, ?_⟩
  rw [← consistent.size]
  exact Int.ofNat_le.mpr consistent.length_le

/-- What is held is not in the list. -/
structure Exclusive (s : PoolRun U C) : Prop where
  nodup : s.pool.objList.Nodup
  lent : ∀ holder ∈ s.held, holder.2 ∉ s.pool.objList

/-- A `Get` takes from the list, so it hands out what nobody holds. -/
theorem Exclusive.handsOutFree (exclusive : Exclusive s) : s.HandsOutFree action := by
  cases action with
  | return_ user obj => trivial
  | get user =>
      intro holder holds handedOut
      obtain ⟨got, took, isHeld⟩ := Option.map_eq_some_iff.mp handedOut
      obtain ⟨value, before, split, after, size⟩ := get_eq_some took
      refine absurd ?_ (exclusive.lent holder holds)
      rw [split, isHeld]
      exact List.mem_append_right _ (List.mem_singleton_self _)

variable [DecidableEq U] [DecidableEq C]

/-- A user returns what it once obtained. -/
theorem step_return_eq_some {user : U} {obj : C} (stepped : s.step (.return_ user obj) = some t) :
    (user, obj) ∈ s.obtained ∧ t = { s with
      pool := s.pool.return_ obj
      held := s.held.filter fun holder => holder ≠ (user, obj) } := by
  obtain ⟨once, same⟩ := Option.ite_none_right_eq_some.mp stepped
  exact ⟨once, (Option.some.inj same).symm⟩

theorem consistent_get {user : U} (consistent : Consistent created s)
    (stepped : s.step (.get user) = some t) : Consistent created t := by
  obtain ⟨got, took, rfl⟩ := Option.map_eq_some_iff.mp stepped
  obtain ⟨value, before, split, after, size⟩ := get_eq_some took
  have nodup := consistent.nodup
  have listed := consistent.listed
  have counted := consistent.counted
  rw [split] at nodup listed counted
  refine ⟨?_, ?_, ?_, ?_, ?_⟩
  · exact (List.nodup_append.mp nodup).1
  · intro obj idle
    apply listed
    exact List.mem_append_left _ idle
  · intro holder owns
    rcases List.mem_cons.mp owns with rfl | earlier
    · apply listed
      exact List.mem_append_right _ (List.mem_singleton_self _)
    · exact consistent.obtained holder earlier
  · rw [before, List.length_append, List.length_singleton, Option.some.injEq] at counted
    dsimp only
    rw [after, Nat.succ.inj counted]
  · dsimp only
    rw [size]
    exact consistent.size

theorem consistent_return {user : U} {obj : C} (consistent : Consistent created s)
    (stepped : s.step (.return_ user obj) = some t) : Consistent created t := by
  obtain ⟨once, rfl⟩ := step_return_eq_some stepped
  by_cases idle : obj ∈ s.pool.objList
  · simp only [return_of_mem idle]
    exact ⟨consistent.nodup, consistent.listed, consistent.obtained, consistent.counted,
      consistent.size⟩
  · have listed : s.pool.objList ++ [obj] ⊆ created := by
      intro other member
      rcases List.mem_append.mp member with earlier | last
      · exact consistent.listed earlier
      · rw [List.mem_singleton.mp last]
        exact consistent.obtained _ once
    have nodup : (s.pool.objList ++ [obj]).Nodup := nodup_pushBack idle consistent.nodup
    have room : s.pool.objList.length < semValueMax := by
      have bound := (List.subperm_of_subset nodup listed).length_le
      rw [List.length_append, List.length_singleton] at bound
      apply lt_semValueMax
      rw [← consistent.size]
      exact Int.ofNat_le.mpr bound
    simp only [return_of_notMem idle]
    refine ⟨nodup, listed, consistent.obtained, ?_, consistent.size⟩
    simp [consistent.counted, semPost, room]

/-- Every step keeps list and semaphore in agreement. -/
theorem consistent_step (consistent : Consistent created s) (stepped : s.step action = some t) :
    Consistent created t := by
  cases action with
  | get user => exact consistent_get consistent stepped
  | return_ user obj => exact consistent_return consistent stepped

/-- A step that returns no connection held by another keeps the holders apart. -/
theorem exclusive_step (exclusive : Exclusive s) (unshared : s.ReturnsUnshared action)
    (stepped : s.step action = some t) : Exclusive t := by
  cases action with
  | get user =>
      obtain ⟨got, took, rfl⟩ := Option.map_eq_some_iff.mp stepped
      obtain ⟨value, before, split, after, size⟩ := get_eq_some took
      have nodup := exclusive.nodup
      rw [split] at nodup
      obtain ⟨rest, -, apart⟩ := List.nodup_append.mp nodup
      refine ⟨rest, ?_⟩
      intro holder holds
      rcases List.mem_cons.mp holds with rfl | earlier
      · intro idle
        exact apart _ idle _ (List.mem_singleton_self _) rfl
      · intro idle
        apply exclusive.lent holder earlier
        rw [split]
        exact List.mem_append_left _ idle
  | return_ user obj =>
      obtain ⟨-, rfl⟩ := step_return_eq_some stepped
      have stillHolds {holder : U × C}
          (holds : holder ∈ s.held.filter fun holder => holder ≠ (user, obj)) :
          holder ∈ s.held ∧ holder ≠ (user, obj) := by
        simpa using holds
      by_cases idle : obj ∈ s.pool.objList
      · simp only [return_of_mem idle]
        refine ⟨exclusive.nodup, ?_⟩
        intro holder holds
        exact exclusive.lent holder (stillHolds holds).1
      · simp only [return_of_notMem idle]
        refine ⟨nodup_pushBack idle exclusive.nodup, ?_⟩
        intro holder holds
        obtain ⟨held, notReturned⟩ := stillHolds holds
        intro member
        rcases List.mem_append.mp member with earlier | last
        · exact exclusive.lent holder held earlier
        · have same : holder.2 = obj := List.mem_singleton.mp last
          apply notReturned
          exact Prod.ext (unshared holder held same) same

/-- One `Return` of what another user holds, and the next `Get` of anybody else
is handed it. -/
theorem handsOut_shared {user : U} {obj : C} (consistent : Consistent created s)
    (exclusive : Exclusive s) (shared : ¬ s.ReturnsUnshared (.return_ user obj))
    (stepped : s.step (.return_ user obj) = some t) :
    ∃ holder ∈ t.held, ∀ next, next ≠ holder.1 → ¬ t.HandsOutFree (.get next) := by
  obtain ⟨holder, holds, same, other⟩ :
      ∃ holder ∈ s.held, holder.2 = obj ∧ holder.1 ≠ user := by
    simpa [PoolRun.ReturnsUnshared] using shared
  have unlisted : obj ∉ s.pool.objList := by
    rw [← same]
    exact exclusive.lent holder holds
  obtain ⟨-, rfl⟩ := step_return_eq_some stepped
  have stillHolds : holder ∈ s.held.filter fun holder => holder ≠ (user, obj) := by
    apply List.mem_filter.mpr
    refine ⟨holds, decide_eq_true ?_⟩
    rintro rfl
    exact other rfl
  refine ⟨holder, stillHolds, ?_⟩
  intro next notHolder free
  obtain ⟨value, posted⟩ : ∃ value, semPost s.pool.objList.length = value + 1 := by
    unfold semPost semValueMax
    split
    · exact ⟨_, rfl⟩
    · exact ⟨s.pool.objList.length - 1, by omega⟩
  have handedOut : (s.pool.return_ obj).get.map Prod.fst = some holder.2 := by
    simp [return_of_notMem unlisted, MysqlPool.get, consistent.counted, posted, same]
  exact notHolder (free holder stillHolds handedOut).symm

end Runs

/-!
### The pool from its construction on

The constructor fills the pool with as many connections as its size says.
-/

section Constructed

variable {U C : Type*} {size : BitVec 32} {callbackInitObject : Nat → C}

theorem semInit_eq_some_iff {value : Nat} :
    semInit size = some value ↔ 0 ≤ size.toInt ∧ size.toInt = value := by
  have bound := size.isLt
  unfold semInit semValueMax
  rw [BitVec.toInt_eq_toNat_cond]
  split <;> split <;> simp <;> omega

/-- A new pool is in agreement. -/
theorem consistent_initial (distinct : Function.Injective callbackInitObject)
    (nonnegative : 0 ≤ size.toInt) :
    Consistent ((List.range size.toInt.toNat).map callbackInitObject)
      (PoolRun.initial U size callbackInitObject) := by
  have length : ((List.range size.toInt.toNat).map callbackInitObject).length = size.toInt.toNat := by
    simp
  refine ⟨?_, fun _ member => member, ?_, ?_, ?_⟩
  · exact List.nodup_range.map distinct
  · intro holder obtained
    cases obtained
  · apply semInit_eq_some_iff.mpr
    refine ⟨nonnegative, ?_⟩
    show _ = (((List.range size.toInt.toNat).map callbackInitObject).length : Int)
    rw [length, Int.toNat_of_nonneg nonnegative]
  · rw [length, Int.toNat_of_nonneg nonnegative]
    rfl

/-- In a new pool nobody holds anything. -/
theorem exclusive_initial (distinct : Function.Injective callbackInitObject) :
    Exclusive (PoolRun.initial U size callbackInitObject) := by
  refine ⟨List.nodup_range.map distinct, ?_⟩
  intro holder holds
  cases holds

variable [DecidableEq U] [DecidableEq C]

/-- A pooled connection has one holder in every run in which each `Return` is of
a connection that no other user holds; the first one that is not makes the next
`Get` hand out what is held. The list and the semaphore are right in every run,
provided that the size of the pool is not negative. -/
theorem pool_has_one_holder (distinct : Function.Injective callbackInitObject)
    (actions : List (PoolAction U C)) :
    let start : PoolRun U C := .initial U size callbackInitObject
    (0 ≤ size.toInt ↔ ∀ before after s, actions = before ++ after →
        run PoolRun.step start before = some s → s.Sound) ∧
      (StepsMeet PoolRun.step PoolRun.ReturnsUnshared start actions →
        StepsMeet PoolRun.step PoolRun.HandsOutFree start actions) ∧
      (0 ≤ size.toInt → StepsMeet PoolRun.step PoolRun.ReturnsUnshared start actions →
        ∀ s t user obj, run PoolRun.step start actions = some s →
          ¬ s.ReturnsUnshared (.return_ user obj) → s.step (.return_ user obj) = some t →
            ∃ holder ∈ t.held, ∀ next, next ≠ holder.1 → ¬ t.HandsOutFree (.get next)) := by
  intro start
  refine ⟨⟨?_, ?_⟩, ?_, ?_⟩
  · intro nonnegative before after s split ran
    have consistent := run_invariant consistent_step
      (consistent_initial distinct nonnegative) ran
    exact consistent.sound
  · intro sound
    obtain ⟨-, counted, -⟩ := sound [] actions start rfl rfl
    exact (semInit_eq_some_iff.mp counted).1
  · intro meets
    apply stepsMeet_of_invariant _ exclusive_step (exclusive_initial distinct) meets
    intro s action exclusive unshared
    exact exclusive.handsOutFree
  · intro nonnegative meets s t user obj ran shared stepped
    have consistent := run_invariant consistent_step
      (consistent_initial distinct nonnegative) ran
    have exclusive := run_invariant_of_stepsMeet exclusive_step (exclusive_initial distinct) meets ran
    exact handsOut_shared consistent exclusive shared stepped

/-- User 0 returns its connection twice before user 1 asks for one. -/
def returnedTwice : List (PoolAction Nat Nat) :=
  [.get 0, .return_ 0 0, .return_ 0 0, .get 1]

/-- There the guard of `Return` does what it is for. -/
theorem pool_has_one_holder_returnedTwice :
    StepsMeet PoolRun.step PoolRun.HandsOutFree (.initial Nat 1#32 id) returnedTwice ∧
      ∃ s, run PoolRun.step (.initial Nat 1#32 id) returnedTwice = some s ∧ s.Sound := by
  have holds := @pool_has_one_holder Nat Nat 1#32 id _ _ Function.injective_id returnedTwice
  have runs : (run PoolRun.step (.initial Nat 1#32 id) returnedTwice).isSome := by decide
  obtain ⟨s, ran⟩ := Option.isSome_iff_exists.mp runs
  have sound := holds.1.mp (by decide)
  exact ⟨holds.2.1 (by decide), s, ran, sound returnedTwice [] s (List.append_nil _).symm ran⟩

/-- User 0 returns its connection, and once more when user 1 has obtained it;
user 2 asks for one. -/
def staleReturn : List (PoolAction Nat Nat) :=
  [.get 0, .return_ 0 0, .get 1, .return_ 0 0, .get 2]

/-- User 2 is handed the connection that user 1 holds. -/
theorem staleReturn_handsOut_held :
    (run PoolRun.step (.initial Nat 1#32 id) staleReturn).map (fun s => s.held) =
        some [(2, 0), (1, 0)] ∧
      ¬ StepsMeet PoolRun.step PoolRun.HandsOutFree (.initial Nat 1#32 id) staleReturn := by
  constructor
  · decide
  · decide

end Constructed

end Q3df.Server
