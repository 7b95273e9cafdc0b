/-
Module: Q3df.Library.Buffer
Layer: Library
Purpose: Arrays of a fixed size with signed indices. Reading and writing are partial: an index
  outside the array gives nothing. The two loops that move a stretch of cells by one place,
  downwards and upwards, are described on the parts they split the array into: what is before the
  stretch, the stretch, the cell that is overwritten, and the rest. Forgetting a part of every cell
  commutes with all of them.
Imports: Mathlib.Algebra.Group.Int.Defs, Mathlib.Data.List.Induction
Trusted boundary: none
Main exports: fetch, store, shiftDown, shiftUp, fetch_middle, store_middle, shiftDown_middle,
  shiftUp_middle, shiftUp_push, length_store, fetch_map, store_map, shiftUp_map
Open obligations: none
-/
import Mathlib.Algebra.Group.Int.Defs
import Mathlib.Data.List.Induction

namespace Q3df.Buffer

variable {α : Type*}

/-- Read a cell. -/
def fetch (cells : List α) (i : Int) : Option α := if 0 ≤ i then cells[i.toNat]? else none

/-- Write a cell. -/
def store (cells : List α) (i : Int) (value : α) : Option (List α) :=
  if 0 ≤ i ∧ i.toNat < cells.length then some (cells.set i.toNat value) else none

/-- `cells[z] = cells[z + 1]` for this many rounds, with `z` going up. -/
def shiftDown : Nat → Int → List α → Option (List α)
  | 0, _, cells => some cells
  | rounds + 1, z, cells => do
      let value ← fetch cells (z + 1)
      let cells ← store cells z value
      shiftDown rounds (z + 1) cells

/-- `cells[z + 1] = cells[z]` for this many rounds, with `z` going down. -/
def shiftUp : Nat → Int → List α → Option (List α)
  | 0, _, cells => some cells
  | rounds + 1, z, cells => do
      let value ← fetch cells z
      let cells ← store cells (z + 1) value
      shiftUp rounds (z - 1) cells

variable {cells front part rest : List α} {i : Int} {x y : α}

/-- A cell with a known number of cells before it. -/
theorem fetch_middle (at_ : i = front.length) : fetch (front ++ x :: rest) i = some x := by
  subst at_
  rw [fetch, if_pos (Int.natCast_nonneg _), Int.toNat_natCast, List.getElem?_append_right (Nat.le_refl _),
    Nat.sub_self, List.getElem?_cons_zero]

/-- Storing replaces the cell and keeps what stands before and behind it. -/
theorem store_middle (at_ : i = front.length) :
    store (front ++ x :: rest) i y = some (front ++ y :: rest) := by
  subst at_
  have inside : 0 ≤ (front.length : Int) ∧ (front.length : Int).toNat < (front ++ x :: rest).length := by
    rw [List.length_append, List.length_cons]
    omega
  rw [store, if_pos inside, Int.toNat_natCast, List.set_append_right _ _ (Nat.le_refl _), Nat.sub_self,
    List.set_cons_zero]

theorem length_store {stored : List α} (written : store cells i y = some stored) :
    stored.length = cells.length := by
  rw [store] at written
  split at written
  · rw [← Option.some.inj written, List.length_set]
  · cases written

/-- A stretch moves down over the cell before it. Some value is left behind it. -/
theorem shiftDown_middle (at_ : i = front.length) :
    ∃ left, shiftDown part.length i (front ++ x :: (part ++ rest)) =
      some (front ++ (part ++ left :: rest)) := by
  induction part generalizing front i x with
  | nil => exact ⟨x, rfl⟩
  | cons y part inductionHypothesis =>
      -- the first round copies `y` down, and the rest moves over the copy that stays
      have atNext : i + 1 = (front ++ [x]).length := by
        rw [List.length_append, List.length_singleton]
        omega
      have read : fetch (front ++ x :: (y :: part ++ rest)) (i + 1) = some y := by
        have found : fetch (front ++ [x] ++ y :: (part ++ rest)) (i + 1) = some y := fetch_middle atNext
        rwa [List.append_assoc, List.singleton_append] at found
      have atCopy : i + 1 = (front ++ [y]).length := by
        rw [List.length_append, List.length_singleton]
        omega
      obtain ⟨left, moved⟩ := @inductionHypothesis (front ++ [y]) (i + 1) y atCopy
      refine ⟨left, ?_⟩
      rw [List.length_cons, shiftDown, read, Option.bind_eq_bind, Option.bind_some, store_middle at_,
        Option.bind_eq_bind, Option.bind_some]
      simpa only [List.append_assoc, List.singleton_append, List.cons_append, List.nil_append] using moved

/-- A stretch moves up over the cell behind it. Some value is left before it. -/
theorem shiftUp_middle (at_ : i + 1 = (front ++ part).length) :
    ∃ left, shiftUp part.length i (front ++ (part ++ y :: rest)) =
      some (front ++ left :: (part ++ rest)) := by
  induction part using List.reverseRecOn generalizing i y rest with
  | nil => exact ⟨y, rfl⟩
  | append_singleton part x inductionHypothesis =>
      -- the first round copies the last cell `x` up, and the others move over the copy that stays
      have atLast : i = (front ++ part).length := by
        simp only [List.length_append, List.length_singleton] at at_ ⊢
        omega
      have read : fetch (front ++ (part ++ [x] ++ y :: rest)) i = some x := by
        have found : fetch (front ++ part ++ x :: (y :: rest)) i = some x := fetch_middle atLast
        simpa only [List.append_assoc, List.singleton_append] using found
      have written : store (front ++ (part ++ [x] ++ y :: rest)) (i + 1) x =
          some (front ++ (part ++ x :: (x :: rest))) := by
        have stored : store (front ++ (part ++ [x]) ++ y :: rest) (i + 1) x =
            some (front ++ (part ++ [x]) ++ x :: rest) := store_middle at_
        simpa only [List.append_assoc, List.singleton_append] using stored
      have atNext : i - 1 + 1 = (front ++ part).length := by omega
      obtain ⟨left, moved⟩ := @inductionHypothesis (x :: rest) (i - 1) x atNext
      refine ⟨left, ?_⟩
      rw [List.length_append, List.length_singleton, shiftUp, read, Option.bind_eq_bind, Option.bind_some,
        written, Option.bind_eq_bind, Option.bind_some, moved]
      simp only [List.append_assoc, List.singleton_append]

/-- A whole array moves up to make room for a new first cell, and loses its last
one. -/
theorem shiftUp_push : (shiftUp front.length (front.length - 1) (front ++ [x])).bind (store · 0 y) =
    some (y :: front) := by
  have atLast : ((front.length : Int) - 1) + 1 = ([] ++ front).length := by
    rw [List.nil_append]
    omega
  obtain ⟨left, moved⟩ := @shiftUp_middle _ [] front [] (front.length - 1) x atLast
  rw [List.append_nil, List.nil_append, List.nil_append] at moved
  rw [moved, Option.bind_some]
  exact @store_middle _ [] front 0 left y rfl

/-!
### Forgetting a part of the cells

The operations do not look into the cells, so they commute with any function on
them. A ring of records can be compared with a ring of texts.
-/

section Map

variable {β : Type*} (f : α → β)

theorem fetch_map : fetch (cells.map f) i = (fetch cells i).map f := by
  rw [fetch, fetch]
  split
  · exact List.getElem?_map
  · rfl

theorem store_map : store (cells.map f) i (f x) = (store cells i x).map (List.map f) := by
  rw [store, store, List.length_map]
  split
  · rw [Option.map_some, List.map_set]
  · rfl

/-- Shifting up commutes with a function on the cells. -/
theorem shiftUp_map (rounds : Nat) (i : Int) (cells : List α) :
    shiftUp rounds i (cells.map f) = (shiftUp rounds i cells).map (List.map f) := by
  induction rounds generalizing i cells with
  | zero => rfl
  | succ rounds inductionHypothesis =>
      rw [shiftUp, shiftUp, fetch_map]
      cases fetch cells i with
      | none => rfl
      | some value =>
          rw [Option.map_some, Option.bind_eq_bind, Option.bind_some, Option.bind_eq_bind,
            Option.bind_eq_bind,
            Option.bind_some, store_map]
          cases store cells (i + 1) value with
          | none => rfl
          | some cells => exact inductionHypothesis (i - 1) cells

end Map

end Q3df.Buffer
