/-
Module: Q3df.Library.Delimited
Layer: Library
Purpose: Texts whose parts are separated by a delimiter, and the functions that walk over them one
  character at a time. A loop that collects characters until the delimiter collects a whole part at
  once; splitting with the current part as an accumulator takes a delimited text apart, except that
  an empty last part leaves no trace: it is `List.splitOn` without an empty last part.
Imports: Mathlib.Data.List.Basic
Trusted boundary: none
Main exports: collect_of_notMem, splitFrom, splitFrom_part, splitFrom_lastPart,
  splitFrom_intercalate, withoutEmptyLast, splitFrom_eq_splitOn
Open obligations: none
-/
import Mathlib.Data.List.Basic

namespace Q3df.Delimited

variable {α β : Type*} {stop : α}

/-- A loop that adds each character other than the delimiter to what it has
collected passes a part without delimiter in one go. -/
theorem collect_of_notMem {loop : List α → List α → β}
    (step : ∀ collected c s, c ≠ stop → loop collected (c :: s) = loop (collected ++ [c]) s)
    {part : List α} (clean : stop ∉ part) (collected s : List α) :
    loop collected (part ++ s) = loop (collected ++ part) s := by
  induction part generalizing collected with
  | nil => rw [List.nil_append, List.append_nil]
  | cons c part inductionHypothesis =>
      rw [List.mem_cons, not_or] at clean
      rw [List.cons_append, step collected c _ (Ne.symm clean.1), inductionHypothesis clean.2,
        List.append_assoc, List.singleton_append]

section Split

variable [DecidableEq α]

/-- Split at every delimiter, with the characters of the current part so far.
What follows the last delimiter is a part only if it is not empty. -/
def splitFrom (stop : α) (item : List α) : List α → List (List α)
  | [] => if item = [] then [] else [item]
  | c :: s => if c = stop then item :: splitFrom stop [] s else splitFrom stop (item ++ [c]) s

variable {part : List α} {parts : List (List α)}

/-- A stretch without the delimiter is collected whole. -/
theorem splitFrom_collect (clean : stop ∉ part) (item s : List α) :
    splitFrom stop item (part ++ s) = splitFrom stop (item ++ part) s := by
  have step (collected : List α) (c : α) (s : List α) (other : c ≠ stop) :
      splitFrom stop collected (c :: s) = splitFrom stop (collected ++ [c]) s := by
    rw [splitFrom, if_neg other]
  exact collect_of_notMem step clean item s

/-- A part that ends in a delimiter is split off. -/
theorem splitFrom_part (clean : stop ∉ part) (s : List α) :
    splitFrom stop [] (part ++ stop :: s) = part :: splitFrom stop [] s := by
  rw [splitFrom_collect clean, splitFrom, if_pos rfl, List.nil_append]

/-- A last part without the delimiter stands alone, and an empty one is left out. -/
theorem splitFrom_lastPart (clean : stop ∉ part) :
    splitFrom stop [] part = if part = [] then [] else [part] := by
  have collected := splitFrom_collect clean [] []
  rw [List.append_nil, List.nil_append] at collected
  rw [collected, splitFrom]

/-- Splitting a delimited text gives its parts back, except for an empty last
one. -/
theorem splitFrom_intercalate (clean : ∀ part ∈ parts, stop ∉ part) (nonempty : parts ≠ []) :
    splitFrom stop [] (List.intercalate [stop] parts) =
      if parts.getLast nonempty = [] then parts.dropLast else parts := by
  induction parts with
  | nil => exact absurd rfl nonempty
  | cons part parts inductionHypothesis =>
      have cleanPart : stop ∉ part := clean part List.mem_cons_self
      cases parts with
      | nil =>
          rw [List.intercalate_singleton, splitFrom_lastPart cleanPart]
          rfl
      | cons next parts =>
          have restClean : ∀ other ∈ next :: parts, stop ∉ other :=
            fun other inRest => clean other (List.mem_cons_of_mem part inRest)
          have split := inductionHypothesis restClean (List.cons_ne_nil next parts)
          rw [List.intercalate_cons_cons, List.append_assoc, List.singleton_append,
            splitFrom_part cleanPart, split, List.getLast_cons (List.cons_ne_nil next parts)]
          split
          case isTrue => rfl
          case isFalse => rfl

/-- The parts without the last one, if it is empty. -/
def withoutEmptyLast (parts : List (List α)) : List (List α) :=
  if parts.getLast? = some [] then parts.dropLast else parts

theorem withoutEmptyLast_cons (more : parts ≠ []) :
    withoutEmptyLast (part :: parts) = part :: withoutEmptyLast parts := by
  rw [withoutEmptyLast, withoutEmptyLast, List.getLast?_cons_of_ne_nil more,
    List.dropLast_cons_of_ne_nil more]
  split
  case isTrue => rfl
  case isFalse => rfl

/-- What has been collected stands before the first part. -/
theorem splitFrom_eq_modifyHead (item s : List α) :
    splitFrom stop item s = withoutEmptyLast ((s.splitOn stop).modifyHead (item ++ ·)) := by
  induction s generalizing item with
  | nil =>
      rw [splitFrom, List.splitOn_nil, List.modifyHead_cons, List.append_nil, withoutEmptyLast,
        List.getLast?_singleton]
      by_cases nothing : item = []
      · rw [nothing]
        rfl
      · rw [if_neg nothing, if_neg (mt Option.some.inj nothing)]
  | cons c s inductionHypothesis =>
      rw [splitFrom, List.splitOn_cons_eq_if_modifyHead]
      by_cases atStop : c = stop
      · have asBefore : (s.splitOn stop).modifyHead (([] : List α) ++ ·) = s.splitOn stop := by
          cases s.splitOn stop <;> rfl
        rw [if_pos atStop, if_pos (beq_iff_eq.mpr atStop), List.modifyHead_cons, List.append_nil,
          withoutEmptyLast_cons (List.splitOn_ne_nil stop s), inductionHypothesis, asBefore]
      · have joined : (item ++ ·) ∘ List.cons c = (item ++ [c] ++ ·) := by
          funext part
          exact List.append_cons item c part
        rw [if_neg atStop, if_neg (mt beq_iff_eq.mp atStop), List.modifyHead_modifyHead, joined,
          inductionHypothesis]

/-- The loop is the library's split, up to an empty last part. -/
theorem splitFrom_eq_splitOn (s : List α) : splitFrom stop [] s = withoutEmptyLast (s.splitOn stop) := by
  rw [splitFrom_eq_modifyHead]
  cases s.splitOn stop <;> rfl

end Split

end Q3df.Delimited
