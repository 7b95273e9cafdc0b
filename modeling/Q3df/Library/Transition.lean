/-
Module: Q3df.Library.Transition
Layer: Library
Purpose: Finite runs of a transition system whose step function may refuse an action, with the rules
  every safety proof over runs needs: how a run splits, how an invariant is carried along it, how an
  invariant is carried along the runs whose steps all meet a condition on the state before the step,
  and how a part of a system makes a run of its own.
Imports: Mathlib.Data.Option.Basic, Mathlib.Logic.Relation
Trusted boundary: none
Main exports: run, StepsMeet, run_cons_eq_some, run_append_eq_some, run_invariant,
  run_invariant_of_stepsMeet, run_project, stepsMeet_append, stepsMeet_of_invariant,
  stepsMeet_of_preserved, stepsMeet_of_actions, stepsMeet_iff_of_invariant, stepsMeet_iff_reached,
  stepsMeet_iff_runs, reaches_final_of_measure
Open obligations: none
-/
import Mathlib.Data.Option.Basic
import Mathlib.Logic.Relation

namespace Q3df.Transition

variable {σ α : Type*}

/-- Run a list of actions from a state; `none` as soon as the step function
refuses one of them. -/
def run (step : σ → α → Option σ) : σ → List α → Option σ
  | s, [] => some s
  | s, a :: as => (step s a).bind fun s' => run step s' as

/-- Every step of the run from `s` meets `ok`, a condition on the state before
the step and on the action. A run that is refused half way is judged up to the
refusal. -/
def StepsMeet (step : σ → α → Option σ) (ok : σ → α → Prop) : σ → List α → Prop
  | _, [] => True
  | s, a :: as => ok s a ∧ ∀ s', step s a = some s' → StepsMeet step ok s' as

/-- The condition can be evaluated along a concrete run. -/
instance decidableStepsMeet {step : σ → α → Option σ} {ok : σ → α → Prop}
    [∀ s a, Decidable (ok s a)] : ∀ s as, Decidable (StepsMeet step ok s as)
  | _, [] => isTrue trivial
  | s, a :: as =>
      match stepped : step s a with
      | none => decidable_of_iff (ok s a) (by simp [StepsMeet, stepped])
      | some s' =>
          have : Decidable (StepsMeet step ok s' as) := decidableStepsMeet s' as
          decidable_of_iff (ok s a ∧ StepsMeet step ok s' as) (by simp [StepsMeet, stepped])

variable {step : σ → α → Option σ} {s t : σ} {a : α} {as bs : List α}

@[simp] theorem run_nil : run step s [] = some s := rfl

/-- A run makes its first step and then the others. -/
theorem run_cons_eq_some :
    run step s (a :: as) = some t ↔ ∃ u, step s a = some u ∧ run step u as = some t := by
  simp [run, Option.bind_eq_some_iff]

/-- A run can be cut anywhere. -/
theorem run_append_eq_some :
    run step s (as ++ bs) = some t ↔ ∃ u, run step s as = some u ∧ run step u bs = some t := by
  induction as generalizing s with
  | nil => simp
  | cons a as inductionHypothesis =>
      simp only [List.cons_append, run_cons_eq_some, inductionHypothesis]
      constructor
      · rintro ⟨v, first, u, rest, last⟩
        exact ⟨u, ⟨v, first, rest⟩, last⟩
      · rintro ⟨u, ⟨v, first, rest⟩, last⟩
        exact ⟨v, first, u, rest, last⟩

/-- A predicate that each step preserves holds at the end of every run that
starts in it. -/
theorem run_invariant {holds : σ → Prop}
    (preserved : ∀ {s a u}, holds s → step s a = some u → holds u)
    (start : holds s) (ran : run step s as = some t) : holds t := by
  induction as generalizing s with
  | nil =>
      cases ran
      exact start
  | cons a as inductionHypothesis =>
      obtain ⟨u, first, rest⟩ := run_cons_eq_some.mp ran
      exact inductionHypothesis (preserved start first) rest

/-- The same rule when the step only preserves the predicate under a condition
that every step of the run is known to meet. -/
theorem run_invariant_of_stepsMeet {holds : σ → Prop} {ok : σ → α → Prop}
    (preserved : ∀ {s a u}, holds s → ok s a → step s a = some u → holds u)
    (start : holds s) (meets : StepsMeet step ok s as) (ran : run step s as = some t) : holds t := by
  induction as generalizing s with
  | nil =>
      cases ran
      exact start
  | cons a as inductionHypothesis =>
      obtain ⟨u, first, rest⟩ := run_cons_eq_some.mp ran
      exact inductionHypothesis (preserved start meets.1 first) (meets.2 u first) rest

/-- A condition on the steps can be checked in two parts. -/
theorem stepsMeet_append {ok : σ → α → Prop} :
    StepsMeet step ok s (as ++ bs) ↔
      StepsMeet step ok s as ∧ ∀ u, run step s as = some u → StepsMeet step ok u bs := by
  induction as generalizing s with
  | nil => simp [StepsMeet]
  | cons a as inductionHypothesis =>
      simp only [List.cons_append, StepsMeet, inductionHypothesis, run_cons_eq_some]
      constructor
      · rintro ⟨here, rest⟩
        refine ⟨⟨here, fun v stepped => (rest v stepped).1⟩, ?_⟩
        rintro u ⟨v, stepped, ran⟩
        exact (rest v stepped).2 u ran
      · rintro ⟨⟨here, first⟩, last⟩
        refine ⟨here, fun v stepped => ⟨first v stepped, ?_⟩⟩
        intro u ran
        exact last u ⟨v, stepped, ran⟩

/-- Wherever an invariant holds that the steps meeting the first condition
preserve, the first condition gives the second: then a run that meets the first
one meets the second. -/
theorem stepsMeet_of_invariant {holds : σ → Prop} {ok ok' : σ → α → Prop}
    (gives : ∀ {s a}, holds s → ok s a → ok' s a)
    (preserved : ∀ {s a u}, holds s → ok s a → step s a = some u → holds u) (start : holds s)
    (meets : StepsMeet step ok s as) : StepsMeet step ok' s as := by
  induction as generalizing s with
  | nil => trivial
  | cons a as inductionHypothesis =>
      refine ⟨gives start meets.1, ?_⟩
      intro u stepped
      exact inductionHypothesis (preserved start meets.1 stepped) (meets.2 u stepped)

/-- A condition that an invariant gives is met by every step of every run. -/
theorem stepsMeet_of_preserved {holds : σ → Prop} {ok : σ → α → Prop}
    (gives : ∀ {s a}, holds s → ok s a)
    (preserved : ∀ {s a u}, holds s → step s a = some u → holds u)
    (start : holds s) : StepsMeet step ok s as := by
  induction as generalizing s with
  | nil => trivial
  | cons a as inductionHypothesis =>
      refine ⟨gives start, ?_⟩
      intro u stepped
      exact inductionHypothesis (preserved start stepped)

/-- A condition on the actions alone is met by every step if every action meets
it. -/
theorem stepsMeet_of_actions {ok : α → Prop} (all : ∀ a ∈ as, ok a) :
    StepsMeet step (fun _ a => ok a) s as := by
  induction as generalizing s with
  | nil => trivial
  | cons a as inductionHypothesis =>
      refine ⟨all a List.mem_cons_self, ?_⟩
      intro u _
      exact inductionHypothesis fun b among => all b (List.mem_cons_of_mem a among)

/-- A part of a system makes a run of its own: where each step of the whole
keeps an invariant and is a run of the part, so is each run of the whole. -/
theorem run_project {τ β : Type*} {part : τ → β → Option τ} {f : σ → τ}
    {holds : σ → Prop} {ok : α → Prop}
    {allowed : β → Prop}
    (projects : ∀ {s a u}, holds s → ok a → step s a = some u →
      holds u ∧ ∃ moves, (∀ b ∈ moves, allowed b) ∧ run part (f s) moves = some (f u))
    (start : holds s) (all : ∀ a ∈ as, ok a) (ran : run step s as = some t) :
    holds t ∧ ∃ moves, (∀ b ∈ moves, allowed b) ∧ run part (f s) moves = some (f t) := by
  induction as generalizing s with
  | nil =>
      cases ran
      exact ⟨start, [], fun _ among => absurd among List.not_mem_nil, rfl⟩
  | cons a as inductionHypothesis =>
      obtain ⟨u, first, rest⟩ := run_cons_eq_some.mp ran
      obtain ⟨kept, moves, allowed_, moved⟩ := projects start (all a List.mem_cons_self) first
      obtain ⟨atEnd, later, allowedLater, movedLater⟩ :=
        inductionHypothesis kept (fun b among => all b (List.mem_cons_of_mem a among)) rest
      refine ⟨atEnd, moves ++ later, ?_, run_append_eq_some.mpr ⟨f u, moved, movedLater⟩⟩
      intro b among
      rcases List.mem_append.mp among with early | late
      · exact allowed_ b early
      · exact allowedLater b late

/-- Two conditions that agree wherever an invariant holds are met by the same
runs, if the steps that meet the second one preserve the invariant. -/
theorem stepsMeet_iff_of_invariant {holds : σ → Prop} {ok ok' : σ → α → Prop}
    (same : ∀ {s a}, holds s → (ok s a ↔ ok' s a))
    (preserved : ∀ {s a u}, holds s → ok' s a → step s a = some u → holds u) (start : holds s) :
    StepsMeet step ok s as ↔ StepsMeet step ok' s as := by
  constructor
  · intro meets
    apply stepsMeet_of_invariant _ _ start meets
    · intro s a kept
      exact (same kept).mp
    · intro s a u kept here
      exact preserved kept ((same kept).mp here)
  · intro meets
    apply stepsMeet_of_invariant _ preserved start meets
    intro s a kept
    exact (same kept).mpr

/-- A condition on the state after each step is one on every state the run
reaches. -/
theorem stepsMeet_iff_reached {holds : σ → Prop} (start : holds s) :
    StepsMeet step (fun s a => ∀ u, step s a = some u → holds u) s as ↔
      ∀ before after t, as = before ++ after → run step s before = some t → holds t := by
  induction as generalizing s with
  | nil =>
      refine iff_of_true trivial ?_
      intro before after t split ran
      rw [(List.append_eq_nil_iff.mp split.symm).1] at ran
      cases ran
      exact start
  | cons a as inductionHypothesis =>
      constructor
      · rintro ⟨next, rest⟩ before after t split ran
        cases before with
        | nil =>
            cases ran
            exact start
        | cons b before =>
            obtain ⟨rfl, restSplit⟩ := List.cons.inj split
            obtain ⟨u, stepped, ranRest⟩ := run_cons_eq_some.mp ran
            exact (inductionHypothesis (next u stepped)).mp (rest u stepped) before after t restSplit
              ranRest
      · intro reached
        have next : ∀ u, step s a = some u → holds u := by
          intro u stepped
          exact reached [a] as u rfl (run_cons_eq_some.mpr ⟨u, stepped, rfl⟩)
        refine ⟨next, ?_⟩
        intro u stepped
        apply (inductionHypothesis (next u stepped)).mpr
        intro before after t split ran
        apply reached (a :: before) after t (by rw [split, List.cons_append])
        exact run_cons_eq_some.mpr ⟨u, stepped, ran⟩

/-- A run in which every step succeeds and leaves a good state is one whose
beginnings all do. -/
theorem stepsMeet_iff_runs {holds : σ → Prop} (start : holds s) :
    StepsMeet step (fun s a => ∃ u, step s a = some u ∧ holds u) s as ↔
      ∀ before after, as = before ++ after → ∃ t, run step s before = some t ∧ holds t := by
  induction as generalizing s with
  | nil =>
      refine iff_of_true trivial ?_
      intro before after split
      rw [(List.append_eq_nil_iff.mp split.symm).1]
      exact ⟨s, rfl, start⟩
  | cons a as inductionHypothesis =>
      constructor
      · rintro ⟨⟨u, stepped, next⟩, rest⟩ before after split
        cases before with
        | nil => exact ⟨s, rfl, start⟩
        | cons b before =>
            obtain ⟨rfl, restSplit⟩ := List.cons.inj split
            obtain ⟨t, ran, good⟩ := (inductionHypothesis next).mp (rest u stepped) before after restSplit
            exact ⟨t, run_cons_eq_some.mpr ⟨u, stepped, ran⟩, good⟩
      · intro reached
        obtain ⟨t, ran, good⟩ := reached [a] as rfl
        obtain ⟨u, stepped, last⟩ := run_cons_eq_some.mp ran
        cases last
        refine ⟨⟨t, stepped, good⟩, ?_⟩
        intro v steppedAgain
        cases stepped.symm.trans steppedAgain
        apply (inductionHypothesis good).mpr
        intro before after split
        obtain ⟨w, ranOn, goodOn⟩ := reached (a :: before) after (by rw [split, List.cons_append])
        obtain ⟨x, steppedOn, rest⟩ := run_cons_eq_some.mp ranOn
        cases stepped.symm.trans steppedOn
        exact ⟨w, rest, goodOn⟩

/-- Where an invariant holds and the state is not final there is a next state
that keeps the invariant and lowers a measure: then a final state is reached. -/
theorem reaches_final_of_measure {next : σ → σ → Prop} {holds final : σ → Prop}
    (measure : σ → Nat)
    (goes : ∀ {s}, holds s → ¬ final s → ∃ t, next s t ∧ holds t ∧ measure t < measure s)
    (start : holds s) : ∃ t, Relation.ReflTransGen next s t ∧ final t ∧ holds t := by
  induction bound : measure s using Nat.strongRecOn generalizing s with
  | ind n inductionHypothesis =>
      by_cases last : final s
      · exact ⟨s, .refl, last, start⟩
      · obtain ⟨t, stepped, kept, lower⟩ := goes start last
        obtain ⟨u, ran, finalU, keptU⟩ := inductionHypothesis (measure t) (bound ▸ lower) kept rfl
        exact ⟨u, .head stepped ran, finalU, keptU⟩

end Q3df.Transition
