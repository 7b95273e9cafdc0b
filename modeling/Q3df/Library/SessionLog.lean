/-
Module: Q3df.Library.SessionLog
Layer: Library
Purpose: Logs of sessions that open and close. A log is paired when at most one session is open at a
  time and every closing entry names the session it closes; reading the log with the open session as
  the state decides it.
Imports: Q3df.Library.Transition
Trusted boundary: none
Main exports: SessionEntry, SessionEntry.read, Paired, openAfter, paired_append,
  openAfter_append_opened, openAfter_append_closed
Open obligations: none
-/
import Q3df.Library.Transition

namespace Q3df.SessionLog

open Q3df.Transition

variable {α : Type*}

/-- An entry of the log, with the name of the session. -/
inductive SessionEntry (α : Type*) where
  | opened (id : α)
  | closed (id : α)
deriving Repr, DecidableEq

variable [DecidableEq α]

/-- Read one entry in the state "this session is open", or "none is". -/
def SessionEntry.read (current : Option α) : SessionEntry α → Option (Option α)
  | .opened id => if current = none then some (some id) else none
  | .closed id => if current = some id then some none else none

/-- The open session after a log, or `none` if the log is not paired. -/
def openAfter (log : List (SessionEntry α)) : Option (Option α) := run SessionEntry.read none log

/-- Opening and closing entries alternate, starting with an opening one, and
every closing entry names the session that is open. -/
def Paired (log : List (SessionEntry α)) : Prop := (openAfter log).isSome

instance (log : List (SessionEntry α)) : Decidable (Paired log) :=
  inferInstanceAs (Decidable ((openAfter log).isSome = true))

variable {log : List (SessionEntry α)} {current next : Option α} {id : α}

/-- One more entry is read in the state the log before it leads to. -/
theorem openAfter_append_eq_some {entry : SessionEntry α} :
    openAfter (log ++ [entry]) = some next ↔
      ∃ current, openAfter log = some current ∧ entry.read current = some next := by
  rw [openAfter, openAfter, run_append_eq_some]
  simp [run_cons_eq_some]

/-- A log that is paired was paired before its last entry. -/
theorem paired_append {entry : SessionEntry α} (paired : Paired (log ++ [entry])) : Paired log := by
  obtain ⟨next, after⟩ := Option.isSome_iff_exists.mp paired
  obtain ⟨current, before, -⟩ := openAfter_append_eq_some.mp after
  exact Option.isSome_iff_exists.mpr ⟨current, before⟩

/-- A session can open when none is open. -/
theorem openAfter_append_opened :
    openAfter (log ++ [.opened id]) = some next ↔ openAfter log = some none ∧ next = some id := by
  rw [openAfter_append_eq_some]
  constructor
  · rintro ⟨current, before, stepped⟩
    rw [SessionEntry.read] at stepped
    split at stepped
    case isTrue free =>
      cases stepped
      exact ⟨by rw [before, free], rfl⟩
    case isFalse => cases stepped
  · rintro ⟨before, rfl⟩
    exact ⟨none, before, rfl⟩

/-- A session can close when it is the open one. -/
theorem openAfter_append_closed :
    openAfter (log ++ [.closed id]) = some next ↔ openAfter log = some (some id) ∧ next = none := by
  rw [openAfter_append_eq_some]
  constructor
  · rintro ⟨current, before, stepped⟩
    rw [SessionEntry.read] at stepped
    split at stepped
    case isTrue open_ =>
      cases stepped
      exact ⟨by rw [before, open_], rfl⟩
    case isFalse => cases stepped
  · rintro ⟨before, rfl⟩
    exact ⟨some id, before, by simp [SessionEntry.read]⟩

end Q3df.SessionLog
