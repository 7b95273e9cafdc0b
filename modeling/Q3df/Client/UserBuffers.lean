/-
Module: Q3df.Client.UserBuffers
Layer: Client
Purpose: The two character arrays of `Q3User`, byte by byte. One is written by a bare `strncpy` and
  by the info string utilities, which know nothing of its 1024 bytes; the other by `snprintf`. Runs
  of the writers keep both terminated and write nothing behind them exactly if every string that is
  put into the first one is shorter than the array.
Imports: Mathlib.Data.List.TakeWhile, Q3df.Client.InfoRefusal, Q3df.Client.StringTokenizer
Trusted boundary: human-reviewed transcription of client/Q3User.{h,cc}; the C library functions as
  the standard has them; the warning about a forbidden pair is printed, which takes a pair that
  leaves it room in the buffer of va
Main exports: CText, cString, strcpy, snprintf, UserBuffers, UserBufferOp, UserBuffers.step,
  UserBuffers.WellFormed, InfoSetFits, KeepsBuffers, buffers_wellFormed_iff
Open obligations: none
-/
import Mathlib.Data.List.TakeWhile
import Q3df.Client.InfoRefusal
import Q3df.Client.StringTokenizer

namespace Q3df.Client

open Q3df.Transition

/-- A C string of any length, which has no terminator in it. -/
abbrev CText := { text : CString // nul ∉ text }

/-- The string a buffer holds; `none` where a reader goes on behind the buffer. -/
def cString (buffer : List Char) : Option CString :=
  if nul ∈ buffer then some (buffer.takeWhile fun c => c ≠ nul) else none

/-- `strcpy` to a buffer; `none` where it writes behind it. -/
def strcpy (buffer : List Char) (text : CString) : Option (List Char) :=
  if text.length < buffer.length then some (text ++ nul :: buffer.drop (text.length + 1)) else none

/-- `snprintf` of one string. -/
def snprintf (buffer : List Char) (num : Nat) (text : CString) : Option (List Char) :=
  strcpy buffer (text.take (num - 1))

/-- `userInfo_` and `lastQ3dfkey_`. -/
structure UserBuffers where
  userInfo : List Char
  lastQ3dfkey : List Char
deriving DecidableEq

/-- The calls that write to the arrays. -/
inductive UserBufferOp where
  | reset
  | setUserInfoString (infoString : CText)
  | setUserInfo (key value : CText)
  | setLastQ3dfKey (q3dfkey : CText)

namespace UserBuffers

/-- The constructor. -/
def new : UserBuffers :=
  { userInfo := List.replicate maxInfoString nul, lastQ3dfkey := List.replicate maxInfoString nul }

/-- `SetUserInfoString`. -/
def setUserInfoString (s : UserBuffers) (infoString : CText) : UserBuffers :=
  { s with userInfo := strncpy infoString.val maxInfoString }

/-- `SetUserInfo`. The key is removed in place, which moves bytes within the
string, and the new string is copied over the old one; together that is one copy
of what the call leaves. -/
def setUserInfo (s : UserBuffers) (key value : CText) : Option UserBuffers :=
  (cString s.userInfo).bind fun infoString =>
    (strcpy s.userInfo (infoSetValueForKey infoString key.val value.val).infoString).map
      fun userInfo => { s with userInfo := userInfo }

/-- `SetLastQ3dfKey`: clear, print, and terminate once more. -/
def setLastQ3dfKey (s : UserBuffers) (q3dfkey : CText) : Option UserBuffers :=
  (snprintf (List.replicate maxInfoString nul) maxInfoString q3dfkey.val).map
    fun lastQ3dfkey => { s with lastQ3dfkey := lastQ3dfkey.set (maxInfoString - 1) nul }

/-- One call; `none` where it reads or writes behind an array. -/
def step (s : UserBuffers) : UserBufferOp → Option UserBuffers
  | .reset => some new
  | .setUserInfoString infoString => some (s.setUserInfoString infoString)
  | .setUserInfo key value => s.setUserInfo key value
  | .setLastQ3dfKey q3dfkey => s.setLastQ3dfKey q3dfkey

end UserBuffers

/-- The array has its size, and a terminator in it. -/
def TerminatedArray (buffer : List Char) : Prop := buffer.length = maxInfoString ∧ nul ∈ buffer

/-- Both arrays are terminated. -/
structure UserBuffers.WellFormed (s : UserBuffers) : Prop where
  userInfo : TerminatedArray s.userInfo
  lastQ3dfkey : TerminatedArray s.lastQ3dfkey

/-- What a call leaves of the info string fits the array: the pair is forbidden,
there is no value, the pair fits in front of what is left without its key, or it
is refused for its length. -/
def InfoSetFits (infoString key value : CString) : Prop :=
  ForbiddenPair key value ∨ value = [] ∨
    (encodeEntry ⟨key, value⟩).length + (infoRemoveKey infoString key).infoString.length <
      maxInfoString ∨
    ((infoRemoveKey infoString key).infoString ≠ [] ∧
      bigInfoString ≤
        (encodeEntry ⟨key, value⟩).length + (infoRemoveKey infoString key).infoString.length)

/-- The call puts no string into the first array that is too long for it. -/
def KeepsBuffers (s : UserBuffers) : UserBufferOp → Prop
  | .reset | .setLastQ3dfKey _ => True
  | .setUserInfoString infoString => infoString.val.length < maxInfoString
  | .setUserInfo key value =>
      ∀ infoString, cString s.userInfo = some infoString → InfoSetFits infoString key.val value.val

/-!
### One write

The C functions on a buffer of fixed length: when the text fits, and when its
terminator gets in.
-/

section Writes

variable {buffer : List Char} {text infoString key value : CString} {num : Nat}

/-- A terminated buffer holds a string shorter than itself. -/
theorem cString_of_terminated (terminated : nul ∈ buffer) :
    ∃ text, cString buffer = some text ∧ text.length < buffer.length := by
  refine ⟨_, if_pos terminated, ?_⟩
  have behind : buffer.dropWhile (fun c => c ≠ nul) ≠ [] := by
    rw [Ne, List.dropWhile_eq_nil_iff]
    intro all
    exact absurd (all nul terminated) (by simp)
  have positive := List.length_pos_iff.mpr behind
  have lengths := congrArg List.length
    (@List.takeWhile_append_dropWhile _ (fun c => decide (c ≠ nul)) buffer)
  rw [List.length_append] at lengths
  omega

/-- A copy that fits leaves the array terminated, and as long as it was. -/
theorem strcpy_eq_some_iff : (∃ written, strcpy buffer text = some written ∧
    written.length = buffer.length ∧ nul ∈ written) ↔ text.length < buffer.length := by
  unfold strcpy
  split
  case isTrue fits =>
    refine iff_of_true ⟨_, rfl, ?_, ?_⟩ fits
    · rw [List.length_append, List.length_cons, List.length_drop]
      omega
    · exact List.mem_append_right _ List.mem_cons_self
  case isFalse long =>
    apply iff_of_false _ long
    rintro ⟨written, ⟨⟩, -⟩

/-- The copy has exactly the length of the buffer. -/
theorem length_strncpy : (strncpy text num).length = num := by
  rw [strncpy, List.length_take, List.length_append, List.length_replicate]
  omega

/-- `strncpy` terminates what it writes exactly if the string is shorter than
the array. -/
theorem nul_mem_strncpy_iff (clean : nul ∉ text) : nul ∈ strncpy text num ↔ text.length < num := by
  constructor
  · intro terminated
    by_contra long
    rw [strncpy, List.take_append_of_le_length (Nat.le_of_not_lt long)] at terminated
    exact clean (List.mem_of_mem_take terminated)
  · exact nul_mem_strncpy

/-- Removing a key makes no string longer. -/
theorem length_infoRemoveKey_le :
    (infoRemoveKey infoString key).infoString.length ≤ infoString.length := by
  by_cases backslash : '\\' ∈ key
  · simp only [infoRemoveKey, if_pos backslash]
    exact Nat.le_refl _
  · by_cases found : key ∈ infoKeys infoString
    · exact Nat.le_of_lt (length_infoRemoveKey_lt backslash found)
    · rw [(infoRemoveKey_eq_self_iff backslash).mpr found]

/-- The string a call leaves fits the array. -/
theorem length_infoSetValueForKey_iff (short : infoString.length < maxInfoString) :
    (infoSetValueForKey infoString key value).infoString.length < maxInfoString ↔
      InfoSetFits infoString key value := by
  have remaining := @length_infoRemoveKey_le infoString key
  have limits : maxInfoString < bigInfoString := by decide
  by_cases forbidden : ForbiddenPair key value
  · rw [(infoSetValueForKey_forbidden forbidden).1]
    exact iff_of_true short (.inl forbidden)
  · rw [InfoSetFits, or_iff_right forbidden]
    by_cases noValue : value = []
    · rw [infoSetValueForKey_removes forbidden noValue]
      exact iff_of_true (by omega) (.inl noValue)
    · have cutLength : (cutPair key value).length =
          min (bigInfoString - 1) (encodeEntry ⟨key, value⟩).length := List.length_take
      rw [or_iff_right noValue]
      by_cases exceeded : bigInfoString ≤
          (cutPair key value).length + (infoRemoveKey infoString key).infoString.length
      · rw [(infoSetValueForKey_exceeded forbidden noValue exceeded).1]
        refine iff_of_true (by omega) (.inr ⟨?_, by omega⟩)
        intro nothing
        rw [nothing, List.length_nil] at exceeded
        omega
      · have installed := infoSetValueForKey_installs forbidden noValue (by omega)
          (Nat.lt_of_not_le exceeded)
        rw [installed, List.length_append]
        constructor
        · intro fits
          exact .inl (by omega)
        · rintro (fits | ⟨some_, long⟩)
          · omega
          · have occupied := List.length_pos_iff.mpr some_
            omega

end Writes

/-!
### One call

Which of the setters keep all buffers terminated, for every text they can be
called with.
-/

section Calls

variable {s : UserBuffers} {op : UserBufferOp}

theorem wellFormed_new : UserBuffers.new.WellFormed := by
  have zeros : TerminatedArray (List.replicate maxInfoString nul) :=
    ⟨List.length_replicate, List.mem_replicate.mpr ⟨by decide, rfl⟩⟩
  exact ⟨zeros, zeros⟩

/-- The one setter that terminates its copy itself keeps the buffers in form for
every key. -/
theorem setLastQ3dfKey_wellFormed (wellFormed : s.WellFormed) (q3dfkey : CText) :
    ∃ t, s.setLastQ3dfKey q3dfkey = some t ∧ t.WellFormed := by
  have fits : (q3dfkey.val.take (maxInfoString - 1)).length <
      (List.replicate maxInfoString nul).length := by
    have size : 0 < maxInfoString := by decide
    rw [List.length_take, List.length_replicate]
    omega
  obtain ⟨written, copied, length, -⟩ := strcpy_eq_some_iff.mpr fits
  rw [List.length_replicate] at length
  refine ⟨{ s with lastQ3dfkey := written.set (maxInfoString - 1) nul }, ?_, wellFormed.userInfo, ?_, ?_⟩
  · rw [UserBuffers.setLastQ3dfKey, snprintf, copied]
    rfl
  · exact List.length_set.trans length
  · apply List.mem_set
    rw [length]
    decide

/-- From a well-formed state a call stays inside the arrays and leaves them
terminated exactly if it puts no string into the first one that is too long for
it. -/
theorem step_wellFormed_iff (wellFormed : s.WellFormed) :
    (∃ t, s.step op = some t ∧ t.WellFormed) ↔ KeepsBuffers s op := by
  cases op with
  | reset => exact iff_of_true ⟨_, rfl, wellFormed_new⟩ trivial
  | setLastQ3dfKey q3dfkey => exact iff_of_true (setLastQ3dfKey_wellFormed wellFormed q3dfkey) trivial
  | setUserInfoString infoString =>
      rw [KeepsBuffers, ← nul_mem_strncpy_iff infoString.property]
      constructor
      · rintro ⟨t, stepped, kept⟩
        cases stepped
        exact kept.userInfo.2
      · intro terminated
        exact ⟨_, rfl, ⟨length_strncpy, terminated⟩, wellFormed.lastQ3dfkey⟩
  | setUserInfo key value =>
      obtain ⟨length, terminated⟩ := wellFormed.userInfo
      obtain ⟨infoString, holds, short⟩ := cString_of_terminated terminated
      rw [length] at short
      have condition : KeepsBuffers s (.setUserInfo key value) ↔
          InfoSetFits infoString key.val value.val := by
        rw [KeepsBuffers, holds]
        simp
      rw [condition, ← length_infoSetValueForKey_iff short, ← length, ← strcpy_eq_some_iff,
        UserBuffers.step, UserBuffers.setUserInfo, holds, Option.bind_some]
      constructor
      · rintro ⟨t, stepped, kept⟩
        obtain ⟨written, copied, rfl⟩ := Option.map_eq_some_iff.mp stepped
        exact ⟨written, copied, kept.userInfo.1.trans length.symm, kept.userInfo.2⟩
      · rintro ⟨written, copied, sameLength, writtenNul⟩
        rw [copied]
        exact ⟨_, rfl, ⟨sameLength.trans length, writtenNul⟩, wellFormed.lastQ3dfkey⟩

end Calls

theorem cString_zeros : cString (List.replicate maxInfoString nul) = some [] := by decide +kernel

/-- Whatever part of the calls has been made, both arrays are terminated and
nothing has been read or written behind them. -/
def StaysWellFormed (ops : List UserBufferOp) : Prop :=
  ∀ before after, ops = before ++ after →
    ∃ t, run UserBuffers.step .new before = some t ∧ t.WellFormed

/-- A sequence of calls keeps the arrays well formed exactly if each of them
does. -/
theorem buffers_wellFormed_iff (ops : List UserBufferOp) :
    StaysWellFormed ops ↔ StepsMeet UserBuffers.step KeepsBuffers .new ops := by
  rw [StaysWellFormed, ← stepsMeet_iff_runs wellFormed_new]
  refine @stepsMeet_iff_of_invariant _ _ _ _ _ UserBuffers.WellFormed _ _ step_wellFormed_iff ?_
    wellFormed_new
  intro s op u wellFormed keeps stepped
  obtain ⟨t, steppedAgain, kept⟩ := (step_wellFormed_iff wellFormed).mpr keeps
  cases stepped.symm.trans steppedAgain
  exact kept

/-- As many characters as there are bytes. -/
def fullInfo (n : Nat) : CText := ⟨List.replicate n 'a', by
  intro found
  exact absurd (List.eq_of_mem_replicate found) (by decide)⟩

theorem length_fullInfo (n : Nat) : (fullInfo n).val.length = n := List.length_replicate

/-- The pair with the key `name` is within the limit of the utilities, and not
within the array. -/
theorem fullInfo_name_exceeds {n : Nat} (long : maxInfoString ≤ n) :
    ¬ KeepsBuffers .new (.setUserInfo ⟨"name".toList, by decide⟩ (fullInfo n)) := by
  intro keeps
  have size : 0 < maxInfoString := by decide
  have empty : cString UserBuffers.new.userInfo = some [] := cString_zeros
  rcases keeps [] empty with forbidden | noValue | fits | refused
  · exact letters_allowed n forbidden
  · have noLength := congrArg List.length noValue
    rw [length_fullInfo, List.length_nil] at noLength
    omega
  · rw [encodeEntry, List.length_cons, List.length_append, List.length_cons, length_fullInfo] at fits
    omega
  · exact refused.1 rfl

/-- A string of 1024 characters is left without a terminator, and a name of 1100
is copied behind the array. -/
theorem fullInfo_breaks_buffers :
    ¬ StaysWellFormed [.setUserInfoString (fullInfo 1024)] ∧
      ¬ StaysWellFormed [.setUserInfo ⟨"name".toList, by decide⟩ (fullInfo 1100)] := by
  have first {op : UserBufferOp} (stays : StaysWellFormed [op]) : KeepsBuffers .new op := by
    obtain ⟨t, ran, kept⟩ := stays [op] [] rfl
    obtain ⟨u, stepped, last⟩ := run_cons_eq_some.mp ran
    cases last
    exact (step_wellFormed_iff wellFormed_new).mp ⟨t, stepped, kept⟩
  constructor
  · intro stays
    have short : (fullInfo 1024).val.length < maxInfoString := first stays
    rw [length_fullInfo] at short
    exact absurd short (by decide)
  · intro stays
    exact fullInfo_name_exceeds (by decide) (first stays)

end Q3df.Client
