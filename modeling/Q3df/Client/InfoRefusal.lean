/-
Module: Q3df.Client.InfoRefusal
Layer: Client
Purpose: What `Utils::InfoSetValueForKey` leaves behind when it refuses a pair. The old pair of the
  key is removed before the length of the new one is looked at, and the new pair is cut to the size
  of a buffer before its length is measured. The warning about a forbidden character spells the pair
  out, in the buffer of `va`.
Imports: Q3df.Client.InfoMap
Trusted boundary: none
Main exports: ForbiddenPair, infoRemoveKey_eq_self_iff, infoSetValueForKey_forbidden,
  infoSetValueForKey_exceeded, infoSetValueForKey_installs, RefusesOrInstalls, WarningFits,
  refusesOrInstalls_iff
Open obligations: none
-/
import Q3df.Client.InfoMap

namespace Q3df.Client

/-!
### When a key is removed

The scanner looks at whole keys. It stops at the first pair whose key is the one
asked for, and leaves the string alone if there is none.
-/

section Removal

variable {key before passed pkey s : CString}

/-- Both loops of `InfoRemoveKey` keep a string without the key. -/
theorem infoRemoveScan_of_notMem :
    (key ∉ infoKeysFromKey pkey s →
      infoRemoveScanKey key before passed pkey s = before ++ passed ++ s) ∧
    (key ≠ pkey → key ∉ infoKeysFromValue s →
      infoRemoveScanValue key before passed pkey s = before ++ passed ++ s) := by
  induction s generalizing before passed pkey with
  | nil =>
      constructor
      · intro _
        rw [infoRemoveScanKey, List.append_nil]
      · intro other _
        rw [infoRemoveScanValue, if_neg other, List.append_nil]
  | cons c s inductionHypothesis =>
      constructor
      · rw [infoKeysFromKey, infoRemoveScanKey]
        split
        case isTrue =>
          intro absent
          rw [List.mem_cons, not_or] at absent
          rw [inductionHypothesis.2 absent.1 absent.2]
          simp
        case isFalse =>
          intro absent
          rw [inductionHypothesis.1 absent]
          simp
      · intro other
        rw [infoKeysFromValue, infoRemoveScanValue, if_neg other]
        split
        case isTrue =>
          intro absent
          rw [inductionHypothesis.1 absent]
          simp
        case isFalse =>
          intro absent
          rw [inductionHypothesis.2 other absent]
          simp

/-- Where they meet the key the string becomes shorter. -/
theorem infoRemoveScan_of_mem :
    (key ∈ infoKeysFromKey pkey s →
      (infoRemoveScanKey key before passed pkey s).length < (before ++ passed ++ s).length) ∧
    (passed ≠ [] → (key = pkey ∨ key ∈ infoKeysFromValue s) →
      (infoRemoveScanValue key before passed pkey s).length < (before ++ passed ++ s).length) := by
  induction s generalizing before passed pkey with
  | nil =>
      constructor
      · rintro ⟨⟩
      · intro some_ found
        have same : key = pkey := found.resolve_right List.not_mem_nil
        have positive := List.length_pos_iff.mpr some_
        rw [infoRemoveScanValue, if_pos same]
        simp only [List.length_append, List.length_nil]
        omega
  | cons c s inductionHypothesis =>
      constructor
      · rw [infoKeysFromKey, infoRemoveScanKey]
        split
        case isTrue =>
          intro found
          have shorter := (@inductionHypothesis before (passed ++ [c]) pkey).2 (by simp)
            (List.mem_cons.mp found)
          simp only [List.length_append, List.length_cons, List.length_nil] at shorter ⊢
          omega
        case isFalse =>
          intro found
          have shorter := (@inductionHypothesis before (passed ++ [c]) (pkey ++ [c])).1 found
          simp only [List.length_append, List.length_cons, List.length_nil] at shorter ⊢
          omega
      · intro some_
        have positive := List.length_pos_iff.mpr some_
        rw [infoKeysFromValue, infoRemoveScanValue]
        split
        case isTrue =>
          intro found
          split
          case isTrue =>
            simp only [List.length_append, List.length_cons]
            omega
          case isFalse other =>
            have shorter := (@inductionHypothesis (before ++ passed) [c] []).1
              (found.resolve_left other)
            simp only [List.length_append, List.length_cons, List.length_nil] at shorter ⊢
            omega
        case isFalse =>
          intro found
          have shorter := (@inductionHypothesis before (passed ++ [c]) pkey).2 (by simp) found
          simp only [List.length_append, List.length_cons, List.length_nil] at shorter ⊢
          omega

/-- Without a backslash in the key the loops run over the string from its first
key on. -/
theorem infoRemoveKey_scan {infoString : CString} (clean : '\\' ∉ key) :
    ∃ passed s, infoString = passed ++ s ∧ infoKeys infoString = infoKeysFromKey [] s ∧
      (infoRemoveKey infoString key).infoString = infoRemoveScanKey key [] passed [] s := by
  simp only [infoRemoveKey, if_neg clean]
  cases infoString with
  | nil => exact ⟨[], [], rfl, rfl, rfl⟩
  | cons c s =>
      by_cases backslash : c = '\\'
      · simp only [infoKeys, if_pos backslash]
        exact ⟨[c], s, rfl, rfl, rfl⟩
      · simp only [infoKeys, if_neg backslash]
        exact ⟨[], c :: s, rfl, rfl, rfl⟩

/-- Removing a key that is there makes the string shorter. -/
theorem length_infoRemoveKey_lt {infoString : CString} (clean : '\\' ∉ key)
    (found : key ∈ infoKeys infoString) :
    (infoRemoveKey infoString key).infoString.length < infoString.length := by
  obtain ⟨passed, s, rfl, keys, removed⟩ := @infoRemoveKey_scan key infoString clean
  rw [keys] at found
  rw [removed]
  exact (@infoRemoveScan_of_mem key [] passed [] s).1 found

/-- A string is left as it is exactly if it does not have the key. -/
theorem infoRemoveKey_eq_self_iff {infoString : CString} (clean : '\\' ∉ key) :
    (infoRemoveKey infoString key).infoString = infoString ↔ key ∉ infoKeys infoString := by
  constructor
  · intro same found
    have shorter := length_infoRemoveKey_lt clean found
    rw [same] at shorter
    exact Nat.lt_irrefl _ shorter
  · intro absent
    obtain ⟨passed, s, rfl, keys, removed⟩ := @infoRemoveKey_scan key infoString clean
    rw [keys] at absent
    rw [removed]
    exact (@infoRemoveScan_of_notMem key [] passed [] s).1 absent

end Removal

/-!
### The ends of a call

A call ends in one of four ways: a forbidden character, an empty value, a string
that would be too long, or the new pair in front.
-/

section Ends

variable {infoString key value : CString}

/-- Key or value has a character of the blacklist. -/
def ForbiddenPair (key value : CString) : Prop := ∃ c ∈ infoBlacklist, c ∈ key ∨ c ∈ value

instance (key value : CString) : Decidable (ForbiddenPair key value) :=
  List.decidableBEx (fun c => c ∈ key ∨ c ∈ value) infoBlacklist

/-- The pair as `snprintf` leaves it in `newi`. -/
def cutPair (key value : CString) : CString := (encodeEntry ⟨key, value⟩).take (bigInfoString - 1)

/-- The loop over the blacklist finds nothing exactly when no character of the
pair is forbidden. -/
theorem blacklist_find?_eq_none_iff :
    (infoBlacklist.find? fun c => key.contains c || value.contains c) = none ↔
      ¬ ForbiddenPair key value := by
  rw [List.find?_eq_none, ForbiddenPair, not_exists]
  simp

/-- A key that may be used has no backslash. -/
theorem backslash_notMem_of_allowed (allowed : ¬ ForbiddenPair key value) : '\\' ∉ key := by
  intro found
  exact allowed ⟨'\\', by decide, .inl found⟩

/-- A forbidden character is refused with a warning, and before anything is
removed. -/
theorem infoSetValueForKey_forbidden (forbidden : ForbiddenPair key value) :
    (infoSetValueForKey infoString key value).infoString = infoString ∧
      (infoSetValueForKey infoString key value).warnings ≠ [] := by
  cases found : infoBlacklist.find? fun c => key.contains c || value.contains c with
  | none => exact absurd forbidden (blacklist_find?_eq_none_iff.mp found)
  | some c =>
      rw [infoSetValueForKey, found]
      exact ⟨rfl, List.append_ne_nil_of_right_ne_nil _ (by simp)⟩

/-- The warning about a forbidden character has 68 characters beside the pair. -/
theorem infoSetValueForKey_warns (forbidden : ForbiddenPair key value)
    (fits : infoString.length < bigInfoString) :
    ∃ text, (infoSetValueForKey infoString key value).warnings = [text] ∧
      text.length = key.length + value.length + 68 := by
  cases found : infoBlacklist.find? fun c => key.contains c || value.contains c with
  | none => exact absurd forbidden (blacklist_find?_eq_none_iff.mp found)
  | some c =>
      rw [infoSetValueForKey, found]
      simp only [if_neg (Nat.not_le.mpr fits), List.nil_append]
      refine ⟨_, rfl, ?_⟩
      have front : "Utils::InfoSetValueForKey: Can't use keys or values with a '".toList.length =
          60 := by decide
      have behind : "': ".toList.length = 3 ∧ " = ".toList.length = 3 ∧
          "\n".toList.length = 1 := by decide
      simp only [List.length_append, List.length_singleton, front, behind]
      omega

/-- Without a value the pair is only removed. -/
theorem infoSetValueForKey_removes (allowed : ¬ ForbiddenPair key value) (noValue : value = []) :
    (infoSetValueForKey infoString key value).infoString = (infoRemoveKey infoString key).infoString := by
  rw [infoSetValueForKey, blacklist_find?_eq_none_iff.mpr allowed]
  simp only [if_pos noValue]

theorem infoRemoveKey_warnings (fits : infoString.length < bigInfoString) :
    (infoRemoveKey infoString key).warnings = [] := if_neg (Nat.not_le.mpr fits)

/-- A pair that is too long is refused with a warning, and the old one is gone. -/
theorem infoSetValueForKey_exceeded (allowed : ¬ ForbiddenPair key value) (some_ : value ≠ [])
    (exceeded : bigInfoString ≤
      (cutPair key value).length + (infoRemoveKey infoString key).infoString.length) :
    (infoSetValueForKey infoString key value).infoString = (infoRemoveKey infoString key).infoString ∧
      (infoSetValueForKey infoString key value).warnings ≠ [] := by
  have cut : (('\\' :: key ++ '\\' :: value).take (bigInfoString - 1)).length +
      (infoRemoveKey infoString key).infoString.length ≥ bigInfoString := exceeded
  rw [infoSetValueForKey, blacklist_find?_eq_none_iff.mpr allowed]
  simp only [if_neg some_, if_pos cut]
  exact ⟨trivial, List.append_ne_nil_of_right_ne_nil _ (List.cons_ne_nil _ _)⟩

/-- That is the only warning of such a call. -/
theorem infoSetValueForKey_exceeded_warns (allowed : ¬ ForbiddenPair key value) (some_ : value ≠ [])
    (fits : infoString.length < bigInfoString)
    (exceeded : bigInfoString ≤
      (cutPair key value).length + (infoRemoveKey infoString key).infoString.length) :
    (infoSetValueForKey infoString key value).warnings =
      ["Utils::InfoSetValueForKey: Info string length exceeded\n".toList] := by
  have cut : (('\\' :: key ++ '\\' :: value).take (bigInfoString - 1)).length +
      (infoRemoveKey infoString key).infoString.length ≥ bigInfoString := exceeded
  rw [infoSetValueForKey, blacklist_find?_eq_none_iff.mpr allowed]
  simp only [if_neg some_, if_pos cut, if_neg (Nat.not_le.mpr fits),
    infoRemoveKey_warnings fits, List.nil_append]

/-- Otherwise the pair is put in front, as far as the buffer holds it. -/
theorem infoSetValueForKey_installs (allowed : ¬ ForbiddenPair key value) (some_ : value ≠ [])
    (fits : infoString.length < bigInfoString)
    (small : (cutPair key value).length + (infoRemoveKey infoString key).infoString.length <
      bigInfoString) :
    infoSetValueForKey infoString key value =
      { infoString := cutPair key value ++ (infoRemoveKey infoString key).infoString, warnings := [] } := by
  have cut : ¬ (('\\' :: key ++ '\\' :: value).take (bigInfoString - 1)).length +
      (infoRemoveKey infoString key).infoString.length ≥ bigInfoString := Nat.not_le.mpr small
  rw [infoSetValueForKey, blacklist_find?_eq_none_iff.mpr allowed]
  simp only [if_neg some_, if_neg cut, if_neg (Nat.not_le.mpr fits), infoRemoveKey_warnings fits]
  rfl

end Ends

/-!
### What a call promises

What the interface comment says: a call refuses and changes nothing, or
installs the pair. It fails where the old pair is removed before the length is
looked at.
-/

/-- A call that warns has left the string as it was, any other has stored the
whole pair, and every warning is printed. -/
def RefusesOrInstalls (infoString key value : CString) : Prop :=
  let call := infoSetValueForKey infoString key value
  (call.warnings ≠ [] → call.infoString = infoString) ∧
    (call.warnings = [] →
      call.infoString = encodeEntry ⟨key, value⟩ ++ (infoRemoveKey infoString key).infoString) ∧
    ∀ text ∈ call.warnings, ∃ printed, printWarning text = .ok printed

/-- A forbidden pair that is warned of fits the buffer of `va`. -/
def WarningFits (key value : CString) : Prop := ForbiddenPair key value → key.length + value.length < 31917

section Promised

variable {infoString key value : CString}

/-- A forbidden pair is refused, and the promise kept if the warning fits its
buffer. -/
theorem refusesOrInstalls_forbidden_iff (forbidden : ForbiddenPair key value)
    (fits : infoString.length < bigInfoString) :
    RefusesOrInstalls infoString key value ↔ WarningFits key value := by
  obtain ⟨same, warns⟩ := @infoSetValueForKey_forbidden infoString key value forbidden
  obtain ⟨text, one, length⟩ := infoSetValueForKey_warns forbidden fits
  have room : 31917 + 68 + 15 = Recordsystem.vaBuffer := rfl
  rw [WarningFits, imp_iff_right forbidden, RefusesOrInstalls]
  rw [one, List.forall_mem_singleton, printWarning_isOk_iff, length, same]
  constructor
  · intro promised
    have printed := promised.2.2
    omega
  · intro short
    exact ⟨fun _ => rfl, fun silent => absurd silent (List.cons_ne_nil _ _), by omega⟩

/-- A pair that is too long is refused after the old one has been removed: the
promise is kept where there was no old one. -/
theorem refusesOrInstalls_exceeded_iff (allowed : ¬ ForbiddenPair key value) (some_ : value ≠ [])
    (fits : infoString.length < bigInfoString)
    (exceeded : bigInfoString ≤
      (cutPair key value).length + (infoRemoveKey infoString key).infoString.length) :
    RefusesOrInstalls infoString key value ↔ (infoRemoveKey infoString key).infoString = infoString := by
  obtain ⟨removed, warns⟩ := infoSetValueForKey_exceeded allowed some_ exceeded
  have one := infoSetValueForKey_exceeded_warns allowed some_ fits exceeded
  have printed : ∀ text ∈ (infoSetValueForKey infoString key value).warnings,
      ∃ printed, printWarning text = .ok printed := by
    rw [one, List.forall_mem_singleton, printWarning_isOk_iff]
    decide
  rw [RefusesOrInstalls, removed]
  constructor
  · intro promised
    exact promised.1 warns
  · intro same
    exact ⟨fun _ => same, fun silent => absurd silent warns, printed⟩

/-- A pair that is stored is stored whole if the copy of it has not been cut. -/
theorem refusesOrInstalls_stored_iff (allowed : ¬ ForbiddenPair key value) (some_ : value ≠ [])
    (fits : infoString.length < bigInfoString)
    (small : (cutPair key value).length + (infoRemoveKey infoString key).infoString.length <
      bigInfoString) :
    RefusesOrInstalls infoString key value ↔ (encodeEntry ⟨key, value⟩).length < bigInfoString := by
  rw [RefusesOrInstalls, infoSetValueForKey_installs allowed some_ fits small]
  by_cases whole : (encodeEntry ⟨key, value⟩).length ≤ bigInfoString - 1
  · have uncut : cutPair key value = encodeEntry ⟨key, value⟩ := List.take_of_length_le whole
    rw [uncut] at small ⊢
    exact iff_of_true ⟨fun warns => absurd rfl warns, fun _ => rfl, fun text among =>
      absurd among List.not_mem_nil⟩ (by omega)
  · apply iff_of_false
    · rintro ⟨-, installed, -⟩
      have lengths := congrArg List.length (installed rfl)
      have cutLength : (cutPair key value).length =
          min (bigInfoString - 1) (encodeEntry ⟨key, value⟩).length := List.length_take
      simp only [List.length_append, cutLength] at lengths
      omega
    · have positive : 0 < bigInfoString := by decide
      omega

end Promised

/-- That is so for a forbidden character if the warning can be printed, for a
pair that fits, and where there is something in the string but not the key. -/
theorem refusesOrInstalls_iff {infoString key value : CString} (fits : infoString.length < bigInfoString)
    (some_ : value ≠ []) :
    RefusesOrInstalls infoString key value ↔
      WarningFits key value ∧
        (ForbiddenPair key value ∨
          (encodeEntry ⟨key, value⟩).length + (infoRemoveKey infoString key).infoString.length <
            bigInfoString ∨
          (infoString ≠ [] ∧ key ∉ infoKeys infoString)) := by
  by_cases forbidden : ForbiddenPair key value
  · rw [and_iff_left (.inl forbidden)]
    exact refusesOrInstalls_forbidden_iff forbidden fits
  · have kept := @infoRemoveKey_eq_self_iff key infoString (backslash_notMem_of_allowed forbidden)
    have cutLength : (cutPair key value).length =
        min (bigInfoString - 1) (encodeEntry ⟨key, value⟩).length := List.length_take
    have positive : 0 < bigInfoString := by decide
    have noWarning : WarningFits key value := fun impossible => absurd impossible forbidden
    rw [and_iff_right noWarning, or_iff_right forbidden, ← kept]
    rcases Nat.lt_or_ge
        ((cutPair key value).length + (infoRemoveKey infoString key).infoString.length) bigInfoString
      with small | exceeded
    · rw [refusesOrInstalls_stored_iff forbidden some_ fits small]
      constructor
      · intro whole
        exact .inl (by omega)
      · rintro (short | ⟨occupied, same⟩)
        · omega
        · have some_ := List.length_pos_iff.mpr occupied
          rw [same] at small
          omega
    · rw [refusesOrInstalls_exceeded_iff forbidden some_ fits exceeded]
      constructor
      · intro same
        refine .inr ⟨?_, same⟩
        rintro rfl
        rw [same, cutLength, List.length_nil] at exceeded
        omega
      · rintro (short | ⟨-, same⟩)
        · omega
        · exact same

/-- A string with a name and a rate. -/
def rateInfo : CString := "\\name\\x\\rate\\1".toList

/-- A value that does not fit behind the rate. -/
def longName : CString := List.replicate 8180 'a'

/-- Names of one letter may have any length. -/
theorem letters_allowed (n : Nat) : ¬ ForbiddenPair "name".toList (List.replicate n 'a') := by
  rintro ⟨c, listed, found | found⟩
  · have apart : infoBlacklist.all (fun c => decide (c ∉ "name".toList)) = true := by decide
    exact of_decide_eq_true (List.all_eq_true.mp apart c listed) found
  · have same : c = 'a' := List.eq_of_mem_replicate found
    rw [same] at listed
    exact absurd listed (by decide)

theorem rateInfo_removed :
    (infoRemoveKey rateInfo "name".toList).infoString = "\\rate\\1".toList := by decide

/-- The long name is refused, and the old one is gone. -/
theorem longName_loses_name :
    (infoSetValueForKey rateInfo "name".toList longName).warnings ≠ [] ∧
      (infoSetValueForKey rateInfo "name".toList longName).infoString = "\\rate\\1".toList ∧
      ¬ RefusesOrInstalls rateInfo "name".toList longName := by
  have allowed : ¬ ForbiddenPair "name".toList longName := letters_allowed 8180
  have length : longName.length = 8180 := List.length_replicate
  have some_ : longName ≠ [] := List.ne_nil_of_length_pos (by omega)
  have exceeded : bigInfoString ≤
      (cutPair "name".toList longName).length +
        (infoRemoveKey rateInfo "name".toList).infoString.length := by
    rw [rateInfo_removed, cutPair, List.length_take, encodeEntry, List.length_cons, List.length_append,
      List.length_cons, length]
    decide
  obtain ⟨removed, warns⟩ := infoSetValueForKey_exceeded allowed some_ exceeded
  rw [rateInfo_removed] at removed
  refine ⟨warns, removed, ?_⟩
  rintro ⟨unchanged, -⟩
  have same := unchanged warns
  rw [removed] at same
  exact absurd same (by decide)

/-- A name is replaced by one that fits. -/
theorem shortName_installed : "name".toList ∈ infoKeys rateInfo ∧
    (infoSetValueForKey rateInfo "name".toList "nobody".toList).infoString =
      "\\name\\nobody\\rate\\1".toList ∧
    RefusesOrInstalls rateInfo "name".toList "nobody".toList :=
  ⟨by decide, by decide,
    (refusesOrInstalls_iff (by decide) (by decide)).mpr ⟨fun _ => by decide, .inr (.inl (by decide))⟩⟩

end Q3df.Client
