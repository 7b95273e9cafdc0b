/-
Module: Q3df.Client.InfoMap
Layer: Client
Purpose: Info strings as finite maps. The abstract layer is an association list with distinct keys,
  whose insertion puts the new pair in front; the faithful layer is three scanners over the
  characters. The string that spells the pairs of the list is looked up, changed and shortened by
  the scanners as the list is by its own operations, so the string built by any sequence of calls is
  a map from each key to the last value set.
Imports: Mathlib.Data.List.AList, Mathlib.Data.List.Flatten, Q3df.Library.Delimited,
  Q3df.Library.Transition, Q3df.Client.Utils
Trusted boundary: none
Main exports: encodeEntries, infoKeys, infoValueForKey_encode, infoRemoveKey_encode, InfoOp,
  InfoMap, Spells, lastValue, ImplementsMap, infoString_implements_map
Open obligations: none
-/
import Mathlib.Data.List.AList
import Mathlib.Data.List.Flatten
import Q3df.Library.Delimited
import Q3df.Library.Transition
import Q3df.Client.Utils

namespace Q3df.Client

open Q3df.Delimited Q3df.Transition

/-- A key with its value. -/
abbrev InfoEntry := Sigma fun _ : CString => CString

/-- One pair as the string spells it. -/
def encodeEntry (entry : InfoEntry) : CString := '\\' :: (entry.1 ++ '\\' :: entry.2)

/-- The pairs one after the other. -/
def encodeEntries (entries : List InfoEntry) : CString := entries.flatMap encodeEntry

/-- No key and no value contains a backslash. -/
def NoBackslash (entries : List InfoEntry) : Prop :=
  ∀ entry ∈ entries, '\\' ∉ entry.1 ∧ '\\' ∉ entry.2

instance (entries : List InfoEntry) : Decidable (NoBackslash entries) :=
  inferInstanceAs (Decidable (∀ entry ∈ entries, '\\' ∉ entry.1 ∧ '\\' ∉ entry.2))

mutual

/-- The keys of an info string, with the characters of the current key so far. -/
def infoKeysFromKey (pkey : CString) : CString → List CString
  | [] => []
  | c :: s => if c = '\\' then pkey :: infoKeysFromValue s else infoKeysFromKey (pkey ++ [c]) s
termination_by structural s => s

def infoKeysFromValue : CString → List CString
  | [] => []
  | c :: s => if c = '\\' then infoKeysFromKey [] s else infoKeysFromValue s
termination_by structural s => s

end

/-- The keys of an info string, in the order the scanners meet them. -/
def infoKeys : CString → List CString
  | [] => []
  | c :: s => if c = '\\' then infoKeysFromKey [] s else infoKeysFromKey [] (c :: s)

/-!
### The scanners on a pair

Each loop runs over the characters up to the next backslash.
-/

section Scanners

variable {key pkey value before passed s k v : CString}

/-- Behind a key the scanner goes on with the value. -/
theorem infoScanKey_of_key (clean : '\\' ∉ k) :
    infoScanKey key pkey (k ++ '\\' :: s) = infoScanValue key (pkey ++ k) [] s := by
  have step (collected : CString) (c : Char) (s : CString) (other : c ≠ '\\') :
      infoScanKey key collected (c :: s) = infoScanKey key (collected ++ [c]) s := by
    rw [infoScanKey, if_neg other]
  rw [collect_of_notMem step clean, infoScanKey, if_pos rfl]

theorem infoScanValue_collect (clean : '\\' ∉ v) :
    infoScanValue key pkey value (v ++ s) = infoScanValue key pkey (value ++ v) s := by
  have step (collected : CString) (c : Char) (s : CString) (other : c ≠ '\\') :
      infoScanValue key pkey collected (c :: s) = infoScanValue key pkey (collected ++ [c]) s := by
    rw [infoScanValue, if_neg other]
  exact collect_of_notMem step clean value s

/-- The last value is returned if its key is the one asked for. Otherwise the
answer is empty. -/
theorem infoScanValue_of_lastValue (clean : '\\' ∉ v) :
    infoScanValue key pkey [] v = if key = pkey then v else [] := by
  have collected := @infoScanValue_collect key pkey [] [] v clean
  rw [List.append_nil, List.nil_append] at collected
  rw [collected, infoScanValue]

/-- A value with a pair behind it is returned if its key is the one asked for.
Otherwise the scan goes on. -/
theorem infoScanValue_of_value (clean : '\\' ∉ v) :
    infoScanValue key pkey [] (v ++ '\\' :: s) = if key = pkey then v else infoScanKey key [] s := by
  rw [infoScanValue_collect clean, infoScanValue, if_pos rfl, List.nil_append]

/-- Behind a key the scanner has passed the key and its backslash. -/
theorem infoRemoveScanKey_of_key (clean : '\\' ∉ k) :
    infoRemoveScanKey key before passed [] (k ++ '\\' :: s) =
      infoRemoveScanValue key before (passed ++ k ++ ['\\']) k s := by
  have step (collected : CString) (c : Char) (s : CString) (other : c ≠ '\\') :
      infoRemoveScanKey key before (passed ++ collected) collected (c :: s) =
        infoRemoveScanKey key before (passed ++ (collected ++ [c])) (collected ++ [c]) s := by
    rw [infoRemoveScanKey, if_neg other, List.append_assoc]
  have collected := @collect_of_notMem _ _ _
    (fun collected => infoRemoveScanKey key before (passed ++ collected) collected) step k clean []
    ('\\' :: s)
  rw [List.append_nil, List.nil_append] at collected
  rw [collected, infoRemoveScanKey, if_pos rfl]

theorem infoRemoveScanValue_collect (clean : '\\' ∉ v) :
    infoRemoveScanValue key before passed pkey (v ++ s) =
      infoRemoveScanValue key before (passed ++ v) pkey s := by
  have step (collected : CString) (c : Char) (s : CString) (other : c ≠ '\\') :
      infoRemoveScanValue key before collected pkey (c :: s) =
        infoRemoveScanValue key before (collected ++ [c]) pkey s := by
    rw [infoRemoveScanValue, if_neg other]
  exact @collect_of_notMem _ _ _ (fun collected => infoRemoveScanValue key before collected pkey) step v
    clean passed s

/-- The last pair is cut off if its key is the one to remove. -/
theorem infoRemoveScanValue_of_lastValue (clean : '\\' ∉ v) :
    infoRemoveScanValue key before passed pkey v =
      if key = pkey then before else before ++ passed ++ v := by
  have collected := @infoRemoveScanValue_collect key pkey before passed [] v clean
  rw [List.append_nil] at collected
  rw [collected, infoRemoveScanValue, List.append_assoc]

/-- A pair in the middle is cut out if its key is the one to remove. Otherwise
it joins what was passed. -/
theorem infoRemoveScanValue_of_value (clean : '\\' ∉ v) :
    infoRemoveScanValue key before passed pkey (v ++ '\\' :: s) =
      if key = pkey then before ++ '\\' :: s
      else infoRemoveScanKey key (before ++ passed ++ v) ['\\'] [] s := by
  rw [infoRemoveScanValue_collect clean, infoRemoveScanValue, if_pos rfl, List.append_assoc]

theorem infoKeysFromKey_of_key (clean : '\\' ∉ k) :
    infoKeysFromKey [] (k ++ '\\' :: s) = k :: infoKeysFromValue s := by
  have step (collected : CString) (c : Char) (s : CString) (other : c ≠ '\\') :
      infoKeysFromKey collected (c :: s) = infoKeysFromKey (collected ++ [c]) s := by
    rw [infoKeysFromKey, if_neg other]
  rw [collect_of_notMem step clean, infoKeysFromKey, if_pos rfl, List.nil_append]

theorem infoKeysFromValue_collect (clean : '\\' ∉ v) :
    infoKeysFromValue (v ++ s) = infoKeysFromValue s := by
  have step (_collected : CString) (c : Char) (s : CString) (other : c ≠ '\\') :
      infoKeysFromValue (c :: s) = infoKeysFromValue s := by
    rw [infoKeysFromValue, if_neg other]
  exact @collect_of_notMem _ _ _ (fun _ => infoKeysFromValue) step v clean [] s

theorem infoKeysFromValue_of_value (clean : '\\' ∉ v) :
    infoKeysFromValue (v ++ '\\' :: s) = infoKeysFromKey [] s := by
  rw [infoKeysFromValue_collect clean, infoKeysFromValue, if_pos rfl]

theorem infoKeysFromValue_of_lastValue (clean : '\\' ∉ v) : infoKeysFromValue v = [] := by
  have collected := @infoKeysFromValue_collect [] v clean
  rw [List.append_nil] at collected
  rw [collected, infoKeysFromValue]

end Scanners

/-!
### The scanners on a list of pairs

By induction on the pairs. Behind a pair that is not the one looked for, the
scanner starts afresh.
-/

section Encoded

variable {entry : InfoEntry} {entries : List InfoEntry} {key before : CString}

theorem NoBackslash.head (clean : NoBackslash (entry :: entries)) :
    '\\' ∉ entry.1 ∧ '\\' ∉ entry.2 := clean entry List.mem_cons_self

theorem NoBackslash.tail (clean : NoBackslash (entry :: entries)) : NoBackslash entries :=
  fun other inTail => clean other (List.mem_cons_of_mem entry inTail)

/-- The tail of a spelled list starts with the backslash of its first pair. -/
theorem encodeEntries_cons : encodeEntries (entry :: entries) =
    '\\' :: (entry.1 ++ '\\' :: (entry.2 ++ encodeEntries entries)) := by
  simp [encodeEntries, encodeEntry]

/-- The scanner finds what a lookup in the list of pairs finds. -/
theorem infoScanKey_encode (clean : NoBackslash (entry :: entries)) :
    infoScanKey key [] (entry.1 ++ '\\' :: (entry.2 ++ encodeEntries entries)) =
      (List.dlookup key (entry :: entries)).getD [] := by
  induction entries generalizing entry with
  | nil =>
      rw [infoScanKey_of_key clean.head.1, encodeEntries, List.flatMap_nil, List.append_nil,
        infoScanValue_of_lastValue clean.head.2, List.nil_append]
      by_cases same : key = entry.1
      · subst same
        rw [if_pos rfl, List.dlookup_cons_eq, Option.getD_some]
      · rw [if_neg same, List.dlookup_cons_ne _ _ same]
        rfl
  | cons next entries inductionHypothesis =>
      rw [infoScanKey_of_key clean.head.1, encodeEntries_cons, infoScanValue_of_value clean.head.2,
        List.nil_append]
      by_cases same : key = entry.1
      · subst same
        rw [if_pos rfl, List.dlookup_cons_eq, Option.getD_some]
      · rw [if_neg same, List.dlookup_cons_ne _ _ same]
        exact inductionHypothesis clean.tail

/-- The lookup in a spelled list is the lookup in the list. -/
theorem infoValueForKey_encode (clean : NoBackslash entries)
    (fits : (encodeEntries entries).length < bigInfoString) :
    infoValueForKey (encodeEntries entries) key = (List.dlookup key entries).getD [] := by
  simp only [infoValueForKey, if_neg (Nat.not_le.mpr fits)]
  cases entries with
  | nil => rfl
  | cons entry entries =>
      rw [encodeEntries_cons]
      exact infoScanKey_encode clean

/-- The scanner removes what erasing the key from the list of pairs removes. -/
theorem infoRemoveScanKey_encode (clean : NoBackslash (entry :: entries)) :
    infoRemoveScanKey key before ['\\'] []
        (entry.1 ++ '\\' :: (entry.2 ++ encodeEntries entries)) =
      before ++ encodeEntries (List.kerase key (entry :: entries)) := by
  induction entries generalizing entry before with
  | nil =>
      rw [infoRemoveScanKey_of_key clean.head.1, encodeEntries, List.flatMap_nil, List.append_nil,
        infoRemoveScanValue_of_lastValue clean.head.2]
      by_cases same : key = entry.1
      · rw [if_pos same, List.kerase_cons_eq same]
        simp [encodeEntries]
      · rw [if_neg same, List.kerase_cons_ne same, encodeEntries_cons]
        simp [encodeEntries]
  | cons next entries inductionHypothesis =>
      rw [infoRemoveScanKey_of_key clean.head.1, encodeEntries_cons,
        infoRemoveScanValue_of_value clean.head.2]
      by_cases same : key = entry.1
      · rw [if_pos same, List.kerase_cons_eq same, encodeEntries_cons]
      · rw [if_neg same, List.kerase_cons_ne same, encodeEntries_cons, inductionHypothesis clean.tail]
        simp

/-- Removing a key from a spelled list spells the list without the key. -/
theorem infoRemoveKey_encode (clean : NoBackslash entries) (cleanKey : '\\' ∉ key) :
    (infoRemoveKey (encodeEntries entries) key).infoString =
      encodeEntries (List.kerase key entries) := by
  simp only [infoRemoveKey, if_neg cleanKey]
  cases entries with
  | nil => rfl
  | cons entry entries =>
      rw [encodeEntries_cons]
      exact infoRemoveScanKey_encode clean

/-- The keys read off the string are those of the list, in the same order. -/
theorem infoKeysFromKey_encode (clean : NoBackslash (entry :: entries)) :
    infoKeysFromKey [] (entry.1 ++ '\\' :: (entry.2 ++ encodeEntries entries)) =
      List.keys (entry :: entries) := by
  induction entries generalizing entry with
  | nil =>
      rw [infoKeysFromKey_of_key clean.head.1, encodeEntries, List.flatMap_nil, List.append_nil,
        infoKeysFromValue_of_lastValue clean.head.2]
      rfl
  | cons next entries inductionHypothesis =>
      rw [infoKeysFromKey_of_key clean.head.1, encodeEntries_cons,
        infoKeysFromValue_of_value clean.head.2, inductionHypothesis clean.tail]
      rfl

/-- The scanners meet the keys of the list, in its order. -/
theorem infoKeys_encode (clean : NoBackslash entries) :
    infoKeys (encodeEntries entries) = List.keys entries := by
  cases entries with
  | nil => rfl
  | cons entry entries =>
      rw [encodeEntries_cons]
      exact infoKeysFromKey_encode clean

end Encoded

/-!
### Sequences of calls

Calls as data, the condition that a call's pair fits, and what it means for a
string to implement a map of keys to values.
-/

/-- One call that changes an info string. -/
inductive InfoOp where
  | setValue (key value : CString)
  | removeKey (key : CString)
deriving Repr, DecidableEq

namespace InfoOp

def key : InfoOp → CString
  | setValue key _ | removeKey key => key

/-- The value the call leaves for its key. -/
def value : InfoOp → CString
  | setValue _ value => value
  | removeKey _ => []

def apply (op : InfoOp) (infoString : CString) : CString :=
  match op with
  | setValue key value => (infoSetValueForKey infoString key value).infoString
  | removeKey key => (infoRemoveKey infoString key).infoString

/-- Key and value are free of backslash, semicolon and double quote. -/
def Legal (op : InfoOp) : Prop := ∀ c ∈ infoBlacklist, c ∉ op.key ∧ c ∉ op.value

instance (op : InfoOp) : Decidable op.Legal :=
  List.decidableBAll (fun c => c ∉ op.key ∧ c ∉ op.value) infoBlacklist

end InfoOp

/-- The calls as a transition system. -/
def infoStep (infoString : CString) (op : InfoOp) : Option CString := some (op.apply infoString)

/-- The string stays below `BIG_INFO_STRING` when the call puts its pair in
front. -/
def InfoFits (infoString : CString) (op : InfoOp) : Prop :=
  op.value ≠ [] →
    op.key.length + op.value.length + 2 + (infoRemoveKey infoString op.key).infoString.length <
      bigInfoString

instance (infoString : CString) (op : InfoOp) : Decidable (InfoFits infoString op) :=
  inferInstanceAs (Decidable (_ → _))

/-- The value the last call for the key has left; empty if there was none. -/
def lastValue (ops : List InfoOp) (key : CString) : CString :=
  ops.foldl (fun value op => if op.key = key then op.value else value) []

/-- The string has no key twice, the lookup of every key gives this value, and a
further call changes the lookup of no other key. -/
structure ImplementsMap (infoString : CString) (value : CString → CString) : Prop where
  uniqueKeys : (infoKeys infoString).Nodup
  lookup : ∀ key, infoValueForKey infoString key = value key
  otherKeys : ∀ op : InfoOp, op.Legal → InfoFits infoString op → ∀ key, key ≠ op.key →
    infoValueForKey (op.apply infoString) key = infoValueForKey infoString key

/-!
### The map behind an info string

A string spells a map when it is the encoding of pairs with distinct keys that
the map holds. Removing a key and putting a pair in front carry over to the map.
-/

/-- What an info string is for: finitely many keys, each with one value. -/
abbrev InfoMap := AList fun _ : CString => CString

namespace InfoMap

/-- The value of the key; empty if the map does not have the key. -/
def valueOf (map : InfoMap) (key : CString) : CString := (map.lookup key).getD []

/-- A lookup after an insertion finds the new value at its key and the old ones
elsewhere. -/
theorem valueOf_insert {map : InfoMap} {key other value : CString} :
    InfoMap.valueOf (map.insert key value) other = if key = other then value else map.valueOf other := by
  by_cases same : key = other
  · subst same
    rw [if_pos rfl, InfoMap.valueOf, AList.lookup_insert, Option.getD_some]
  · rw [if_neg same, InfoMap.valueOf, AList.lookup_insert_ne (Ne.symm same), InfoMap.valueOf]

/-- A lookup after a removal finds nothing at the key and the old values
elsewhere. -/
theorem valueOf_erase {map : InfoMap} {key other : CString} :
    InfoMap.valueOf (map.erase key) other = if key = other then [] else map.valueOf other := by
  by_cases same : key = other
  · subst same
    rw [if_pos rfl, InfoMap.valueOf, AList.lookup_erase, Option.getD_none]
  · rw [if_neg same, InfoMap.valueOf, AList.lookup_erase_ne (Ne.symm same), InfoMap.valueOf]

end InfoMap

/-- What a call does to the map. Setting a key to the empty value removes it. -/
def InfoOp.applyMap (map : InfoMap) : InfoOp → InfoMap
  | setValue key value => if value = [] then map.erase key else map.insert key value
  | removeKey key => map.erase key

/-- After a call its own key has the value of the call, and every other key the
value it had. -/
theorem InfoOp.valueOf_applyMap {map : InfoMap} {key : CString} (op : InfoOp) :
    InfoMap.valueOf (op.applyMap map) key = if op.key = key then op.value else map.valueOf key := by
  cases op with
  | setValue changed value =>
      rw [applyMap]
      split
      case isTrue empty =>
        rw [InfoMap.valueOf_erase, InfoOp.key, InfoOp.value, empty]
      case isFalse =>
        rw [InfoMap.valueOf_insert, InfoOp.key, InfoOp.value]
  | removeKey changed => exact InfoMap.valueOf_erase

/-- The representation: the string spells the pairs of the map in order,
unambiguously and within `BIG_INFO_STRING`. -/
structure Spells (infoString : CString) (map : InfoMap) : Prop where
  spelled : infoString = encodeEntries map.entries
  clean : NoBackslash map.entries
  fits : infoString.length < bigInfoString

namespace Spells

variable {infoString key : CString} {map : InfoMap} {op : InfoOp}

theorem empty : Spells [] ∅ where
  spelled := rfl
  clean := by simp [NoBackslash]
  fits := by decide

/-- `Info_ValueForKey` is the lookup in the map a string spells. -/
theorem valueForKey (spells : Spells infoString map) :
    infoValueForKey infoString key = map.valueOf key := by
  have fits := spells.fits
  rw [spells.spelled] at fits ⊢
  exact infoValueForKey_encode spells.clean fits

/-- No key stands twice in a string that spells a map. -/
theorem uniqueKeys (spells : Spells infoString map) : (infoKeys infoString).Nodup := by
  rw [spells.spelled, infoKeys_encode spells.clean]
  exact map.keys_nodup

/-- `Info_RemoveKey` erases the key from the map a string spells. -/
theorem removeKey (spells : Spells infoString map) (cleanKey : '\\' ∉ key) :
    Spells (infoRemoveKey infoString key).infoString (map.erase key) := by
  have spelled : (infoRemoveKey infoString key).infoString = encodeEntries (map.erase key).entries := by
    rw [spells.spelled, infoRemoveKey_encode spells.clean cleanKey]
    rfl
  have sublist : (map.erase key).entries.Sublist map.entries := List.kerase_sublist key map.entries
  refine ⟨spelled, ?_, ?_⟩
  · intro entry kept
    exact spells.clean entry (sublist.subset kept)
  · have shorter := (List.Sublist.flatMap sublist encodeEntry).length_le
    have fits := spells.fits
    rw [spells.spelled] at fits
    rw [spelled]
    exact Nat.lt_of_le_of_lt shorter fits

/-- A pair put in front of what is left after the removal is an insertion into
the map. -/
theorem insert {value : CString} (spells : Spells infoString map)
    (cleanKey : '\\' ∉ key) (cleanValue : '\\' ∉ value)
    (room : key.length + value.length + 2 + (infoRemoveKey infoString key).infoString.length <
      bigInfoString) :
    Spells ('\\' :: key ++ '\\' :: value ++ (infoRemoveKey infoString key).infoString)
      (map.insert key value) := by
  have removed := spells.removeKey cleanKey
  refine ⟨?_, ?_, ?_⟩
  · rw [removed.spelled]
    rfl
  · intro entry inserted
    rcases List.mem_cons.mp inserted with new | kept
    · rw [new]
      exact ⟨cleanKey, cleanValue⟩
    · exact removed.clean entry kept
  · rw [List.length_append, List.length_append, List.length_cons, List.length_cons]
    omega

end Spells

/-!
### The string follows the map

One call keeps the representation, so every sequence of calls does, and the
lookups at the end are those of the map.
-/

section Refinement

variable {infoString : CString} {map : InfoMap} {op : InfoOp} {ops : List InfoOp}

theorem InfoOp.Legal.cleanKey (legal : op.Legal) : '\\' ∉ op.key := (legal '\\' (by decide)).1

theorem InfoOp.Legal.cleanValue (legal : op.Legal) : '\\' ∉ op.value := (legal '\\' (by decide)).2

/-- A legal pair that fits is put in front of what the removal leaves. -/
theorem infoSetValueForKey_of_legal {key value : CString} (legal : (InfoOp.setValue key value).Legal)
    (fits : InfoFits infoString (.setValue key value)) :
    (infoSetValueForKey infoString key value).infoString =
      if value = [] then (infoRemoveKey infoString key).infoString
      else '\\' :: key ++ '\\' :: value ++ (infoRemoveKey infoString key).infoString := by
  have allowed : infoBlacklist.find? (fun c => key.contains c || value.contains c) = none := by
    rw [List.find?_eq_none]
    intro c listed
    have free := legal c listed
    simp only [InfoOp.key, InfoOp.value] at free
    simp [free]
  rw [infoSetValueForKey, allowed]
  by_cases empty : value = []
  · simp only [if_pos empty]
  · have room := fits empty
    simp only [InfoOp.key, InfoOp.value] at room
    have pairLength : ('\\' :: key ++ '\\' :: value).length = key.length + value.length + 2 := by
      simp only [List.length_append, List.length_cons]
      omega
    have untruncated : ('\\' :: key ++ '\\' :: value).take (bigInfoString - 1) =
        '\\' :: key ++ '\\' :: value := by
      apply List.take_of_length_le
      omega
    simp only [if_neg empty, untruncated, pairLength]
    rw [if_neg (by omega)]

/-- What one call preserves. -/
theorem Spells.apply (spells : Spells infoString map) (legal : op.Legal)
    (fits : InfoFits infoString op) : Spells (op.apply infoString) (op.applyMap map) := by
  cases op with
  | setValue key value =>
      rw [InfoOp.apply, infoSetValueForKey_of_legal legal fits, InfoOp.applyMap]
      split
      case isTrue => exact spells.removeKey legal.cleanKey
      case isFalse nonempty =>
        exact spells.insert legal.cleanKey legal.cleanValue (fits nonempty)
  | removeKey key => exact spells.removeKey legal.cleanKey

/-- A call changes the lookup of no other key. -/
theorem Spells.otherKeys {key : CString} (spells : Spells infoString map) (legal : op.Legal)
    (fits : InfoFits infoString op) (other : key ≠ op.key) :
    infoValueForKey (op.apply infoString) key = infoValueForKey infoString key := by
  rw [(spells.apply legal fits).valueForKey, spells.valueForKey, InfoOp.valueOf_applyMap,
    if_neg (Ne.symm other)]

/-- What a run preserves, and the lookups it ends with. -/
theorem Spells.run {final : CString} (spells : Spells infoString map) (legal : ∀ op ∈ ops, op.Legal)
    (fits : StepsMeet infoStep InfoFits infoString ops)
    (ran : Transition.run infoStep infoString ops = some final) :
    Spells final (ops.foldl (fun map op => op.applyMap map) map) := by
  induction ops generalizing infoString map with
  | nil =>
      cases ran
      exact spells
  | cons op ops inductionHypothesis =>
      obtain ⟨next, stepped, rest⟩ := run_cons_eq_some.mp ran
      have applied := spells.apply (legal op List.mem_cons_self) fits.1
      have restFits := fits.2 next stepped
      cases stepped
      exact inductionHypothesis applied (fun op inRest => legal op (List.mem_cons_of_mem _ inRest))
        restFits rest

/-- After a sequence of calls a key has the value the last call for it has set. -/
theorem valueOf_foldl_applyMap {key : CString} :
    InfoMap.valueOf (ops.foldl (fun map op => op.applyMap map) map) key =
      ops.foldl (fun value op => if op.key = key then op.value else value) (map.valueOf key) := by
  induction ops generalizing map with
  | nil => rfl
  | cons op ops inductionHypothesis =>
      rw [List.foldl_cons, List.foldl_cons, inductionHypothesis, InfoOp.valueOf_applyMap]

end Refinement

/-- The string any sequence of calls builds is a map from each key to the last
value set. -/
theorem infoString_implements_map {ops : List InfoOp} {infoString : CString}
    (legal : ∀ op ∈ ops, op.Legal) (fits : StepsMeet infoStep InfoFits [] ops)
    (ran : run infoStep [] ops = some infoString) : ImplementsMap infoString (lastValue ops) := by
  have spells := Spells.empty.run legal fits ran
  refine ⟨spells.uniqueKeys, ?_, ?_⟩
  · intro key
    rw [spells.valueForKey, valueOf_foldl_applyMap]
    rfl
  · intro op opLegal opFits key other
    exact spells.otherKeys opLegal opFits other

/-- A key that is a prefix and a value of another, an empty key, a removal and
an empty value. -/
theorem infoString_implements_map_prefixes :
    ImplementsMap "\\rate\\r\\r\\rate".toList
      (lastValue [.setValue "".toList "x".toList, .setValue "r".toList "rate".toList,
        .setValue "rate".toList "r".toList, .setValue "".toList "".toList,
        .removeKey "name".toList]) :=
  infoString_implements_map (by decide) (by decide) (by decide)

end Q3df.Client
