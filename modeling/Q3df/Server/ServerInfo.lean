/-
Module: Q3df.Server.ServerInfo
Layer: Server
Purpose: The two readers of a server info string, the scanner of the client and the splitting of the
  daemon, on the strings that spell a list of pairs. The daemon's split loses the last value when it is
  empty, and then drops the whole string for its odd number of parts; the client gives up on strings of
  BIG_INFO_STRING characters and more. Apart from that they read the same.
Imports: Q3df.Client.InfoMap, Q3df.Server.ClientList
Trusted boundary: the string of Register is the engine's from its second character on
Main exports: serverInfoString, fields, serverInfoString_encode, lookup_split_encode,
  serverInfo_agrees_iff
Open obligations: none
-/
import Q3df.Client.InfoMap
import Q3df.Server.ClientList

namespace Q3df.Server

open Q3df.Client Q3df.Delimited

/-- `configString+1`, the string the client registers with. -/
def serverInfoString (configString : Client.CString) : Client.CString := configString.drop 1

/-- Keys and values in turn, as the backslashes separate them. -/
def fields (entries : List InfoEntry) : List StdString :=
  entries.flatMap fun entry => [entry.1, entry.2]

section Fields

variable {entry : InfoEntry} {entries : List InfoEntry}

theorem fields_cons : fields (entry :: entries) = entry.1 :: entry.2 :: fields entries := rfl

/-- A list of pairs has twice as many fields. -/
theorem fields_length : (fields entries).length = 2 * entries.length := by
  induction entries with
  | nil => rfl
  | cons entry entries inductionHypothesis =>
      rw [fields_cons, List.length_cons, List.length_cons, List.length_cons, inductionHypothesis]
      omega

theorem fields_ne_nil (nonempty : entries ≠ []) : fields entries ≠ [] := by
  intro none
  have length := @fields_length entries
  rw [none, List.length_nil] at length
  have positive := List.length_pos_iff.mpr nonempty
  omega

/-- The last part is the last value. -/
theorem fields_getLast (nonempty : entries ≠ []) :
    (fields entries).getLast (fields_ne_nil nonempty) = (entries.getLast nonempty).2 := by
  induction entries with
  | nil => exact absurd rfl nonempty
  | cons entry entries inductionHypothesis =>
      cases entries with
      | nil => rfl
      | cons next entries =>
          have rest := inductionHypothesis (List.cons_ne_nil next entries)
          rw [List.getLast_cons (List.cons_ne_nil next entries), ← rest]
          rfl

theorem fields_clean (clean : NoBackslash entries) : ∀ part ∈ fields entries, '\\' ∉ part := by
  intro part inFields
  obtain ⟨entry, listed, isPart⟩ := List.mem_flatMap.mp inFields
  rcases List.mem_cons.mp isPart with isKey | isValue
  · rw [isKey]
    exact (clean entry listed).1
  · rw [List.mem_singleton.mp isValue]
    exact (clean entry listed).2

/-- Without its leading backslash the string is the fields with a backslash
between two of them. -/
theorem serverInfoString_encode (nonempty : entries ≠ []) :
    serverInfoString (encodeEntries entries) = List.intercalate ['\\'] (fields entries) := by
  induction entries with
  | nil => exact absurd rfl nonempty
  | cons entry entries inductionHypothesis =>
      cases entries with
      | nil => simp [serverInfoString, encodeEntries, encodeEntry, fields, List.intercalate]
      | cons next entries =>
          have rest := inductionHypothesis (List.cons_ne_nil next entries)
          rw [encodeEntries_cons] at rest
          rw [serverInfoString, List.drop_one, List.tail_cons] at rest
          rw [encodeEntries_cons, serverInfoString, List.drop_one, List.tail_cons, fields_cons,
            List.intercalate_cons_cons, fields_cons, List.intercalate_cons_cons, ← fields_cons, ← rest,
            encodeEntries_cons]
          simp

end Fields

/-!
### The daemon's reader

The string is cut at its backslashes, and the parts are put into a map two by two.
-/

section Daemon

variable {entries : List InfoEntry} {key : StdString}

/-- The loop puts the pairs of the list into the map. -/
theorem lookup_insertElems (distinct : (List.keys entries).Nodup) (index : Nat) (item : StdString)
    (info : ServerInfo) (even : index % 2 = 0) :
    (ClientInfo.insertElems index item info (fields entries)).lookup key =
      (List.dlookup key entries).or (info.lookup key) := by
  induction entries generalizing index item info with
  | nil => rfl
  | cons entry entries inductionHypothesis =>
      rw [List.keys_cons, List.nodup_cons] at distinct
      rw [fields_cons, ClientInfo.insertElems, if_neg (by omega), ClientInfo.insertElems,
        if_pos (by omega), inductionHypothesis distinct.2 _ _ _ (by omega)]
      by_cases same : key = entry.1
      · subst same
        rw [List.dlookup_eq_none.mpr distinct.1, AList.lookup_insert, List.dlookup_cons_eq]
        rfl
      · rw [AList.lookup_insert_ne same, List.dlookup_cons_ne _ _ same]

/-- What the daemon reads: all the pairs, or nothing if the last value is empty. -/
theorem lookup_split_encode (nonempty : entries ≠ []) (distinct : (List.keys entries).Nodup)
    (clean : NoBackslash entries) :
    (ClientInfo.split (serverInfoString (encodeEntries entries)) '\\').lookup key =
      if (entries.getLast nonempty).2 = [] then none else List.dlookup key entries := by
  have elems : splitFrom '\\' [] (serverInfoString (encodeEntries entries)) =
      if (entries.getLast nonempty).2 = [] then (fields entries).dropLast else fields entries := by
    rw [serverInfoString_encode nonempty,
      splitFrom_intercalate (fields_clean clean) (fields_ne_nil nonempty), fields_getLast nonempty]
  have length := @fields_length entries
  have positive := List.length_pos_iff.mpr nonempty
  simp only [ClientInfo.split, elems]
  by_cases lastEmpty : (entries.getLast nonempty).2 = []
  · rw [if_pos lastEmpty, if_pos lastEmpty, List.length_dropLast, if_neg (by omega)]
    rfl
  · rw [if_neg lastEmpty, if_neg lastEmpty, if_pos (by omega),
      lookup_insertElems distinct 0 [] ∅ rfl]
    exact Option.or_none

end Daemon

/-!
### The two readers

Both find the value of the first pair with the key, unless the last value is
empty or the string is too long for one of them.
-/

/-- The daemon answers every key as the client does. -/
def ReadersAgree {κ : Type*} (con : κ) (serverId : Int) (configString : Client.CString) : Prop :=
  ∀ key, (ClientInfo.new con serverId (serverInfoString configString)).getServerInfo key =
    infoValueForKey configString key

section Agreement

variable {entries : List InfoEntry}

/-- No key has a value in the list exactly if all values are empty. -/
theorem dlookup_getD_empty_iff (distinct : (List.keys entries).Nodup) :
    (∀ key, (List.dlookup key entries).getD [] = []) ↔ ∀ entry ∈ entries, entry.2 = [] := by
  constructor
  · intro unset entry listed
    have found := List.mem_dlookup distinct listed
    have empty := unset entry.1
    rw [Option.mem_def.mp found, Option.getD_some] at empty
    exact empty
  · intro allEmpty key
    cases found : List.dlookup key entries with
    | none => rfl
    | some value => exact allEmpty ⟨key, value⟩ (List.of_mem_dlookup found)

/-- A string that is too long has no values for `Info_ValueForKey`. -/
theorem infoValueForKey_of_oversize {infoString key : Client.CString}
    (oversize : ¬ infoString.length < bigInfoString) : infoValueForKey infoString key = [] := by
  simp only [infoValueForKey, if_pos (Nat.not_lt.mp oversize)]

/-- The readers agree on a string of pairs exactly if it is short enough for the
client and ends in a value that is not empty, or neither, or has only empty
values. -/
theorem serverInfo_agrees_iff {κ : Type*} {con : κ} {serverId : Int} (nonempty : entries ≠ [])
    (distinct : (List.keys entries).Nodup) (clean : NoBackslash entries) :
    ReadersAgree con serverId (encodeEntries entries) ↔
      (∀ entry ∈ entries, entry.2 = []) ∨
        ((encodeEntries entries).length < bigInfoString ↔ (entries.getLast nonempty).2 ≠ []) := by
  have daemon (key : StdString) :
      (ClientInfo.new con serverId (serverInfoString (encodeEntries entries))).getServerInfo key =
        (if (entries.getLast nonempty).2 = [] then none else List.dlookup key entries).getD [] := by
    rw [ClientInfo.getServerInfo, ClientInfo.new, lookup_split_encode nonempty distinct clean]
  have valuesEmpty := dlookup_getD_empty_iff distinct
  simp only [ReadersAgree, daemon]
  by_cases fits : (encodeEntries entries).length < bigInfoString
  · have client (key : Client.CString) := @infoValueForKey_encode entries key clean fits
    by_cases lastEmpty : (entries.getLast nonempty).2 = []
    · simp only [client, if_pos lastEmpty, Option.getD_none]
      rw [or_iff_left fun both => both.mp fits lastEmpty, ← valuesEmpty]
      exact forall_congr' fun key => eq_comm
    · simp only [client, if_neg lastEmpty]
      exact iff_of_true (fun key => trivial) (.inr (iff_of_true fits lastEmpty))
  · have client (key : Client.CString) := @infoValueForKey_of_oversize (encodeEntries entries) key fits
    by_cases lastEmpty : (entries.getLast nonempty).2 = []
    · simp only [client, if_pos lastEmpty, Option.getD_none]
      exact iff_of_true (fun key => trivial) (.inr (iff_of_false fits (not_not.mpr lastEmpty)))
    · simp only [client, if_neg lastEmpty]
      rw [or_iff_left fun both => fits (both.mpr lastEmpty)]
      exact valuesEmpty

end Agreement

/-- A server without a host name. -/
def mapnameInfo : List InfoEntry :=
  [⟨"sv_maxclients".toList, "8".toList⟩, ⟨"sv_hostname".toList, "".toList⟩,
    ⟨"mapname".toList, "q3dm17".toList⟩]

/-- A short string whose last value is not empty, though one in the middle is. -/
theorem serverInfo_agrees_mapname :
    encodeEntries mapnameInfo = "\\sv_maxclients\\8\\sv_hostname\\\\mapname\\q3dm17".toList ∧
      ReadersAgree () 1 (encodeEntries mapnameInfo) :=
  ⟨by decide, (@serverInfo_agrees_iff mapnameInfo _ () 1 (List.cons_ne_nil _ _) (by decide) (by decide)).mpr
    (by decide)⟩

/-- A map name followed by an empty host name. -/
def emptyHostname : List InfoEntry :=
  [⟨"mapname".toList, "q3dm17".toList⟩, ⟨"sv_hostname".toList, "".toList⟩]

/-- With an empty value last the daemon has no map name either. -/
theorem readers_differ_on_empty_lastValue :
    (List.keys emptyHostname).Nodup ∧ (∀ entry ∈ emptyHostname, entry.1 ≠ []) ∧
      NoBackslash emptyHostname ∧ ¬ ReadersAgree () 1 (encodeEntries emptyHostname) := by
  refine ⟨by decide, by decide, by decide, ?_⟩
  intro agree
  have mapname := agree "mapname".toList
  revert mapname
  decide

end Q3df.Server
