/-
Module: Q3df.Server.HandshakeKeys
Layer: Server
Purpose: Which peers the handshake lets in. The frame is split at its first underscore by a loop with
  signed positions; the headline `handshake_admits_registered_keys` says that exactly the frames with a
  registered id and its key are accepted, and that the proxy's side of the handshake agrees.
Imports: Mathlib.Algebra.Group.Nat.Defs, Q3df.Server.Q3dfEnv
Trusted boundary: human-reviewed transcription of client/Q3Env.h (Handshake). Frames arrive as they were
  sent; `RecvFrame` reads `int(size)` bytes, so a frame that arrives is shorter than 2^31.
Main exports: RegisteredKey, CvarText, handshakeFrame, clientHandshake, daemonReply,
  handshake_admits_registered_keys
Open obligations: none
-/
import Mathlib.Algebra.Group.Nat.Defs
import Q3df.Server.Q3dfEnv

namespace Q3df.Server

/-!
### The split

The key of the peer is cut at its first underscore, in a server's id and the key
itself.
-/

/-- Behind `pos` every character belongs to the key. -/
theorem splitAtPos_after {pos : Int} {index : Nat} (behind : pos < index) (data : StdString) :
    splitAtPos pos index data = ([], data) := by
  induction data generalizing index with
  | nil => rfl
  | cons c rest inductionHypothesis =>
      rw [splitAtPos, inductionHypothesis (by omega)]
      exact if_pos behind

/-- Before `pos` every character belongs to the id; the one at `pos` is dropped. -/
theorem splitAtPos_append {pos index : Nat} {serverId rest : StdString} {c : Char}
    (found : pos = index + serverId.length) :
    splitAtPos pos index (serverId ++ c :: rest) = (serverId, rest) := by
  induction serverId generalizing index with
  | nil =>
      rw [List.length_nil] at found
      rw [List.nil_append, splitAtPos, splitAtPos_after (by omega)]
      simp only [found, Nat.add_zero, gt_iff_lt, Int.lt_irrefl, if_false]
  | cons first others inductionHypothesis =>
      rw [List.length_cons] at found
      rw [List.cons_append, splitAtPos, inductionHypothesis (by omega)]
      have before : (index : Int) < (pos : Int) := by omega
      have notBehind : ¬ (index : Int) > (pos : Int) := by omega
      simp only [notBehind, if_false, before, if_true]

/-- A frame without an underscore is all key. -/
theorem handshakeParts_of_free {data : StdString} (free : '_' ∉ data) :
    handshakeParts data = ([], data) := by
  have missing : data.findIdx? (· = '_') = none := by
    rw [List.findIdx?_eq_none_iff]
    intro c member
    simpa using fun same : c = '_' => free (same ▸ member)
  rw [handshakeParts, underscorePos, missing]
  exact splitAtPos_after (by decide) data

/-- The first underscore stands behind an id that has none. -/
theorem findIdx?_append {serverId : StdString} (free : '_' ∉ serverId) (apikey : StdString) :
    (serverId ++ '_' :: apikey).findIdx? (· = '_') = some serverId.length := by
  have missing : serverId.findIdx? (· = '_') = none := by
    rw [List.findIdx?_eq_none_iff]
    intro c member
    simpa using fun same : c = '_' => free (same ▸ member)
  rw [List.findIdx?_append, missing, List.findIdx?_cons]
  simp

/-- A frame is split at its first underscore when the position fits into an
`int`. -/
theorem handshakeParts_append {serverId : StdString} (free : '_' ∉ serverId)
    (short : serverId.length < 2 ^ 31) (apikey : StdString) :
    handshakeParts (serverId ++ '_' :: apikey) = (serverId, apikey) := by
  have exact : (BitVec.ofNat 32 serverId.length).toInt = serverId.length := by
    have value : (BitVec.ofNat 32 serverId.length).toNat = serverId.length :=
      Nat.mod_eq_of_lt (by omega)
    rw [BitVec.toInt_eq_toNat_of_lt (by omega), value]
  rw [handshakeParts, underscorePos, findIdx?_append free, Option.elim_some, exact]
  exact splitAtPos_append (Nat.zero_add _).symm

/-!
### The rule

The peer is admitted if the setting named after the id is there and equals the key.
-/

/-- The frame is `id_key` with an id without underscores, and the settings hold
that key for that id. -/
def RegisteredKey (settings : SettingsMap) (data : StdString) : Prop :=
  ∃ id key, data = id ++ '_' :: key ∧ id ≠ [] ∧ '_' ∉ id ∧ key ≠ [] ∧
    settings.lookup (apikeySetting id) = some key

/-- The tests of `Handshake` on a frame, when `OK` can be sent. -/
theorem handshake_accepted_iff {settings : SettingsMap} {data : StdString} :
    (handshake settings (some data) true).accepted = true ↔
      (data.length > 0 ∧ data.findIdx? (· = '_') ≠ some 0) ∧
        (handshakeParts data).2 ≠ [] ∧ (handshakeParts data).1 ≠ [] ∧
        settings.lookup (apikeySetting (handshakeParts data).1) = some (handshakeParts data).2 := by
  have known (key : StdString) : (apikeySetting (handshakeParts data).1 ∈ settings ∧
      (settings.lookup (apikeySetting (handshakeParts data).1)).getD [] = key) ↔
        settings.lookup (apikeySetting (handshakeParts data).1) = some key := by
    rw [← AList.lookup_isSome]
    cases settings.lookup (apikeySetting (handshakeParts data).1) <;> simp
  have nonempty (text : StdString) : text.length > 0 ↔ text ≠ [] := List.length_pos_iff
  rw [← known, ← nonempty, ← nonempty]
  simp only [handshake]
  split_ifs <;> simp_all

/-- A frame is accepted exactly when it shows a registered key. -/
theorem handshake_accepted_iff_registered {settings : SettingsMap} {data : StdString}
    (arrives : data.length < 2 ^ 31) :
    (handshake settings (some data) true).accepted = true ↔ RegisteredKey settings data := by
  rw [handshake_accepted_iff]
  by_cases present : '_' ∈ data
  · obtain ⟨id, key, rfl, free⟩ := List.eq_append_cons_of_mem present
    rw [List.length_append] at arrives
    rw [handshakeParts_append free (by omega), findIdx?_append free]
    constructor
    · rintro ⟨-, keyNonempty, idNonempty, registered⟩
      exact ⟨id, key, rfl, idNonempty, free, keyNonempty, registered⟩
    · rintro ⟨id', key', same, idNonempty, free', keyNonempty, registered⟩
      -- Both decompositions are at the first underscore.
      have parts := handshakeParts_append free' (by
        have length := congrArg List.length same
        rw [List.length_append, List.length_append] at length
        have positive : 0 < ('_' :: key').length := Nat.zero_lt_succ _
        omega) key'
      rw [← same, handshakeParts_append free (by omega)] at parts
      obtain ⟨rfl, rfl⟩ := Prod.mk.inj parts
      have positive := List.length_pos_iff.mpr idNonempty
      refine ⟨⟨?_, ?_⟩, keyNonempty, idNonempty, registered⟩
      · rw [List.length_append]
        omega
      · intro first
        exact absurd (Option.some.inj first) (by omega)
  · rw [handshakeParts_of_free present]
    constructor
    · rintro ⟨-, -, empty, -⟩
      exact absurd rfl empty
    · rintro ⟨id, key, rfl, -⟩
      exact absurd (List.mem_append_right id List.mem_cons_self) present

/-!
### The proxy's side

What the proxy sends, and the answer it waits for.
-/

/-- `vmCvar_t::string`, a text shorter than `MAX_CVAR_VALUE_STRING`. -/
structure CvarText where
  text : StdString
  short : text.length < 256

/-- `serverId + "_" + apikey`. -/
def handshakeFrame (rsServerId rsApiKey : CvarText) : StdString :=
  rsServerId.text ++ "_".toList ++ rsApiKey.text

/-- `Q3Env::Handshake`: send the frame, and compare the reply with `OK`.
`exchange` gives the reply, if the frame could be sent and a reply came. -/
def clientHandshake (rsServerId rsApiKey : CvarText) (exchange : StdString → Option StdString) : Bool :=
  exchange (handshakeFrame rsServerId rsApiKey) == some "OK".toList

/-- The first frame the daemon sends back for a frame that has arrived. -/
def daemonReply (settings : SettingsMap) (frame : StdString) : Option StdString :=
  (handshake settings (some frame) true).frames.head?

/-- The daemon answers with `OK` exactly if the peer is admitted. -/
theorem daemonReply_ok_iff {settings : SettingsMap} {frame : StdString} :
    daemonReply settings frame = some "OK".toList ↔
      (handshake settings (some frame) true).accepted = true := by
  have denied : accessDenied ≠ "OK".toList := by decide
  simp only [daemonReply, handshake, if_true]
  split_ifs <;> simp only [List.head?_cons, Option.some.injEq, denied]

/-- Exactly the registered keys are admitted, and the proxy believes itself
admitted exactly when it is. -/
theorem handshake_admits_registered_keys (settings : SettingsMap) :
    (∀ data : StdString, data.length < 2 ^ 31 →
      ((handshake settings (some data) true).accepted = true ↔ RegisteredKey settings data)) ∧
    (∀ rsServerId rsApiKey : CvarText,
      clientHandshake rsServerId rsApiKey (daemonReply settings) = true ↔
        (handshake settings (some (handshakeFrame rsServerId rsApiKey)) true).accepted = true) := by
  constructor
  · intro data arrives
    exact handshake_accepted_iff_registered arrives
  · intro rsServerId rsApiKey
    rw [clientHandshake, beq_iff_eq, daemonReply_ok_iff]

/-- The settings of one server whose key contains underscores. -/
def underscoreKey : SettingsMap := setSetting ∅ "apikey-7".toList "a_b".toList

theorem twoUnderscores_admitted :
    (handshake underscoreKey (some "7_a_b".toList) true).accepted = true :=
  ((handshake_admits_registered_keys underscoreKey).1 "7_a_b".toList (by decide)).mpr
    ⟨"7".toList, "a_b".toList, rfl, by decide, by decide, by decide, by decide⟩

example : (handshake underscoreKey (some "_a_b".toList) true).accepted = false := by decide

end Q3df.Server
