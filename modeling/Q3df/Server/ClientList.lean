/-
Module: Q3df.Server.ClientList
Layer: Server
Purpose: The registered game servers of the daemon: what is kept of one of them, and the list of them by
  connection.
Imports: Mathlib.Data.List.AList, Q3df.Library.Delimited
Trusted boundary: human-reviewed transcription of server/ClientList.{h,cc}; `getline` on a string stream
  as `splitFrom`; a connection is a value with decidable equality
Main exports: StdString, ClientInfo, ClientList
Open obligations: none
-/
import Mathlib.Data.List.AList
import Q3df.Library.Delimited

namespace Q3df.Server

open Q3df.Delimited

/-- A `std::string`. -/
abbrev StdString := List Char

/-- `info_`, a map from key to value. -/
abbrev ServerInfo := AList fun _ : StdString => StdString

/-- `ClientInfo`, for connections `κ`. -/
structure ClientInfo (κ : Type*) where
  con : κ
  serverId : Int
  info : ServerInfo

namespace ClientInfo

variable {κ : Type*}

/-- The loop over the elements: `index`, and `item[0]` so far. -/
def insertElems (index : Nat) (item : StdString) (info : ServerInfo) : List StdString → ServerInfo
  | [] => info
  | elem :: elems =>
      if index % 2 > 0 then insertElems (index + 1) item (info.insert item elem) elems
      else insertElems (index + 1) elem info elems

/-- `ClientInfo::split`. An odd number of elements is dropped as a whole. -/
def split (s : StdString) (delim : Char) : ServerInfo :=
  let elems := splitFrom delim [] s
  if elems.length % 2 = 0 then insertElems 0 [] ∅ elems else ∅

def new (con : κ) (serverId : Int) (serverInfo : StdString) : ClientInfo κ :=
  { con := con, serverId := serverId, info := split serverInfo '\\' }

def getServerInfo (client : ClientInfo κ) (key : StdString) : StdString :=
  (client.info.lookup key).getD []

def getServerId (client : ClientInfo κ) : Int := client.serverId

end ClientInfo

/-- `clList_`. -/
abbrev ClientList (κ : Type*) := AList fun _ : κ => ClientInfo κ

namespace ClientList

variable {κ : Type*} [DecidableEq κ]

/-- A connection that is in the list keeps its entry. -/
def insertClient (clList : ClientList κ) (con : κ) (serverId : Int) (serverInfo : StdString) :
    ClientList κ :=
  if con ∈ clList then clList else clList.insert con (ClientInfo.new con serverId serverInfo)

def deleteClient (clList : ClientList κ) (con : κ) : ClientList κ :=
  if con ∈ clList then clList.erase con else clList

def getClient (clList : ClientList κ) (con : κ) : Option (ClientInfo κ) := clList.lookup con

variable {clList : ClientList κ} {con other : κ} {serverId : Int} {serverInfo : StdString}

/-- Inserting finds the entry that was there, or makes a new one. Other
connections keep theirs. -/
theorem getClient_insertClient :
    (clList.insertClient con serverId serverInfo).getClient other =
      if con = other then some ((clList.getClient con).getD (ClientInfo.new con serverId serverInfo))
      else clList.getClient other := by
  unfold insertClient getClient
  by_cases listed : con ∈ clList
  · obtain ⟨client, found⟩ := Option.isSome_iff_exists.mp (AList.lookup_isSome.mpr listed)
    rw [if_pos listed]
    split
    case isTrue same =>
      rw [← same, found, Option.getD_some]
    case isFalse => rfl
  · rw [if_neg listed]
    split
    case isTrue same =>
      rw [← same, AList.lookup_insert, AList.lookup_eq_none.mpr listed, Option.getD_none]
    case isFalse differ =>
      rw [AList.lookup_insert_ne (Ne.symm differ)]

/-- Deleting takes away the entry of its connection only. -/
theorem getClient_deleteClient :
    (clList.deleteClient con).getClient other =
      if con = other then none else clList.getClient other := by
  unfold deleteClient getClient
  by_cases listed : con ∈ clList
  · rw [if_pos listed]
    split
    case isTrue same =>
      rw [← same, AList.lookup_erase]
    case isFalse differ =>
      rw [AList.lookup_erase_ne (Ne.symm differ)]
  · rw [if_neg listed]
    split
    case isTrue same =>
      rw [← same, AList.lookup_eq_none.mpr listed]
    case isFalse => rfl

theorem mem_iff_getClient : con ∈ clList ↔ (clList.getClient con).isSome := AList.lookup_isSome.symm

/-- After an insertion the list has its connection, and those it had. -/
theorem mem_insertClient : other ∈ clList.insertClient con serverId serverInfo ↔
    con = other ∨ other ∈ clList := by
  rw [mem_iff_getClient, getClient_insertClient, mem_iff_getClient]
  by_cases same : con = other
  · simp [same]
  · simp [same]

/-- After a deletion the list has the others it had. -/
theorem mem_deleteClient : other ∈ clList.deleteClient con ↔ con ≠ other ∧ other ∈ clList := by
  rw [mem_iff_getClient, getClient_deleteClient, mem_iff_getClient]
  by_cases same : con = other
  · simp [same]
  · simp [same]

end ClientList

end Q3df.Server
