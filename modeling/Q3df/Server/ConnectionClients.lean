/-
Module: Q3df.Server.ConnectionClients
Layer: Server
Purpose: The list of clients under the threads of the daemon, one step at a time. Connections are
  kept by the order in which they were accepted, since a freed `Conn` leaves its address to a later
  one. In every interleaving the keys of the list are addresses of connections that have not
  executed `ClientDisconnect`, and what `GetClient` returns is what the first `Register` on the same
  connection made.
Imports: Q3df.Library.Transition, Q3df.Server.ClientList
Trusted boundary: human-reviewed transcription of server/ClientList.cc (Insert, Delete, PrintList,
  GetClient), of Register and ClientCommand of server/Q3dfApiImpl.cc and of ServeProc of
  tools/protobuf/src/google/protobuf/rpc/rpc_server_conn.cc; a mutex has one holder; an allocated
  `Conn` has an address of its own
Main exports: ServePhase, ConnectionWorld, ServeAction, ConnectionWorld.step, firstRegister,
  AnswersFirst, ListCall.Effect, ListGuarded, BelongsToLive, client_list_belongs_to_live,
  printed_key_is_live
Open obligations: none
-/
import Q3df.Library.Transition
import Q3df.Server.ClientList

namespace Q3df.Server

open Q3df.Transition

/-- The functions of `ClientList` that the thread of a connection calls:
`Insert` for a `Register`, `GetClient` for a command, `Delete` in
`ClientDisconnect`. -/
inductive ListCall where
  | insert (serverId : Int) (serverInfo : StdString)
  | getClient
  | delete
deriving DecidableEq

/-- Where `ServeProc` is: in the handshake, between two calls, at one of the
four steps of a function of `ClientList`, behind `ClientDisconnect`, or at its
end, with the `Conn` freed. -/
inductive ServePhase where
  | handshake
  | serving
  | lock (call : ListCall)
  | find (call : ListCall)
  | change (call : ListCall) (listed : Bool)
  | unlock (call : ListCall)
  | disconnected
  | freed
deriving DecidableEq

/-- Where the thread is when the function has returned. -/
def ListCall.next : ListCall → ServePhase
  | .insert _ _ | .getClient => .serving
  | .delete => .disconnected

/-- The thread holds the mutex. -/
def ServePhase.locked : ServePhase → Bool
  | .find _ | .change _ _ | .unlock _ => true
  | .handshake | .serving | .lock _ | .disconnected | .freed => false

/-- `ClientDisconnect` has had its effect. -/
def ServePhase.ended : ServePhase → Bool
  | .unlock .delete | .disconnected | .freed => true
  | _ => false

/-- A connection: the address of its `Conn`, and its thread. -/
structure ServedConn (κ : Type*) where
  con : κ
  phase : ServePhase
deriving DecidableEq

/-- Where `PrintList` is, with the keys still to be printed. -/
inductive PrintPhase (κ : Type*) where
  | idle
  | lock
  | print (rest : List κ)
deriving DecidableEq

/-- Who holds `clientMapMtx_`. -/
inductive MutexHolder where
  | conn (i : Nat)
  | console
deriving DecidableEq

/-- History: a `Register`, with the info it makes, and what a `GetClient`
returned. -/
inductive ListEvent (κ : Type*) where
  | registered (i : Nat) (client : ClientInfo κ)
  | found (i : Nat) (ret : Option (ClientInfo κ))

/-- The list, its mutex, all connections in the order they were accepted, and
the console. -/
structure ConnectionWorld (κ : Type*) where
  clList : ClientList κ
  clientMapMtx : Option MutexHolder
  conns : List (ServedConn κ)
  console : PrintPhase κ
  log : List (ListEvent κ)

/-- What happens next: a connection is accepted at an address, a thread ends its
handshake, enters a function of the list, goes on in it, or frees its `Conn`;
the console enters `PrintList` or goes on in it. -/
inductive ServeAction (κ : Type*) where
  | accept (con : κ)
  | handshake (i : Nat) (accepted : Bool)
  | call (i : Nat) (call : ListCall)
  | goOn (i : Nat)
  | free (i : Nat)
  | status
  | print
deriving DecidableEq

namespace ConnectionWorld

variable {κ : Type*} [DecidableEq κ]

def start : ConnectionWorld κ :=
  { clList := ∅, clientMapMtx := none, conns := [], console := .idle, log := [] }

/-- The thread of a connection moves. -/
def setPhase (s : ConnectionWorld κ) (i : Nat) (phase : ServePhase) : ConnectionWorld κ :=
  { s with conns := s.conns.modify i fun c => { c with phase := phase } }

/-- What the functions do after `find`. -/
def change (s : ConnectionWorld κ) (i : Nat) (con : κ) (listed : Bool) : ListCall → ConnectionWorld κ
  | .insert serverId serverInfo =>
      let client := ClientInfo.new con serverId serverInfo
      { s with
        clList := if listed then s.clList else s.clList.insert con client
        log := s.log ++ [.registered i client] }
  | .getClient => { s with log := s.log ++ [.found i (if listed then s.clList.lookup con else none)] }
  | .delete => { s with clList := if listed then s.clList.erase con else s.clList }

/-- A function of the list as a whole, on the list as `ClientList` has it. -/
def whole (s : ConnectionWorld κ) (i : Nat) (con : κ) : ListCall → ConnectionWorld κ
  | .insert serverId serverInfo =>
      { s with
        clList := s.clList.insertClient con serverId serverInfo
        log := s.log ++ [.registered i (ClientInfo.new con serverId serverInfo)] }
  | .getClient => { s with log := s.log ++ [.found i (s.clList.getClient con)] }
  | .delete => { s with clList := s.clList.deleteClient con }

/-- A function of the list goes on by one step. `none` is a thread that waits
for the mutex, or is in no such function. -/
def goOn (s : ConnectionWorld κ) (i : Nat) (c : ServedConn κ) : Option (ConnectionWorld κ) :=
  match c.phase with
  | .lock call =>
      if s.clientMapMtx = none then some { s.setPhase i (.find call) with clientMapMtx := some (.conn i) }
      else none
  | .find call => some (s.setPhase i (.change call (c.con ∈ s.clList)))
  | .change call listed => some ((s.change i c.con listed call).setPhase i (.unlock call))
  | .unlock call => some { s.setPhase i call.next with clientMapMtx := none }
  | .handshake | .serving | .disconnected | .freed => none

/-- `PrintList` goes on by one step. -/
def print (s : ConnectionWorld κ) : Option (ConnectionWorld κ) :=
  match s.console with
  | .idle => none
  | .lock =>
      if s.clientMapMtx = none then
        some { s with clientMapMtx := some .console, console := .print s.clList.keys }
      else none
  | .print (_ :: rest) => some { s with console := .print rest }
  | .print [] => some { s with clientMapMtx := none, console := .idle }

/-- One step. A failed handshake goes to `ClientDisconnect` as well, and a new
`Conn` gets an address that no other one has. -/
def step (s : ConnectionWorld κ) : ServeAction κ → Option (ConnectionWorld κ)
  | .accept con =>
      if ∀ c ∈ s.conns, c.con = con → c.phase = .freed then
        some { s with conns := s.conns ++ [{ con := con, phase := .handshake }] }
      else none
  | .handshake i accepted => do
      let c ← s.conns[i]?
      if c.phase = .handshake then some (s.setPhase i (if accepted then .serving else .lock .delete))
      else none
  | .call i call => do
      let c ← s.conns[i]?
      if c.phase = .serving then some (s.setPhase i (.lock call)) else none
  | .goOn i => do
      let c ← s.conns[i]?
      s.goOn i c
  | .free i => do
      let c ← s.conns[i]?
      if c.phase = .disconnected then some (s.setPhase i .freed) else none
  | .status => if s.console = .idle then some { s with console := .lock } else none
  | .print => s.print

end ConnectionWorld

/-!
### What the list should say

A log of what was registered, found and deleted. A lookup should answer with the
first registration of the connection that holds the address.
-/

section Spec

variable {κ : Type*}

/-- The info an event registers for a connection. -/
def ListEvent.registeredBy (i : Nat) : ListEvent κ → Option (ClientInfo κ)
  | .registered j client => if j = i then some client else none
  | .found _ _ => none

/-- The info of the first `Register` on a connection. -/
def firstRegister (log : List (ListEvent κ)) (i : Nat) : Option (ClientInfo κ) :=
  log.findSome? (ListEvent.registeredBy i)

/-- Each `GetClient` returned what the first `Register` before it on the same
connection made, or nothing if there was none. -/
def AnswersFirst (log : List (ListEvent κ)) : Prop :=
  ∀ before i ret after, log = before ++ .found i ret :: after → ret = firstRegister before i

/-- The connection exists and has not executed `ClientDisconnect`. -/
def ConnectionWorld.Connected (s : ConnectionWorld κ) (con : κ) : Prop :=
  ∃ (i : Nat) (c : ServedConn κ), s.conns[i]? = some c ∧ c.con = con ∧ c.phase.ended = false

/-- What a function of the list, called on a connection, makes of a state:
`Insert` keeps the info of the first `Register` on it, `GetClient` returns that
info, `Delete` takes it out, and none of them touches another entry. -/
def ListCall.Effect [DecidableEq κ] (s t : ConnectionWorld κ) (i : Nat) (con : κ) : ListCall → Prop
  | .insert serverId serverInfo =>
      t.log = s.log ++ [.registered i (ClientInfo.new con serverId serverInfo)] ∧
        t.clList.getClient con =
          some ((firstRegister s.log i).getD (ClientInfo.new con serverId serverInfo)) ∧
        ∀ other, con ≠ other → t.clList.getClient other = s.clList.getClient other
  | .getClient => t.log = s.log ++ [.found i (firstRegister s.log i)] ∧ t.clList = s.clList
  | .delete =>
      t.log = s.log ∧ t.clList.getClient con = none ∧
        ∀ other, con ≠ other → t.clList.getClient other = s.clList.getClient other

end Spec

section Log

variable {κ : Type*} {log : List (ListEvent κ)} {event : ListEvent κ} {i : Nat}

/-- One more event counts only if there was no registration yet. -/
theorem firstRegister_append :
    firstRegister (log ++ [event]) i = (firstRegister log i).or (event.registeredBy i) := by
  rw [firstRegister, List.findSome?_append, List.findSome?_singleton]
  rfl

/-- One more answer has to be the first registration. -/
theorem answersFirst_append (answers : AnswersFirst log)
    (last : ∀ i ret, event = .found i ret → ret = firstRegister log i) :
      AnswersFirst (log ++ [event]) := by
  intro before i ret after split
  rcases List.eq_nil_or_concat after with rfl | ⟨after, other, rfl⟩
  · obtain ⟨rfl, found⟩ := List.append_inj' split rfl
    exact last i ret (List.cons.inj found).1
  · rw [List.concat_eq_append, ← List.cons_append, ← List.append_assoc] at split
    obtain ⟨earlier, -⟩ := List.append_inj' split rfl
    exact answers before i ret after earlier

end Log

/-!
### One step

What one step of a connection, of the console or of the listener can change.
-/

/-- How a thread moves outside the functions of the list. -/
inductive Moves : ServePhase → ServePhase → Prop
  | served : Moves .handshake .serving
  | denied : Moves .handshake (.lock .delete)
  | calls (call : ListCall) : Moves .serving (.lock call)
  | frees : Moves .disconnected .freed

theorem Moves.locked {old new : ServePhase} (moves : Moves old new) :
    old.locked = false ∧ new.locked = false := by
  cases moves <;> exact ⟨rfl, rfl⟩

/-- A move ends no connection, and brings none back that was freed. -/
theorem Moves.ended {old new : ServePhase} (moves : Moves old new) :
    new.ended = old.ended ∧ (new ≠ .freed → old ≠ .freed) := by
  cases moves with
  | served | denied | calls call => exact ⟨rfl, fun _ => ServePhase.noConfusion⟩
  | frees => exact ⟨rfl, fun remains => absurd rfl remains⟩

/-- What a step can be. A thread moves outside the functions of the list, or
takes one of their four steps; the console does the same in `PrintList`. -/
inductive ConnectionWorld.StepCase {κ : Type*} [DecidableEq κ] (s : ConnectionWorld κ) :
    ConnectionWorld κ → Prop
  | accepted (con : κ) (fresh : ∀ c ∈ s.conns, c.con = con → c.phase = .freed) :
      StepCase s { s with conns := s.conns ++ [{ con := con, phase := .handshake }] }
  | moved {i c phase} (found : s.conns[i]? = some c) (moves : Moves c.phase phase) :
      StepCase s (s.setPhase i phase)
  | locks {i c call} (found : s.conns[i]? = some c) (at_ : c.phase = .lock call)
      (free : s.clientMapMtx = none) :
      StepCase s { s.setPhase i (.find call) with clientMapMtx := some (.conn i) }
  | finds {i c call} (found : s.conns[i]? = some c) (at_ : c.phase = .find call) :
      StepCase s (s.setPhase i (.change call (c.con ∈ s.clList)))
  | changes {i c call listed} (found : s.conns[i]? = some c) (at_ : c.phase = .change call listed) :
      StepCase s ((s.change i c.con listed call).setPhase i (.unlock call))
  | unlocks {i c call} (found : s.conns[i]? = some c) (at_ : c.phase = .unlock call) :
      StepCase s { s.setPhase i call.next with clientMapMtx := none }
  | status : StepCase s { s with console := .lock }
  | printLocks (free : s.clientMapMtx = none) :
      StepCase s { s with clientMapMtx := some .console, console := .print s.clList.keys }
  | prints (con : κ) (rest : List κ) (at_ : s.console = .print (con :: rest)) :
      StepCase s { s with console := .print rest }
  | printUnlocks (at_ : s.console = .print []) : StepCase s { s with clientMapMtx := none, console := .idle }

section Step

variable {κ : Type*} [DecidableEq κ] {s t : ConnectionWorld κ} {i j : Nat} {c d : ServedConn κ}
variable {phase : ServePhase} {call : ListCall} {action : ServeAction κ} {listed : Bool}

namespace ConnectionWorld

omit [DecidableEq κ] in
/-- The phase of one connection changes. -/
theorem conns_setPhase (found : s.conns[i]? = some c) :
    (s.setPhase i phase).conns[j]? = some d ↔
      (j = i ∧ d = { c with phase }) ∨ (j ≠ i ∧ s.conns[j]? = some d) := by
  rw [setPhase, List.getElem?_modify]
  by_cases same : i = j
  · subst same
    rw [found]
    simp [eq_comm]
  · simp [same, Ne.symm same]

omit [DecidableEq κ] in
/-- A new connection is the last one. -/
theorem conns_accepted {con : κ} : (s.conns ++ [{ con := con, phase := .handshake }])[i]? = some d ↔
    s.conns[i]? = some d ∨ (i = s.conns.length ∧ d = { con := con, phase := .handshake }) := by
  by_cases before : i < s.conns.length
  · rw [List.getElem?_append_left before]
    simp [Nat.ne_of_lt before]
  · have behind : s.conns.length ≤ i := Nat.le_of_not_lt before
    rw [List.getElem?_append_right behind, List.getElem?_eq_none behind, List.getElem?_singleton]
    by_cases last : i = s.conns.length
    · simp [last, eq_comm]
    · simp [last, Nat.sub_ne_zero_of_lt (Nat.lt_of_le_of_ne behind (Ne.symm last))]

/-- A connection that goes on makes one of its moves. -/
theorem stepCase_of_goOn (found : s.conns[i]? = some c) (stepped : s.goOn i c = some t) : StepCase s t := by
  unfold goOn at stepped
  split at stepped
  case h_1 call at_ =>
      split at stepped
      · cases stepped
        exact .locks found at_ ‹_›
      · cases stepped
  case h_2 call at_ =>
      cases stepped
      exact .finds found at_
  case h_3 call listed at_ =>
      cases stepped
      exact .changes found at_
  case h_4 call at_ =>
      cases stepped
      exact .unlocks found at_
  all_goals cases stepped

theorem stepCase_of_print (stepped : s.print = some t) : StepCase s t := by
  unfold print at stepped
  split at stepped
  case h_1 => cases stepped
  case h_2 =>
      split at stepped
      · cases stepped
        exact .printLocks ‹_›
      · cases stepped
  case h_3 con rest at_ =>
      cases stepped
      exact .prints con rest at_
  case h_4 at_ =>
      cases stepped
      exact .printUnlocks at_

/-- A thread at one phase moves to another. -/
theorem stepCase_of_moves {old new : ServePhase} (moves : Moves old new)
    (stepped : (s.conns[i]?.bind fun c => if c.phase = old then some (s.setPhase i new) else none) = some t) :
    StepCase s t := by
  obtain ⟨c, found, moved⟩ := Option.bind_eq_some_iff.mp stepped
  split at moved
  case isTrue at_ =>
      cases moved
      apply StepCase.moved found
      rw [at_]
      exact moves
  case isFalse => cases moved

/-- Every step is one of the listed ones. -/
theorem stepCase_of_step (stepped : s.step action = some t) : StepCase s t := by
  cases action with
  | accept con =>
      rw [step] at stepped
      split at stepped
      case isTrue fresh =>
          cases stepped
          exact .accepted con fresh
      case isFalse => cases stepped
  | handshake i accepted =>
      apply stepCase_of_moves _ stepped
      cases accepted with
      | true => exact .served
      | false => exact .denied
  | call i call => exact stepCase_of_moves (.calls call) stepped
  | goOn i =>
      obtain ⟨c, found, moved⟩ := Option.bind_eq_some_iff.mp stepped
      exact stepCase_of_goOn found moved
  | free i => exact stepCase_of_moves .frees stepped
  | status =>
      rw [step] at stepped
      split at stepped
      · cases stepped
        exact .status
      · cases stepped
  | print => exact stepCase_of_print stepped

end ConnectionWorld

/-!
### Who holds the mutex

A connection that is inside a method of the list holds its mutex, and no two are
at the same time.
-/

open ConnectionWorld

/-- Inside a function of the list a thread holds the mutex, and what it has
found there still holds. -/
structure ListGuarded (s : ConnectionWorld κ) : Prop where
  conn : ∀ {i : Nat} {c : ServedConn κ}, s.conns[i]? = some c → c.phase.locked = true →
    s.clientMapMtx = some (.conn i)
  console : ∀ {rest}, s.console = .print rest → s.clientMapMtx = some .console
  found : ∀ {i : Nat} {c : ServedConn κ} {call listed}, s.conns[i]? = some c →
    c.phase = .change call listed → listed = decide (c.con ∈ s.clList)
  printing : ∀ {rest}, s.console = .print rest → ∀ con ∈ rest, con ∈ s.clList

namespace ListGuarded

theorem start : ListGuarded (ConnectionWorld.start : ConnectionWorld κ) where
  conn := by
    intro i c impossible
    cases impossible
  console := by
    intro rest impossible
    cases impossible
  found := by
    intro i c call listed impossible
    cases impossible
  printing := by
    intro rest impossible
    cases impossible

/-- A thread that holds the mutex holds it alone. -/
theorem conn_unique (guarded : ListGuarded s) (held : s.clientMapMtx = some (.conn i))
    (found : s.conns[j]? = some d) (locked : d.phase.locked = true) : j = i := by
  have other := guarded.conn found locked
  rw [held] at other
  cases other
  rfl

/-- A connection is outside the list while nobody holds the mutex, or the
console does. -/
theorem not_locked (guarded : ListGuarded s)
    (alone : s.clientMapMtx = none ∨ s.clientMapMtx = some .console)
    (found : s.conns[j]? = some d) : ¬d.phase.locked = true := by
  intro locked
  have other := guarded.conn found locked
  rcases alone with free | console
  · rw [free] at other
    cases other
  · rw [console] at other
    cases other

theorem accepted (guarded : ListGuarded s) (con : κ) :
    ListGuarded { s with conns := s.conns ++ [{ con := con, phase := .handshake }] } where
  conn := by
    intro i c found locked
    rcases conns_accepted.mp found with before | ⟨-, rfl⟩
    · exact guarded.conn before locked
    · cases locked
  console := guarded.console
  found := by
    intro i c call listed found at_
    rcases conns_accepted.mp found with before | ⟨-, rfl⟩
    · exact guarded.found before at_
    · cases at_
  printing := guarded.printing

/-- A step that leaves the list and the mutex alone, and takes no thread in or
out of the mutex. -/
theorem moved (guarded : ListGuarded s) (found : s.conns[i]? = some c)
    (locked : phase.locked = true → c.phase.locked = true)
    (looked : ∀ call listed, phase = .change call listed → listed = decide (c.con ∈ s.clList)) :
    ListGuarded (s.setPhase i phase) where
  conn := by
    intro j d foundAfter lockedAfter
    rcases (conns_setPhase found).mp foundAfter with ⟨rfl, rfl⟩ | ⟨-, before⟩
    · exact guarded.conn found (locked lockedAfter)
    · exact guarded.conn before lockedAfter
  console := guarded.console
  found := by
    intro j d call listed foundAfter at_
    rcases (conns_setPhase found).mp foundAfter with ⟨rfl, rfl⟩ | ⟨-, before⟩
    · exact looked call listed at_
    · exact guarded.found before at_
  printing := guarded.printing

/-- A step of the thread that holds the mutex, which may change the list. -/
theorem changed {clList : ClientList κ} {log : List (ListEvent κ)} {clientMapMtx : Option MutexHolder}
    (guarded : ListGuarded s) (found : s.conns[i]? = some c) (locked : c.phase.locked = true)
    (after : phase.locked = true → clientMapMtx = some (.conn i))
    (done : ∀ call listed, phase ≠ .change call listed) :
    ListGuarded { s.setPhase i phase with clList, log, clientMapMtx } := by
  have held : s.clientMapMtx = some (.conn i) := guarded.conn found locked
  have noConsole : ∀ rest, s.console ≠ .print rest := by
    intro rest printing
    have other := guarded.console printing
    rw [held] at other
    cases other
  constructor
  · intro j d foundAfter lockedAfter
    rcases (conns_setPhase found).mp foundAfter with ⟨rfl, rfl⟩ | ⟨differ, before⟩
    · exact after lockedAfter
    · exact absurd (guarded.conn_unique held before lockedAfter) differ
  · intro rest printing
    exact absurd printing (noConsole rest)
  · intro j d call listed foundAfter at_
    rcases (conns_setPhase found).mp foundAfter with ⟨rfl, rfl⟩ | ⟨differ, before⟩
    · exact absurd at_ (done call listed)
    · have lockedToo : d.phase.locked = true := by rw [at_]; rfl
      exact absurd (guarded.conn_unique held before lockedToo) differ
  · intro rest printing
    exact absurd printing (noConsole rest)

/-- A free mutex is taken. -/
theorem locks (guarded : ListGuarded s) (found : s.conns[i]? = some c) (free : s.clientMapMtx = none) :
    ListGuarded { s.setPhase i (.find call) with clientMapMtx := some (.conn i) } := by
  have noConsole : ∀ rest, s.console ≠ .print rest := by
    intro rest printing
    have other := guarded.console printing
    rw [free] at other
    cases other
  constructor
  · intro j d foundAfter lockedAfter
    rcases (conns_setPhase found).mp foundAfter with ⟨rfl, rfl⟩ | ⟨-, before⟩
    · rfl
    · exact absurd lockedAfter (guarded.not_locked (.inl free) before)
  · intro rest printing
    exact absurd printing (noConsole rest)
  · intro j d call listed foundAfter at_
    rcases (conns_setPhase found).mp foundAfter with ⟨rfl, rfl⟩ | ⟨-, before⟩
    · cases at_
    · exact guarded.found before at_
  · intro rest printing
    exact absurd printing (noConsole rest)

/-- The mutex while the console is in `PrintList`: no thread is inside a
function of the list. -/
theorem consoleMoves {console : PrintPhase κ} {clientMapMtx : Option MutexHolder} (guarded : ListGuarded s)
    (alone : s.clientMapMtx = none ∨ s.clientMapMtx = some .console)
    (after : ∀ rest, console = .print rest →
      clientMapMtx = some .console ∧ ∀ con ∈ rest, con ∈ s.clList) :
    ListGuarded { s with clientMapMtx, console } := by
  constructor
  · intro j d before locked
    exact absurd locked (guarded.not_locked alone before)
  · intro rest printing
    exact (after rest printing).1
  · intro j d call listed before at_
    exact guarded.found before at_
  · intro rest printing
    exact (after rest printing).2

/-- Every step keeps the account of the mutex. -/
theorem step (guarded : ListGuarded s) (stepped : s.StepCase t) : ListGuarded t := by
  cases stepped with
  | accepted con fresh => exact guarded.accepted con
  | moved found moves =>
      apply guarded.moved found
      · intro locked
        rw [moves.locked.2] at locked
        cases locked
      · intro call listed at_
        have locked := moves.locked.2
        rw [at_] at locked
        cases locked
  | locks found at_ free => exact guarded.locks found free
  | finds found at_ =>
      apply guarded.moved found
      · intro _
        rw [at_]
        rfl
      · intro call listed same
        cases same
        rfl
  | @changes i c call listed found at_ =>
      have locked : c.phase.locked = true := by rw [at_]; rfl
      have held := guarded.conn found locked
      cases call <;> exact guarded.changed found locked (fun _ => held) (fun _ _ => ServePhase.noConfusion)
  | @unlocks i c call found at_ =>
      have locked : c.phase.locked = true := by rw [at_]; rfl
      apply guarded.changed found locked
      · intro lockedAfter
        cases call <;> cases lockedAfter
      · intro other listed
        cases call <;> exact ServePhase.noConfusion
  | status =>
      refine ⟨guarded.conn, ?_, guarded.found, ?_⟩
      · intro rest impossible
        cases impossible
      · intro rest impossible
        cases impossible
  | printLocks free =>
      apply guarded.consoleMoves (.inl free)
      intro rest printing
      cases printing
      exact ⟨rfl, fun con inKeys => AList.mem_keys.mpr inKeys⟩
  | prints con rest at_ =>
      have held := guarded.console at_
      apply @consoleMoves κ _ s (.print rest) s.clientMapMtx guarded (.inr held)
      intro others printing
      cases printing
      exact ⟨held, fun other inRest => guarded.printing at_ other (List.mem_cons_of_mem con inRest)⟩
  | printUnlocks at_ =>
      apply guarded.consoleMoves (.inr (guarded.console at_))
      intro rest printing
      cases printing

end ListGuarded

/-!
### Whose the entries are

An entry belongs to a connection that has not been freed, and no other
connection that has not been freed has the same address.
-/

/-- The entries of the list are those of the connections that have not executed
`ClientDisconnect`, and each is the info of the first `Register` on its
connection. -/
structure BelongsToLive (s : ConnectionWorld κ) : Prop where
  unique : ∀ {i j : Nat} {c d : ServedConn κ}, s.conns[i]? = some c →
    s.conns[j]? = some d → c.con = d.con →
    c.phase ≠ .freed → d.phase ≠ .freed → i = j
  listed : ∀ {i : Nat} {c : ServedConn κ}, s.conns[i]? = some c → c.phase.ended = false →
    s.clList.getClient c.con = firstRegister s.log i
  keys : ∀ con ∈ s.clList, s.Connected con
  future : ∀ i, s.conns.length ≤ i → firstRegister s.log i = none
  answers : AnswersFirst s.log

theorem ServePhase.ne_freed (going : phase.ended = false) : phase ≠ .freed := by
  rintro rfl
  cases going

namespace BelongsToLive

theorem start : BelongsToLive (ConnectionWorld.start : ConnectionWorld κ) where
  unique := by
    intro i j c d impossible
    cases impossible
  listed := by
    intro i c impossible
    cases impossible
  keys := by
    intro con impossible
    exact absurd impossible (AList.notMem_empty con)
  future _ _ := rfl
  answers := by
    intro before i ret after split
    cases before <;> cases split

/-- The mutex and the console are not the list's business. -/
theorem of_same (live : BelongsToLive s) (conns : t.conns = s.conns) (clList : t.clList = s.clList)
    (log : t.log = s.log) : BelongsToLive t := by
  obtain ⟨clList', mutex, conns', console, log'⟩ := t
  subst conns clList log
  exact ⟨live.unique, live.listed, live.keys, live.future, live.answers⟩

/-- The address of a new connection is in no entry. -/
theorem accepted (live : BelongsToLive s) {con : κ}
    (fresh : ∀ c ∈ s.conns, c.con = con → c.phase = .freed) :
    BelongsToLive { s with conns := s.conns ++ [{ con := con, phase := .handshake }] } where
  unique := by
    intro i j c d foundFirst foundSecond same firstRemains secondRemains
    rcases conns_accepted.mp foundFirst with first | ⟨rfl, rfl⟩ <;>
      rcases conns_accepted.mp foundSecond with second | ⟨rfl, rfl⟩
    · exact live.unique first second same firstRemains secondRemains
    · exact absurd (fresh c (List.mem_of_getElem? first) same) firstRemains
    · exact absurd (fresh d (List.mem_of_getElem? second) same.symm) secondRemains
    · rfl
  listed := by
    intro i c found going
    rcases conns_accepted.mp found with before | ⟨rfl, rfl⟩
    · exact live.listed before going
    · have noEntry : con ∉ s.clList := by
        intro inList
        obtain ⟨j, d, other, same, otherGoing⟩ := live.keys con inList
        exact ServePhase.ne_freed otherGoing (fresh d (List.mem_of_getElem? other) same)
      rw [live.future s.conns.length (Nat.le_refl _)]
      exact AList.lookup_eq_none.mpr noEntry
  keys := by
    intro other inList
    obtain ⟨j, d, found, same, going⟩ := live.keys other inList
    exact ⟨j, d, conns_accepted.mpr (.inl found), same, going⟩
  future := by
    intro i behind
    apply live.future
    rw [List.length_append, List.length_singleton] at behind
    omega
  answers := live.answers

/-- The connections that have not been freed keep their addresses, so no two
have the same. -/
theorem unique_setPhase (live : BelongsToLive s) (found : s.conns[i]? = some c)
    (remains : phase ≠ .freed → c.phase ≠ .freed) {j k : Nat} {d e : ServedConn κ}
    (foundFirst : (s.setPhase i phase).conns[j]? = some d)
    (foundSecond : (s.setPhase i phase).conns[k]? = some e)
    (same : d.con = e.con) (firstRemains : d.phase ≠ .freed) (secondRemains : e.phase ≠ .freed) :
      j = k := by
  rcases (conns_setPhase found).mp foundFirst with ⟨rfl, rfl⟩ | ⟨-, first⟩ <;>
    rcases (conns_setPhase found).mp foundSecond with ⟨rfl, rfl⟩ | ⟨-, second⟩
  · rfl
  · exact live.unique found second same (remains firstRemains) secondRemains
  · exact live.unique first found same firstRemains (remains secondRemains)
  · exact live.unique first second same firstRemains secondRemains

theorem future_setPhase (live : BelongsToLive s) (behind : (s.setPhase i phase).conns.length ≤ j) :
    firstRegister s.log j = none := by
  apply live.future
  rwa [setPhase, List.length_modify] at behind

/-- A thread moves, but not over the end of its `ClientDisconnect`. -/
theorem moved (live : BelongsToLive s) (found : s.conns[i]? = some c) (ended : phase.ended = c.phase.ended)
    (remains : phase ≠ .freed → c.phase ≠ .freed) : BelongsToLive (s.setPhase i phase) where
  unique := live.unique_setPhase found remains
  listed := by
    intro j d foundAfter going
    rcases (conns_setPhase found).mp foundAfter with ⟨rfl, rfl⟩ | ⟨-, before⟩
    · have entry := live.listed found (ended.symm.trans going)
      exact entry
    · exact live.listed before going
  keys := by
    intro con inList
    obtain ⟨j, d, before, same, going⟩ := live.keys con inList
    by_cases moves : j = i
    · subst moves
      obtain rfl : d = c := Option.some.inj (before.symm.trans found)
      exact ⟨j, _, (conns_setPhase found).mpr (.inl ⟨rfl, rfl⟩), same, ended.trans going⟩
    · exact ⟨j, d, (conns_setPhase found).mpr (.inr ⟨moves, before⟩), same, going⟩
  future _ behind := live.future_setPhase behind
  answers := live.answers

/-- Two connections that have not ended have different addresses. -/
theorem con_ne (live : BelongsToLive s) (found : s.conns[i]? = some c) (other : s.conns[j]? = some d)
    (differ : j ≠ i) (going : c.phase.ended = false) (otherGoing : d.phase.ended = false) :
    c.con ≠ d.con := by
  intro same
  apply differ
  exact live.unique other found same.symm (ServePhase.ne_freed otherGoing) (ServePhase.ne_freed going)

/-- The first `Register` makes the entry, a later one leaves it. -/
theorem registered (live : BelongsToLive s) (found : s.conns[i]? = some c) (going : c.phase.ended = false)
    (serverId : Int) (serverInfo : StdString) :
    BelongsToLive { s with
      clList := s.clList.insertClient c.con serverId serverInfo
      log := s.log ++ [.registered i (ClientInfo.new c.con serverId serverInfo)] } where
  unique := live.unique
  listed := by
    intro j d foundOther goingOther
    dsimp only
    rw [ClientList.getClient_insertClient, firstRegister_append, ListEvent.registeredBy]
    by_cases same : i = j
    · subst same
      obtain rfl : c = d := Option.some.inj (found.symm.trans foundOther)
      rw [if_pos rfl, if_pos rfl, live.listed found going]
      cases firstRegister s.log i <;> rfl
    · rw [if_neg (live.con_ne found foundOther (Ne.symm same) going goingOther), if_neg same, Option.or_none]
      exact live.listed foundOther goingOther
  keys := by
    intro con inList
    rcases ClientList.mem_insertClient.mp inList with same | before
    · exact ⟨i, c, found, same, going⟩
    · exact live.keys con before
  future := by
    intro j behind
    have differ : i ≠ j := by
      rintro rfl
      rw [List.getElem?_eq_none behind] at found
      cases found
    rw [firstRegister_append, live.future j behind, ListEvent.registeredBy, if_neg differ]
    rfl
  answers := by
    apply answersFirst_append live.answers
    intro j ret impossible
    cases impossible

/-- `GetClient` answers for its own connection. -/
theorem answered (live : BelongsToLive s) (found : s.conns[i]? = some c) (going : c.phase.ended = false) :
    BelongsToLive { s with log := s.log ++ [.found i (s.clList.getClient c.con)] } := by
  have same : ∀ j, firstRegister (s.log ++ [.found i (s.clList.getClient c.con)]) j =
      firstRegister s.log j := by
    intro j
    rw [firstRegister_append]
    exact Option.or_none
  refine ⟨live.unique, ?_, live.keys, ?_, ?_⟩
  · intro j d foundOther goingOther
    rw [same]
    exact live.listed foundOther goingOther
  · intro j behind
    rw [same]
    exact live.future j behind
  · apply answersFirst_append live.answers
    intro j ret event
    cases event
    exact live.listed found going

/-- `ClientDisconnect` takes the entry of its own connection. -/
theorem deleted (live : BelongsToLive s) (found : s.conns[i]? = some c) (going : c.phase.ended = false) :
    BelongsToLive ({ s with clList := s.clList.deleteClient c.con }.setPhase i (.unlock .delete)) where
  unique := live.unique_setPhase found (fun _ => ServePhase.ne_freed going)
  listed := by
    intro j d foundAfter goingAfter
    have foundSet : (s.setPhase i (.unlock .delete)).conns[j]? = some d := foundAfter
    rcases (conns_setPhase found).mp foundSet with ⟨rfl, rfl⟩ | ⟨differ, before⟩
    · cases goingAfter
    · have entry := @ClientList.getClient_deleteClient _ _ s.clList c.con d.con
      rw [if_neg (live.con_ne found before differ going goingAfter)] at entry
      exact entry.trans (live.listed before goingAfter)
  keys := by
    intro con inList
    obtain ⟨differ, before⟩ := ClientList.mem_deleteClient.mp inList
    obtain ⟨j, d, other, same, otherGoing⟩ := live.keys con before
    have notSelf : j ≠ i := by
      rintro rfl
      obtain rfl : d = c := Option.some.inj (other.symm.trans found)
      exact differ same
    have foundSet : (s.setPhase i (.unlock .delete)).conns[j]? = some d :=
      (conns_setPhase found).mpr (.inr ⟨notSelf, other⟩)
    exact ⟨j, d, foundSet, same, otherGoing⟩
  future _ behind := live.future_setPhase behind
  answers := live.answers

/-- With what `find` has found, the change is that of the function as a whole. -/
theorem change_eq_whole (looked : listed = decide (c.con ∈ s.clList)) :
    s.change i c.con listed call = s.whole i c.con call := by
  cases call with
  | insert serverId serverInfo =>
      simp only [change, whole, looked, ClientList.insertClient, decide_eq_true_eq]
  | getClient =>
      have answer : (if listed then s.clList.lookup c.con else none) = s.clList.getClient c.con := by
        rw [looked, ClientList.getClient]
        by_cases inList : c.con ∈ s.clList
        · rw [if_pos (decide_eq_true inList)]
        · rw [if_neg (mt of_decide_eq_true inList), AList.lookup_eq_none.mpr inList]
      rw [change, answer, whole]
  | delete => simp only [change, whole, looked, ClientList.deleteClient, decide_eq_true_eq]

/-- What a function does after `find`, with what it found. -/
theorem changed (live : BelongsToLive s) (found : s.conns[i]? = some c) (at_ : c.phase = .change call listed)
    (looked : listed = decide (c.con ∈ s.clList)) :
    BelongsToLive ((s.change i c.con listed call).setPhase i (.unlock call)) := by
  have going : c.phase.ended = false := by rw [at_]; rfl
  have remains : c.phase ≠ .freed := ServePhase.ne_freed going
  rw [change_eq_whole looked]
  cases call with
  | insert serverId serverInfo =>
      exact (live.registered found going serverId serverInfo).moved found going.symm (fun _ => remains)
  | getClient => exact (live.answered found going).moved found going.symm (fun _ => remains)
  | delete => exact live.deleted found going

/-- The step has the effect the function is for. -/
theorem effect (live : BelongsToLive s) (guarded : ListGuarded s) (found : s.conns[i]? = some c)
    (at_ : c.phase = .change call listed) :
    ∃ t, s.step (.goOn i) = some t ∧ call.Effect s t i c.con := by
  have going : c.phase.ended = false := by rw [at_]; rfl
  have entry := live.listed found going
  refine ⟨(s.change i c.con listed call).setPhase i (.unlock call), ?_, ?_⟩
  · rw [ConnectionWorld.step, found]
    show s.goOn i c = _
    rw [goOn, at_]
  · rw [change_eq_whole (guarded.found found at_)]
    cases call with
    | insert serverId serverInfo =>
        refine ⟨rfl, ?_, ?_⟩
        · rw [← entry]
          exact ClientList.getClient_insertClient.trans (if_pos rfl)
        · intro other differ
          exact ClientList.getClient_insertClient.trans (if_neg differ)
    | getClient =>
        rw [ListCall.Effect, ← entry]
        exact ⟨rfl, rfl⟩
    | delete =>
        refine ⟨rfl, ?_, ?_⟩
        · exact ClientList.getClient_deleteClient.trans (if_pos rfl)
        · intro other differ
          exact ClientList.getClient_deleteClient.trans (if_neg differ)

/-- Every step keeps the entries with connections that have not been freed. -/
theorem step (live : BelongsToLive s) (guarded : ListGuarded s) (stepped : s.StepCase t) :
    BelongsToLive t := by
  cases stepped with
  | accepted con fresh => exact live.accepted fresh
  | moved found moves => exact live.moved found moves.ended.1 moves.ended.2
  | @locks i c call found at_ free =>
      have moved : BelongsToLive (s.setPhase i (.find call)) := by
        apply live.moved found
        · rw [at_]
          rfl
        · intro _
          rw [at_]
          exact ServePhase.noConfusion
      exact moved.of_same rfl rfl rfl
  | finds found at_ =>
      apply live.moved found
      · rw [at_]
        rfl
      · intro _
        rw [at_]
        exact ServePhase.noConfusion
  | changes found at_ => exact live.changed found at_ (guarded.found found at_)
  | @unlocks i c call found at_ =>
      have moved : BelongsToLive (s.setPhase i call.next) := by
        apply live.moved found
        · rw [at_]
          cases call <;> rfl
        · intro _
          rw [at_]
          exact ServePhase.noConfusion
      exact moved.of_same rfl rfl rfl
  | status => exact live.of_same rfl rfl rfl
  | printLocks free => exact live.of_same rfl rfl rfl
  | prints con rest at_ => exact live.of_same rfl rfl rfl
  | printUnlocks at_ => exact live.of_same rfl rfl rfl

end BelongsToLive

/-- Both invariants hold in every interleaving. -/
theorem invariants_of_run {actions : List (ServeAction κ)}
    (ran : run ConnectionWorld.step .start actions = some s) : ListGuarded s ∧ BelongsToLive s := by
  have rule := @run_invariant _ _ ConnectionWorld.step .start s actions
    fun s : ConnectionWorld κ => ListGuarded s ∧ BelongsToLive s
  refine rule ?_ ⟨ListGuarded.start, BelongsToLive.start⟩ ran
  rintro s action t ⟨guarded, live⟩ stepped
  have stepCase := stepCase_of_step stepped
  exact ⟨guarded.step stepCase, live.step guarded stepCase⟩

/-- In every interleaving the keys of the list are connections that have not
executed `ClientDisconnect`, a connection that has not has the info of the first
`Register` on it in the list, or none if there was none, this is what every
`GetClient` has returned, and each function that goes on past its `find` has the
effect it is for: a `Register` is stored, `GetClient` answers, and
`ClientDisconnect` leaves no entry. -/
theorem client_list_belongs_to_live {actions : List (ServeAction κ)}
    (ran : run ConnectionWorld.step .start actions = some s) :
    (∀ con ∈ s.clList, s.Connected con) ∧ AnswersFirst s.log ∧
      (∀ i c, s.conns[i]? = some c → c.phase.ended = false →
        s.clList.getClient c.con = firstRegister s.log i) ∧
      (∀ i c call listed, s.conns[i]? = some c → c.phase = .change call listed →
        ∃ t, s.step (.goOn i) = some t ∧ call.Effect s t i c.con) := by
  obtain ⟨guarded, live⟩ := invariants_of_run ran
  refine ⟨live.keys, live.answers, ?_, ?_⟩
  · intro i c found going
    exact live.listed found going
  · intro i c call listed found at_
    exact live.effect guarded found at_

/-- What `PrintList` is about to read is connected. -/
theorem printed_key_is_live {actions : List (ServeAction κ)} {con : κ} {rest : List κ}
    (ran : run ConnectionWorld.step .start actions = some s) (printing : s.console = .print (con :: rest)) :
    s.Connected con := by
  obtain ⟨guarded, live⟩ := invariants_of_run ran
  exact live.keys con (guarded.printing printing con List.mem_cons_self)

end Step

/-- One function of the list, from its call to its return. -/
def wholeCall (i : Nat) (call : ListCall) : List (ServeAction Nat) :=
  [.call i call, .goOn i, .goOn i, .goOn i, .goOn i]

/-- A connection registers, asks and leaves; a second one gets its address, and
asks without a `Register`. -/
def reusedAddress : List (ServeAction Nat) :=
  [.accept 7, .handshake 0 true] ++ wholeCall 0 (.insert 1 "\\mapname\\q3dm17".toList) ++
    wholeCall 0 .getClient ++ wholeCall 0 .delete ++ [.free 0, .accept 7, .handshake 1 true] ++
    wholeCall 1 .getClient

/-- The state after it. -/
def reusedWorld : ConnectionWorld Nat := (run ConnectionWorld.step .start reusedAddress).getD .start

/-- The server that registers. -/
def reusedClient : ClientInfo Nat := .new 7 1 "\\mapname\\q3dm17".toList

/-- The first connection gets its own info, and the second, at the same address,
none. -/
theorem reusedAddress_answers : run ConnectionWorld.step .start reusedAddress = some reusedWorld ∧
    reusedWorld.log = [.registered 0 reusedClient, .found 0 (some reusedClient), .found 1 none] ∧
    (∀ con ∈ reusedWorld.clList, reusedWorld.Connected con) ∧ AnswersFirst reusedWorld.log := by
  have ran : run ConnectionWorld.step .start reusedAddress = some reusedWorld := rfl
  obtain ⟨keys, answers, -, -⟩ := client_list_belongs_to_live ran
  exact ⟨ran, rfl, keys, answers⟩

end Q3df.Server
