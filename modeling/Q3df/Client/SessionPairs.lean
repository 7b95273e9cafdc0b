/-
Module: Q3df.Client.SessionPairs
Layer: Client
Purpose: When the session notifications of a slot pair up. A slot has no session, an open one, or
  one the daemon still counts as open although the slot has taken another id or none; a connect and
  a disconnect are in order in the right one of the three only. The headline is
  `notifications_paired`: the notifications pair up in every run whose events are in order, and with
  fresh ids in no other. A connect that is let through moves its slot twice, so a run with one is in
  order only where the player is disconnected in between.
Imports: Q3df.Client.SlotEvents
Trusted boundary: none
Main exports: SessionPhase, InOrder, FreshUuids, notifications_paired
Open obligations: none
-/
import Q3df.Client.SlotEvents

namespace Q3df.Client

open Q3df.Transition Q3df.SessionLog

/-- How the notifications of a slot stand: no session, the slot's own session is
open, or a session is open that the slot no longer has the id of. -/
inductive SessionPhase where
  | closed
  | opened
  | lost
deriving Repr, DecidableEq

/-- The phase after an event, or `none` if the event is out of order: a first
connect without the previous session being closed, a disconnect without a
session that is the slot's own. -/
def SessionPhase.next : SessionPhase → SlotEvent → Option SessionPhase
  | .closed, .connected true _ => some .opened
  | .opened, .connected true _ | .lost, .connected true _ => none
  | .closed, .connected false _ => some .closed
  | .opened, .connected false _ | .lost, .connected false _ => some .lost
  | .opened, .disconnected => some .closed
  | .closed, .disconnected | .lost, .disconnected => none
  | .closed, .reset => some .closed
  | .opened, .reset | .lost, .reset => some .lost
  | phase, .engineStores _ | phase, .userinfoChanged | phase, .began => some phase

/-- Every event of the slot is in order. -/
def InOrder (events : List SlotEvent) : Prop := (run SessionPhase.next .closed events).isSome

instance (events : List SlotEvent) : Decidable (InOrder events) :=
  inferInstanceAs (Decidable ((run SessionPhase.next .closed events).isSome = true))

/-- The ids the connects of a slot were given. -/
def connectUuids (events : List SlotEvent) : List CString :=
  events.filterMap fun event =>
    match event with
    | .connected _ uuid => some uuid
    | _ => none

/-- The generator returns no id twice, and never the empty text. -/
def FreshUuids (events : List SlotEvent) : Prop :=
  (connectUuids events).Nodup ∧ [] ∉ connectUuids events

instance (events : List SlotEvent) : Decidable (FreshUuids events) :=
  inferInstanceAs (Decidable (_ ∧ _))

/-- What the phase says about the slot and its notifications. -/
def Standing : SessionPhase → SlotView → Prop
  | .closed, v => openAfter v.log = some none
  | .opened, v => openAfter v.log = some (some v.uniqueId)
  | .lost, v => ∃ id, openAfter v.log = some (some id)

section Phases

variable {phase next : SessionPhase} {v : SlotView} {event : SlotEvent} {events : List SlotEvent}

/-- A slot in good standing has a paired log. -/
theorem Standing.paired (standing : Standing phase v) : Paired v.log := by
  cases phase with
  | closed => exact Option.isSome_iff_exists.mpr ⟨_, standing⟩
  | opened => exact Option.isSome_iff_exists.mpr ⟨_, standing⟩
  | lost =>
      obtain ⟨id, after⟩ := standing
      exact Option.isSome_iff_exists.mpr ⟨_, after⟩

/-- An event in order keeps the phase true. -/
theorem standing_next (standing : Standing phase v) (ordered : phase.next event = some next) :
    Standing next (v.next event) := by
  cases event with
  | engineStores info | userinfoChanged | began =>
      have same : next = phase := by cases phase <;> cases ordered <;> rfl
      subst same
      cases next <;> exact standing
  | connected isFirstTime uuid =>
      cases isFirstTime with
      | true =>
          cases phase <;> cases ordered
          exact openAfter_append_opened.mpr ⟨standing, rfl⟩
      | false =>
          cases phase with
          | closed =>
              cases ordered
              exact standing
          | opened =>
              cases ordered
              exact ⟨v.uniqueId, standing⟩
          | lost =>
              cases ordered
              exact standing
  | disconnected =>
      cases phase <;> cases ordered
      exact openAfter_append_closed.mpr ⟨standing, rfl⟩
  | reset =>
      cases phase with
      | closed =>
          cases ordered
          exact standing
      | opened =>
          cases ordered
          exact ⟨v.uniqueId, standing⟩
      | lost =>
          cases ordered
          exact standing

/-- Events in order keep the notifications paired. -/
theorem paired_of_ordered (standing : Standing phase v)
    (ordered : run SessionPhase.next phase events = some next) :
    Standing next (events.foldl SlotView.next v) := by
  induction events generalizing phase v with
  | nil =>
      cases ordered
      exact standing
  | cons event events inductionHypothesis =>
      obtain ⟨between, first, rest⟩ := run_cons_eq_some.mp ordered
      exact inductionHypothesis (standing_next standing first) rest

/-- Notifications that pair up did so all along. -/
theorem paired_foldl (paired : Paired (events.foldl SlotView.next v).log) : Paired v.log := by
  induction events generalizing v with
  | nil => exact paired
  | cons event events inductionHypothesis =>
      have before := inductionHypothesis paired
      cases event with
      | engineStores info | userinfoChanged | began | reset => exact before
      | connected isFirstTime uuid =>
          cases isFirstTime with
          | true => exact paired_append before
          | false => exact before
      | disconnected => exact paired_append before

/-- The id of the open session is none of those that are still to be given out,
and in the phase `lost` it is not the slot's own. -/
structure OpenIdKnown (phase : SessionPhase) (v : SlotView) (uuids : List CString) : Prop where
  nonempty : ∀ id, openAfter v.log = some (some id) → id ≠ []
  used : ∀ id, openAfter v.log = some (some id) → id ∉ uuids
  foreign : phase = .lost → ∀ id, openAfter v.log = some (some id) → id ≠ v.uniqueId

/-- The ids that are still to come are fresh. -/
theorem FreshUuids.tail (fresh : FreshUuids (event :: events)) : FreshUuids events := by
  obtain ⟨distinct, nonempty⟩ := fresh
  cases event with
  | connected isFirstTime uuid =>
      exact ⟨(List.nodup_cons.mp distinct).2, fun empty => nonempty (List.mem_cons_of_mem _ empty)⟩
  | engineStores info | userinfoChanged | began | disconnected | reset => exact ⟨distinct, nonempty⟩

/-- An event out of order leaves notifications that do not pair up. -/
theorem ordered_of_paired (standing : Standing phase v)
    (known : OpenIdKnown phase v (connectUuids (event :: events)))
    (paired : Paired (v.next event).log) : ∃ next, phase.next event = some next := by
  obtain ⟨current, after⟩ := Option.isSome_iff_exists.mp paired
  cases event with
  | engineStores info | userinfoChanged | began | reset => cases phase <;> exact ⟨_, rfl⟩
  | connected isFirstTime uuid =>
      cases isFirstTime with
      | false => cases phase <;> exact ⟨_, rfl⟩
      | true =>
          have free : openAfter v.log = some none := (openAfter_append_opened.mp after).1
          cases phase with
          | closed => exact ⟨_, rfl⟩
          | opened =>
              rw [Standing, free] at standing
              cases standing
          | lost =>
              obtain ⟨id, stillOpen⟩ := standing
              rw [free] at stillOpen
              cases stillOpen
  | disconnected =>
      have own : openAfter v.log = some (some v.uniqueId) := (openAfter_append_closed.mp after).1
      cases phase with
      | closed =>
          rw [Standing, own] at standing
          cases standing
      | opened => exact ⟨_, rfl⟩
      | lost => exact absurd rfl (known.foreign rfl v.uniqueId own)

/-- What is known about the open id stays known, since the generator's ids are
fresh. -/
theorem openIdKnown_next (known : OpenIdKnown phase v (connectUuids (event :: events)))
    (fresh : FreshUuids (event :: events)) (ordered : phase.next event = some next) :
    OpenIdKnown next (v.next event) (connectUuids events) := by
  cases event with
  | engineStores info | userinfoChanged | began =>
      have same : next = phase := by cases phase <;> cases ordered <;> rfl
      subst same
      exact ⟨known.nonempty, known.used, known.foreign⟩
  | connected isFirstTime uuid =>
      obtain ⟨distinct, nonempty⟩ := fresh
      have unused : uuid ∉ connectUuids events := (List.nodup_cons.mp distinct).1
      cases isFirstTime with
      | true =>
          have opened : next = .opened := by cases phase <;> cases ordered; rfl
          have isUuid (id : CString)
              (after : openAfter (v.next (.connected true uuid)).log = some (some id)) : id = uuid :=
            Option.some.inj (openAfter_append_opened.mp after).2
          refine ⟨?_, ?_, ?_⟩
          · intro id after empty
            apply nonempty
            rw [← empty, isUuid id after]
            exact List.mem_cons_self
          · intro id after
            rw [isUuid id after]
            exact unused
          · intro isLost
            rw [opened] at isLost
            cases isLost
      | false =>
          refine ⟨known.nonempty, ?_, ?_⟩
          · intro id after again
            exact known.used id after (List.mem_cons_of_mem _ again)
          · rintro - id after rfl
            exact known.used _ after List.mem_cons_self
  | disconnected =>
      have none_ (id : CString) (after : openAfter (v.next .disconnected).log = some (some id)) :
          False := by
        cases (openAfter_append_closed.mp after).2
      exact ⟨fun id after => (none_ id after).elim, fun id after => (none_ id after).elim,
        fun _ id after => (none_ id after).elim⟩
  | reset => exact ⟨known.nonempty, known.used, fun _ id after => known.nonempty id after⟩

/-- With fresh ids, notifications that pair up come from events in order. -/
theorem inOrder_of_paired (standing : Standing phase v) (known : OpenIdKnown phase v (connectUuids events))
    (fresh : FreshUuids events) (paired : Paired (events.foldl SlotView.next v).log) :
    ∃ last, run SessionPhase.next phase events = some last := by
  induction events generalizing phase v with
  | nil => exact ⟨phase, rfl⟩
  | cons event events inductionHypothesis =>
      obtain ⟨next, ordered⟩ := ordered_of_paired standing known (paired_foldl paired)
      obtain ⟨last, rest⟩ := inductionHypothesis (standing_next standing ordered)
        (openIdKnown_next known fresh ordered) fresh.tail paired
      exact ⟨last, run_cons_eq_some.mpr ⟨next, ordered, rest⟩⟩

end Phases

/-- The notifications of a slot pair up in every run in which the slot's events
are in order: they alternate, starting with a `ClientConnected`, and every
`ClientDisconnected` carries the id of the `ClientConnected` it closes. With
fresh ids they do so in no other run. -/
theorem notifications_paired {engine : EngineSetup} {actions : List ProxyAction} {t : ProxyRun}
    (ran : run ProxyRun.step (.initial engine) actions = some t) (q : Slot) :
    (InOrder (slotHistory q (.initial engine) actions) → Paired (t.proxy.world.sessionLog q)) ∧
      (FreshUuids (slotHistory q (.initial engine) actions) → Paired (t.proxy.world.sessionLog q) →
        InOrder (slotHistory q (.initial engine) actions)) := by
  obtain ⟨-, moved⟩ := view_run (registered_initial engine) ran
  have log : t.proxy.world.sessionLog q = ((slotHistory q (.initial engine) actions).foldl
      SlotView.next ((ProxyRun.initial engine).proxy.world.view q)).log := by
    rw [← moved]
    rfl
  have start : Standing .closed ((ProxyRun.initial engine).proxy.world.view q) := rfl
  rw [log]
  constructor
  · intro ordered
    obtain ⟨last, ordered⟩ := Option.isSome_iff_exists.mp ordered
    exact (paired_of_ordered start ordered).paired
  · intro fresh paired
    have known : OpenIdKnown .closed ((ProxyRun.initial engine).proxy.world.view q)
        (connectUuids (slotHistory q (.initial engine) actions)) := by
      refine ⟨?_, ?_, ?_⟩
      · intro id after
        cases after
      · intro id after
        cases after
      · intro isLost
        cases isLost
    exact Option.isSome_iff_exists.mpr (inOrder_of_paired start known fresh paired)

/-- The first map starts. -/
def startMap : List ProxyAction :=
  [.vmMain GameExport.gameInit.toInt (.replicate 12 0) {}, .vmReturns {}]

/-- Player 0 connects, and the engine drops the player while the VM handles the
connect. -/
def droppedInConnect : List ProxyAction :=
  startMap ++
    [.vmMain GameExport.gameClientConnect.toInt firstConnect
      { randomUuid := ['a'] },
     .vmMain GameExport.gameClientDisconnect.toInt (.replicate 12 0) {}, .vmReturns {},
     .vmReturns { nextUuid := ['b'] },
     .vmMain GameExport.gameClientDisconnect.toInt (.replicate 12 0) {}, .vmReturns {}]

theorem notifications_paired_droppedInConnect :
    ∃ t, run ProxyRun.step (.initial .blank) droppedInConnect = some t ∧
      FreshUuids (slotHistory 0 (.initial .blank) droppedInConnect) ∧
      Paired (t.proxy.world.sessionLog 0) := by
  have fresh : FreshUuids (slotHistory 0 (.initial .blank) droppedInConnect) := by decide +kernel
  have inOrder : InOrder (slotHistory 0 (.initial .blank) droppedInConnect) := by decide +kernel
  have runs : (run ProxyRun.step (.initial .blank) droppedInConnect).isSome := by decide +kernel
  obtain ⟨t, ran⟩ := Option.isSome_iff_exists.mp runs
  exact ⟨t, ran, fresh, (notifications_paired ran 0).1 inOrder⟩

/-- One connect of player 0, and nothing else. -/
def connectOnce : List ProxyAction :=
  startMap ++
    [.vmMain GameExport.gameClientConnect.toInt firstConnect
      { randomUuid := ['a'] },
     .vmReturns { nextUuid := ['b'] }]

/-- One connect is notified twice, so the notifications do not alternate. -/
theorem connectOnce_not_paired :
    (run ProxyRun.step (.initial .blank) connectOnce).map (fun t => t.proxy.world.sessionLog 0) =
        some [.opened ['a'], .opened ['b']] ∧
      ¬ ∀ t, run ProxyRun.step (.initial .blank) connectOnce = some t →
        Paired (t.proxy.world.sessionLog 0) := by
  have log : (run ProxyRun.step (.initial .blank) connectOnce).map
      (fun t => t.proxy.world.sessionLog 0) = some [.opened ['a'], .opened ['b']] := by decide +kernel
  refine ⟨log, ?_⟩
  intro always
  obtain ⟨t, ran, twice⟩ := Option.map_eq_some_iff.mp log
  have paired := always t ran
  rw [twice] at paired
  revert paired
  decide

end Q3df.Client
