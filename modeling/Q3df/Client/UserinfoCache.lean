/-
Module: Q3df.Client.UserinfoCache
Layer: Client
Purpose: When the userinfo string the proxy caches for a connected slot is the one the engine has.
  The connect and the userinfo-changed handler read the engine's string; the handler that should
  follow the VM's own SetUserinfo is registered on the list of `VmMain`, where it is never called.
  The headline is `cache_coherent_iff`: the cache is coherent in every state of a run exactly when
  every string the engine stores behind the plugin's back is the cached one.
Imports: Q3df.Client.SlotEvents
Trusted boundary: none
Main exports: Coherent, KeepsCache, coherent_step, cache_coherent_iff
Open obligations: none
-/
import Q3df.Client.SlotEvents

namespace Q3df.Client

open Q3df.Transition

/-- A slot in use has the engine's string in its cache. -/
def Coherent (v : SlotView) : Prop := v.state ≠ .clientFree → v.userInfo = v.engineInfo

instance (v : SlotView) : Decidable (Coherent v) := inferInstanceAs (Decidable (_ → _))

/-- The condition on a step that is taken: a string that the VM sets for a slot
in use, or that the engine stores for it before a connect that is turned away,
is the cached one. -/
def KeepsCache (s : ProxyRun) (action : ProxyAction) : Prop :=
  (s.step action).isSome →
    match action with
    | .vmMain command arg inputs =>
        command = GameExport.gameClientConnect.toInt → s.proxy.world.rsNoNewClients = 1 →
          ∀ slot info, slotOf? (arg0 arg) = some slot → inputs.userinfo = some info →
            (s.proxy.world.users slot).state ≠ .clientFree →
              info = (s.proxy.world.users slot).userInfo
    | .setUserinfo uninitialized slot info =>
        uninitialized.handled = some false → (s.proxy.world.users slot).state ≠ .clientFree →
          info = (s.proxy.world.users slot).userInfo
    | .vmReturns _ => True

section Slots

variable {v : SlotView}

/-- Four of the events leave a slot coherent whatever it was. -/
theorem coherent_connected {isFirstTime : Bool} {uuid : CString} :
    Coherent (v.next (.connected isFirstTime uuid)) := fun _ => rfl

theorem coherent_userinfoChanged : Coherent (v.next .userinfoChanged) := fun _ => rfl

theorem coherent_disconnected : Coherent (v.next .disconnected) := fun inUse => absurd rfl inUse

theorem coherent_reset : Coherent (v.next .reset) := fun inUse => absurd rfl inUse

/-- A begin leaves a coherent slot coherent. -/
theorem coherent_began (coherent : Coherent v) (inUse : v.state ≠ .clientFree) :
    Coherent (v.next .began) := fun _ => coherent inUse

/-- A store of the engine keeps the slot coherent exactly if it stores what is
cached, or the slot is not in use. -/
theorem coherent_engineStores {info : InfoString} :
    Coherent (v.next (.engineStores info)) ↔ (v.state ≠ .clientFree → info = v.userInfo) := by
  constructor
  · intro coherent inUse
    exact (coherent inUse).symm
  · intro same inUse
    exact (same inUse).symm

end Slots

section Steps

variable {s t : ProxyRun} {action : ProxyAction}

/-- At first no slot is in use. -/
theorem coherent_initial (engine : EngineSetup) (q : Slot) :
    Coherent ((ProxyRun.initial engine).proxy.world.view q) := fun inUse => absurd rfl inUse

/-- A command for another slot does nothing to this one. -/
theorem slotEvents_elsewhere {command : Int} {arg : Vector Int 12} {inputs : CallInputs} {q : Slot}
    (noShutdown : command ≠ GameExport.gameShutdown.toInt) (elsewhere : slotOf? (arg0 arg) ≠ some q) :
    slotEvents s q (.vmMain command arg inputs) = [] := by
  have stored : storedEvents command arg inputs q = [] := by
    unfold storedEvents
    split
    · exact if_neg elsewhere
    · exact if_neg elsewhere
    · rfl
  have dispatched : handlerEvents s.proxy.world.rsNoNewClients command arg inputs.randomUuid q = [] := by
    unfold handlerEvents
    split
    · exact if_neg fun both => elsewhere both.1
    · exact if_neg elsewhere
    · exact if_neg elsewhere
    · exact if_neg elsewhere
    · rfl
  rw [slotEvents, if_neg noShutdown, stored, dispatched]
  rfl

/-- A connect reads the engine's string, unless it is turned away. -/
theorem coherent_connect {arg : Vector Int 12} {inputs : CallInputs} {q : Slot}
    (coherent : Coherent (s.proxy.world.view q)) :
    Coherent ((slotEvents s q (.vmMain GameExport.gameClientConnect.toInt arg inputs)).foldl
        SlotView.next (s.proxy.world.view q)) ↔
      (GameExport.gameClientConnect.toInt = GameExport.gameClientConnect.toInt →
        s.proxy.world.rsNoNewClients = 1 → ∀ info, slotOf? (arg0 arg) = some q →
          inputs.userinfo = some info → (s.proxy.world.users q).state ≠ .clientFree →
            info = (s.proxy.world.users q).userInfo) := by
  by_cases mine : slotOf? (arg0 arg) = some q
  · by_cases closed : s.proxy.world.rsNoNewClients = 1
    · cases given : inputs.userinfo with
      | none =>
          have events : slotEvents s q (.vmMain GameExport.gameClientConnect.toInt arg inputs) = [] := by
            simp [slotEvents, GameExport.toInt_inj, storedEvents, handlerEvents, closed, given]
          rw [events]
          refine iff_of_true coherent ?_
          intro _ _ info _ stored
          cases stored
      | some info =>
          have events : slotEvents s q (.vmMain GameExport.gameClientConnect.toInt arg inputs) =
              [.engineStores info] := by
            simp [slotEvents, GameExport.toInt_inj, storedEvents, handlerEvents, closed, given, mine]
          rw [events]
          refine coherent_engineStores.trans ?_
          constructor
          · intro same _ _ info' _ stored
            cases stored
            exact same
          · intro same
            exact same rfl closed info mine rfl
    · have events : slotEvents s q (.vmMain GameExport.gameClientConnect.toInt arg inputs) =
          storedEvents GameExport.gameClientConnect.toInt arg inputs q ++
            [.connected (arg1 arg = 1) inputs.randomUuid] := by
        simp [slotEvents, GameExport.toInt_inj, handlerEvents, closed, mine]
      rw [events, List.foldl_append]
      exact iff_of_true coherent_connected fun _ closed' => absurd closed' closed
  · rw [slotEvents_elsewhere (by decide) mine]
    exact iff_of_true coherent fun _ _ _ named => absurd named mine

/-- What the engine calls before a step of `VmMain` is coherent behind it, but
for a connect that is turned away. -/
theorem coherent_vmMain {command : Int} {arg : Vector Int 12} {inputs : CallInputs} {q : Slot}
    (admitted : s.admits command arg = true) (coherent : Coherent (s.proxy.world.view q)) :
    Coherent ((slotEvents s q (.vmMain command arg inputs)).foldl SlotView.next
        (s.proxy.world.view q)) ↔
      (command = GameExport.gameClientConnect.toInt → s.proxy.world.rsNoNewClients = 1 →
        ∀ info, slotOf? (arg0 arg) = some q → inputs.userinfo = some info →
          (s.proxy.world.users q).state ≠ .clientFree → info = (s.proxy.world.users q).userInfo) := by
  by_cases shutdown : command = GameExport.gameShutdown.toInt
  · subst shutdown
    rw [slotEvents, if_pos rfl, List.foldl_append]
    exact iff_of_true coherent_reset fun isConnect => absurd isConnect (by decide)
  by_cases mine : slotOf? (arg0 arg) = some q
  · cases selected : GameExport.ofInt? command with
    | none =>
        have noConnect : command ≠ GameExport.gameClientConnect.toInt := by
          rintro rfl
          cases selected
        simp only [slotEvents, if_neg shutdown, storedEvents, handlerEvents, selected]
        exact iff_of_true coherent fun isConnect => absurd isConnect noConnect
    | some export_ =>
        have commandEq := ofInt?_eq_some selected
        subst commandEq
        cases export_ with
        | gameShutdown => exact absurd rfl shutdown
        | gameInit | gameClientCommand | gameClientThink | gameRunFrame | gameConsoleCommand
        | botaiStartFrame => exact iff_of_true coherent fun isConnect => absurd isConnect (by decide)
        | gameClientBegin =>
            refine iff_of_true ?_ fun isConnect => absurd isConnect (by decide)
            have inUse : (s.proxy.world.users q).state ≠ .clientFree := by
              rw [ProxyRun.admits, GameExport.ofInt?_toInt, mine] at admitted
              simpa using (Bool.and_eq_true_iff.mp admitted).2
            have events : slotEvents s q (.vmMain GameExport.gameClientBegin.toInt arg inputs) =
                [.began] := by simp [slotEvents, GameExport.toInt_inj, storedEvents, handlerEvents, mine]
            rw [events]
            exact coherent_began coherent inUse
        | gameClientUserinfoChanged =>
            refine iff_of_true ?_ fun isConnect => absurd isConnect (by decide)
            have events : slotEvents s q
                (.vmMain GameExport.gameClientUserinfoChanged.toInt arg inputs) =
                  storedEvents GameExport.gameClientUserinfoChanged.toInt arg inputs q ++
                    [.userinfoChanged] := by simp [slotEvents, GameExport.toInt_inj, handlerEvents, mine]
            rw [events, List.foldl_append]
            exact coherent_userinfoChanged
        | gameClientDisconnect =>
            refine iff_of_true ?_ fun isConnect => absurd isConnect (by decide)
            have events : slotEvents s q (.vmMain GameExport.gameClientDisconnect.toInt arg inputs) =
                [.disconnected] := by
                  simp [slotEvents, GameExport.toInt_inj, storedEvents, handlerEvents, mine]
            rw [events]
            exact coherent_disconnected
        | gameClientConnect => exact coherent_connect coherent
  · rw [slotEvents_elsewhere shutdown mine]
    exact iff_of_true coherent fun _ _ _ named => absurd named mine

/-- The proxy's own part of a step keeps every slot coherent; what breaks the
cache is a string the engine stores meanwhile. -/
theorem coherent_step (registered : Registered s) (coherent : ∀ q, Coherent (s.proxy.world.view q))
    (stepped : s.step action = some t) :
    (∀ q, Coherent (t.proxy.world.view q)) ↔ KeepsCache s action := by
  have moved := (view_step registered stepped).2
  cases action with
  | vmMain command arg inputs =>
      have admitted : s.admits command arg = true := by
        by_contra refused
        rw [ProxyRun.step, if_neg refused] at stepped
        cases stepped
      constructor
      · intro after _ isConnect closed slot info named given inUse
        have here := after slot
        rw [moved] at here
        exact (coherent_vmMain admitted (coherent slot)).mp here isConnect closed info named given inUse
      · intro keeps q
        rw [moved]
        apply (coherent_vmMain admitted (coherent q)).mpr
        intro isConnect closed info
        exact keeps (Option.isSome_iff_exists.mpr ⟨t, stepped⟩) isConnect closed q info
  | setUserinfo uninitialized slot info =>
      constructor
      · intro after _ reaches inUse
        have here := after slot
        rw [moved, slotEvents, if_pos ⟨reaches, rfl⟩] at here
        exact coherent_engineStores.mp here inUse
      · intro keeps q
        rw [moved, slotEvents]
        split
        case isTrue stored =>
          obtain ⟨reaches, rfl⟩ := stored
          apply coherent_engineStores.mpr
          exact keeps (Option.isSome_iff_exists.mpr ⟨t, stepped⟩) reaches
        case isFalse => exact coherent q
  | vmReturns inputs =>
      refine iff_of_true ?_ fun _ => trivial
      intro q
      rw [moved, slotEvents]
      split
      · exact coherent q
      · split
        · exact coherent_reset
        · split
          case isTrue isConnect =>
            rw [isConnect, handlerEvents, GameExport.ofInt?_toInt]
            dsimp only
            split
            · exact coherent_connected
            · exact coherent q
          case isFalse => exact coherent q

end Steps

/-- The cache of every slot in use agrees with the engine in every state a run
reaches exactly when every step keeps the cache: a string the VM sets for a slot
in use, or the engine stores for it before a connect that is turned away, is the
cached one. -/
theorem cache_coherent_iff (engine : EngineSetup) (actions : List ProxyAction) :
    (∀ before after t, actions = before ++ after →
        run ProxyRun.step (.initial engine) before = some t → ∀ q, Coherent (t.proxy.world.view q)) ↔
      StepsMeet ProxyRun.step KeepsCache (.initial engine) actions := by
  rw [← @stepsMeet_iff_reached _ _ ProxyRun.step _ actions
    (fun t => ∀ q, Coherent (t.proxy.world.view q)) (coherent_initial engine)]
  refine @stepsMeet_iff_of_invariant _ _ _ _ _
    (fun s => Registered s ∧ ∀ q, Coherent (s.proxy.world.view q)) _ _ ?_ ?_
    ⟨registered_initial engine, coherent_initial engine⟩
  · rintro s action ⟨registered, coherent⟩
    constructor
    · intro next taken
      obtain ⟨t, stepped⟩ := Option.isSome_iff_exists.mp taken
      exact (coherent_step registered coherent stepped).mp (next t stepped) taken
    · intro keeps t stepped
      exact (coherent_step registered coherent stepped).mpr keeps
  · rintro s action t ⟨registered, coherent⟩ keeps stepped
    exact ⟨(view_step registered stepped).1, (coherent_step registered coherent stepped).mpr keeps⟩

/-- Player 0 connects, and the VM renames the player while it handles a command. -/
def renamedByVm : List ProxyAction :=
  [.vmMain GameExport.gameInit.toInt (.replicate 12 0) {}, .vmReturns {},
   .vmMain GameExport.gameClientConnect.toInt firstConnect {}, .vmReturns {},
   .vmMain GameExport.gameClientThink.toInt (.replicate 12 0) {},
   .setUserinfo .null 0 ⟨"\\name\\x".toList, by decide⟩, .vmReturns {}]

/-- The player keeps the old string in the cache, although the engine has the
new one. -/
theorem renamedByVm_not_coherent :
    (run ProxyRun.step (.initial .blank) renamedByVm).map (fun t =>
        ((t.proxy.world.users 0).state, (t.proxy.world.users 0).userInfo.val,
          (t.proxy.world.userinfo 0).val)) =
        some (.clientConnected, [], "\\name\\x".toList) ∧
      ¬ ∀ t, run ProxyRun.step (.initial .blank) renamedByVm = some t →
        ∀ q, Coherent (t.proxy.world.view q) := by
  have shown : (run ProxyRun.step (.initial .blank) renamedByVm).map (fun t =>
      ((t.proxy.world.users 0).state, (t.proxy.world.users 0).userInfo.val,
        (t.proxy.world.userinfo 0).val)) =
      some (.clientConnected, [], "\\name\\x".toList) := by decide +kernel
  refine ⟨shown, ?_⟩
  intro always
  obtain ⟨t, ran, fields⟩ := Option.map_eq_some_iff.mp shown
  obtain ⟨inUse, fields⟩ := Prod.mk.inj fields
  obtain ⟨cached, stored⟩ := Prod.mk.inj fields
  have same : (t.proxy.world.users 0).userInfo = t.proxy.world.userinfo 0 := by
    have connected : (t.proxy.world.users 0).state ≠ .clientFree := by
      rw [inUse]
      decide
    exact always t ran 0 connected
  rw [← same, cached] at stored
  revert stored
  decide

end Q3df.Client
