/-
Module: Q3df.Client.LoginRestore
Layer: Client
Purpose: Login state over map changes. The id of a player travels through the cvar `loginstate<n>`,
  which `GAME_SHUTDOWN` and a disconnect write and a connect that is not the first reads. A run over
  any number of maps is watched together with what the engine knows of each slot: whether its client
  stays, and the id the client had when `GAME_SHUTDOWN` was dispatched.
Imports: Q3df.Client.SlotEvents, Q3df.Client.SessionPairs
Trusted boundary: cvars keep their value between two instances of the proxy; the engine passes
  firstTime = 0 only for a client that was connected when the previous map ended
Main exports: ClientTrack, MapRun, MapRun.step, Restorable, login_restored
Open obligations: none
-/
import Q3df.Client.SlotEvents
import Q3df.Client.SessionPairs

namespace Q3df.Client

open Q3df.Transition

/-- What the engine knows of a slot. `present`: a client is connected; `stays`:
it was connected when the previous map ended; `shutdownId`: the user id of the
slot when `GAME_SHUTDOWN` was last dispatched. -/
structure ClientTrack where
  present : Bool
  stays : Bool
  shutdownId : Int
deriving DecidableEq

namespace ClientTrack

/-- Before the first map. -/
def unknown : ClientTrack := { present := false, stays := false, shutdownId := 0 }

/-- A first connect is a new client, and one that disconnects does not come back. -/
def next (track : ClientTrack) : SlotEvent → ClientTrack
  | .connected isFirstTime _ => { track with present := true, stays := track.stays && !isFirstTime }
  | .disconnected => { track with present := false, stays := false }
  | .reset => { track with present := false }
  | .engineStores _ | .userinfoChanged | .began => track

/-- The map ends while the slot's user has the id `userId`. -/
def mapEnds (track : ClientTrack) (userId : Int) : ClientTrack :=
  { present := false, stays := track.present, shutdownId := userId }

end ClientTrack

/-- The engine ends the map. -/
def ProxyAction.endsMap : ProxyAction → Bool
  | .vmMain command _ _ => command = GameExport.gameShutdown.toInt
  | .setUserinfo _ _ _ | .vmReturns _ => false

/-- What the engine knows of a slot after a step. -/
def nextTrack (s : ProxyRun) (action : ProxyAction) (q : Slot) (track : ClientTrack) : ClientTrack :=
  if action.endsMap then track.mapEnds (s.proxy.world.users q).userId
  else (slotEvents s q action).foldl ClientTrack.next track

/-- A run of the proxy, and what the engine knows of the slots. -/
structure MapRun where
  run : ProxyRun
  tracks : Slot → ClientTrack

namespace MapRun

def initial (engine : EngineSetup) : MapRun :=
  { run := .initial engine, tracks := fun _ => .unknown }

/-- The engine restores only a client that was connected when the previous map
ended. -/
def restores (m : MapRun) : ProxyAction → Bool
  | .vmMain command arg _ =>
      match GameExport.ofInt? command, slotOf? (arg0 arg) with
      | some .gameClientConnect, some p => arg1 arg ≠ 0 || (m.tracks p).stays
      | _, _ => true
  | .setUserinfo _ _ _ | .vmReturns _ => true

/-- One step of the proxy, as the engine takes it. -/
def step (m : MapRun) (action : ProxyAction) : Option MapRun :=
  if m.restores action then
    (m.run.step action).map fun s =>
      { run := s, tracks := fun q => nextTrack m.run action q (m.tracks q) }
  else none

/-- The user id of a slot. -/
def userId (m : MapRun) (p : Slot) : Int := (m.run.proxy.world.users p).userId

end MapRun

/-!
### The login cvars

`GAME_SHUTDOWN` writes the ids of the users that are in use, and a disconnect
clears the slot's own. No other handler, reply or trap touches the cvars.
-/

section LoginState

variable {w : ProxyWorld} {p q : Slot}

/-- A cvar is none of what the handlers set in a user. -/
theorem cvars_kept (cvars : Slot → Int) (p : Slot) : KeptAt p fun _ cvars' => cvars' = cvars :=
  ⟨fun _ => id, fun _ => id, fun _ => id, fun _ => id⟩

/-- The replies log players in and out, and leave the cvars to the next map. -/
theorem loginState_finishCalls (outcomes : List CallOutcome) (w : ProxyWorld) :
    (w.finishCalls outcomes).loginState = w.loginState :=
  KeptAt.finishCalls (cvars_kept w.loginState) outcomes rfl

theorem loginState_prepare {command : Int} {arg : Vector Int 12} {inputs : CallInputs} :
    (prepare command arg inputs w).loginState = w.loginState :=
  @KeptAt.prepare (fun _ cvars => cvars = w.loginState) w command arg inputs rfl

theorem users_prepare {command : Int} {arg : Vector Int 12} {inputs : CallInputs} :
    (prepare command arg inputs w).users = w.users :=
  @KeptAt.prepare (fun users _ => users = w.users) w command arg inputs rfl

/-- Of the handlers that run while a map is played, only the disconnect writes a
cvar, its own slot's. -/
theorem loginState_handled {command : Int} {arg : Vector Int 12} {rsNoNewClients : Int} {uuid : CString}
    (noShutdown : command ≠ GameExport.gameShutdown.toInt)
    (stays : .disconnected ∉ handlerEvents rsNoNewClients command arg uuid q) :
    (handled command arg w).loginState q = w.loginState q := by
  have kept (p : Slot) : KeptAt p fun _ cvars => cvars q = w.loginState q :=
    ⟨fun _ => id, fun _ => id, fun _ => id, fun _ => id⟩
  refine KeptAt.handled kept ?_ ?_ rfl
  · intro p named selected
    have other : q ≠ p := by
      rintro rfl
      simp [handlerEvents, selected, named] at stays
    exact Function.update_of_ne other 0 w.loginState
  · intro selected
    exact absurd (ofInt?_eq_some selected) noShutdown

/-- The end of a map keeps the id of every user that is in use. -/
theorem loginState_shutdown {inputs : CallInputs} (inUse : (w.users q).state ≠ .clientFree) :
    (shutdownWorld inputs w).loginState q = (w.users q).userId := by
  have traps (traps : List (Slot × InfoString)) (w : ProxyWorld) :
      (traps.foldl (fun w trap => w.engineUserinfo trap.1 trap.2) w).loginState = w.loginState := by
    induction traps generalizing w with
    | nil => rfl
    | cons trap traps inductionHypothesis => exact inductionHypothesis _
  have kept : (shutdownWorld inputs w).loginState =
      (UserManagementPlugin.onVmMainShutdown w).loginState :=
    (loginState_finishCalls inputs.outcomes _).trans (traps inputs.shutdownTraps _)
  rw [kept]
  exact if_pos inUse

/-- A connect that is accepted logs a new player out, and an old one back in. -/
theorem userId_onClientConnected {isFirstTime : Bool} (accepted : w.rsNoNewClients ≠ 1) :
    ((UserManagementPlugin.onClientConnected p isFirstTime w).2.users p).userId =
      if isFirstTime then 0 else w.loginState p := by
  have fresh : ((UserManagementPlugin.onClientUserInfoChanged p
      (w.setUser p ((w.users p).reset.setUniqueId w.randomUuid))).users p).userId = 0 := by
    unfold UserManagementPlugin.onClientUserInfoChanged
    dsimp only
    split
    · simp [Q3User.setUserId]
    · split
      · simp [Q3User.setUserInfoString, Q3User.setUniqueId, Q3User.reset]
      · simp [Q3User.setUserInfoString, Q3User.setUniqueId, Q3User.reset]
  have sameCvars : (UserManagementPlugin.onClientUserInfoChanged p
      (w.setUser p ((w.users p).reset.setUniqueId w.randomUuid))).loginState = w.loginState :=
    (cvars_kept w.loginState p).onClientUserInfoChanged rfl
  unfold UserManagementPlugin.onClientConnected
  rw [if_neg accepted]
  cases isFirstTime with
  | true => simpa [Q3User.setState] using fresh
  | false => simp [Q3User.setState, Q3User.setUserId, sameCvars]

end LoginState

/-!
### Steps

What a step does to the cvars and to the users, for every slot, and what the
engine knows about it.
-/

section Steps

variable {s t : ProxyRun} {m n : MapRun} {action : ProxyAction} {arg : Vector Int 12} {p q : Slot}

/-- A client that stays has not disconnected. -/
theorem stays_foldl {events : List SlotEvent} {track : ClientTrack}
    (stays : (events.foldl ClientTrack.next track).stays = true) :
    track.stays = true ∧ .disconnected ∉ events := by
  induction events generalizing track with
  | nil => exact ⟨stays, List.not_mem_nil⟩
  | cons event events inductionHypothesis =>
      obtain ⟨before, noneLater⟩ := inductionHypothesis stays
      cases event with
      | connected isFirstTime uuid =>
          rw [ClientTrack.next, Bool.and_eq_true_iff] at before
          exact ⟨before.1, by simp [noneLater]⟩
      | disconnected => cases before
      | engineStores info | userinfoChanged | began | reset => exact ⟨before, by simp [noneLater]⟩

/-- Between two shutdowns the remembered id does not change. -/
theorem shutdownId_foldl (events : List SlotEvent) (track : ClientTrack) :
    (events.foldl ClientTrack.next track).shutdownId = track.shutdownId := by
  induction events generalizing track with
  | nil => rfl
  | cons event events inductionHypothesis =>
      rw [List.foldl_cons, inductionHypothesis]
      cases event <;> rfl

/-- A client that is connected is one the proxy has in use. -/
theorem present_foldl {events : List SlotEvent} {track : ClientTrack} {v : SlotView}
    (standing : track.present = true → v.state ≠ .clientFree)
    (present : (events.foldl ClientTrack.next track).present = true) :
    (events.foldl SlotView.next v).state ≠ .clientFree := by
  induction events generalizing track v with
  | nil => exact standing present
  | cons event events inductionHypothesis =>
      refine inductionHypothesis ?_ present
      cases event with
      | engineStores info | userinfoChanged => exact standing
      | connected isFirstTime uuid =>
          intro _
          cases isFirstTime <;> rintro ⟨⟩
      | began =>
          intro _
          rintro ⟨⟩
      | disconnected | reset => rintro ⟨⟩

/-- A step that does not end the map changes the cvar of no client that stays. -/
theorem loginState_stepWorld (goesOn : action.endsMap = false)
    (stays : .disconnected ∉ slotEvents s q action) :
    (stepWorld s action).loginState q = s.proxy.world.loginState q := by
  cases action with
  | vmMain command arg inputs =>
      have noShutdown : command ≠ GameExport.gameShutdown.toInt := of_decide_eq_false goesOn
      rw [slotEvents, if_neg noShutdown, List.mem_append, not_or] at stays
      rw [stepWorld, if_neg noShutdown]
      split
      · exact congrFun loginState_prepare q
      · unfold firstSwitchWorld
        split
        · rw [loginState_finishCalls]
          exact congrFun loginState_prepare q
        · rw [loginState_handled noShutdown stays.2, loginState_prepare]
  | setUserinfo uninitialized slot info =>
      rw [stepWorld]
      split <;> rfl
  | vmReturns inputs =>
      unfold stepWorld
      unfold slotEvents at stays
      cases calls : s.calls with
      | nil => rfl
      | cons call rest =>
          simp only [calls] at stays
          dsimp only
          unfold returnedWorld
          split
          · rfl
          · rename_i noInit
            rw [if_neg noInit] at stays
            split
            · rename_i isConnect
              rw [if_pos isConnect] at stays
              exact loginState_handled (by rw [isConnect]; decide) stays
            · split
              · exact @KeptAt.onGameRunFrame (fun _ cvars => cvars q = s.proxy.world.loginState q) _ rfl
              · rfl

/-- What holds of every slot in every run: a connected client is in use, and the
cvar of one that stays holds the id it had at the end of the map. -/
structure Restorable (m : MapRun) : Prop where
  registered : Registered m.run
  inUse : ∀ q, (m.tracks q).present = true → (m.run.proxy.world.view q).state ≠ .clientFree
  carried : ∀ q, (m.tracks q).stays = true → m.run.proxy.world.loginState q = (m.tracks q).shutdownId

/-- No map has ended when the process starts. -/
theorem restorable_initial (engine : EngineSetup) : Restorable (.initial engine) where
  registered := registered_initial engine
  inUse := by
    intro q
    rintro ⟨⟩
  carried := by
    intro q
    rintro ⟨⟩

/-- A step of a run of maps is one of the proxy that keeps to the engine's
assumption. -/
theorem step_eq_some (stepped : m.step action = some n) :
    m.restores action = true ∧ m.run.step action = some n.run ∧
      n.tracks = fun q => nextTrack m.run action q (m.tracks q) := by
  rw [MapRun.step] at stepped
  split at stepped
  case isTrue restores =>
    obtain ⟨s, made, rfl⟩ := Option.map_eq_some_iff.mp stepped
    exact ⟨restores, made, rfl⟩
  case isFalse => cases stepped

/-- Every step keeps the users' ids in step with the ids at the last shutdown. -/
theorem restorable_step (restorable : Restorable m) (stepped : m.step action = some n) :
    Restorable n := by
  obtain ⟨-, made, tracks⟩ := step_eq_some stepped
  obtain ⟨registered, world⟩ := step_world restorable.registered made
  cases ends : action.endsMap with
  | true =>
      have mapEnds (q : Slot) : n.tracks q =
          (m.tracks q).mapEnds (m.run.proxy.world.users q).userId := by
        rw [tracks]
        exact if_pos ends
      refine ⟨registered, ?_, ?_⟩
      · intro q
        rw [mapEnds]
        rintro ⟨⟩
      · intro q
        rw [mapEnds, world]
        intro present
        have inUse := restorable.inUse q present
        cases action with
        | vmMain command arg inputs =>
            have isShutdown : command = GameExport.gameShutdown.toInt := of_decide_eq_true ends
            subst isShutdown
            rw [stepWorld, if_neg (by decide), if_pos rfl]
            have kept := @loginState_shutdown (prepare GameExport.gameShutdown.toInt arg inputs
              m.run.proxy.world) q inputs
            rw [users_prepare] at kept
            exact kept inUse
        | setUserinfo uninitialized slot info => cases ends
        | vmReturns inputs => cases ends
  | false =>
      have moved (q : Slot) : n.tracks q =
          (slotEvents m.run q action).foldl ClientTrack.next (m.tracks q) := by
        rw [tracks]
        exact if_neg (Bool.eq_false_iff.mp ends)
      refine ⟨registered, ?_, ?_⟩
      · intro q
        rw [moved, world, view_stepWorld]
        exact present_foldl (restorable.inUse q)
      · intro q
        rw [moved, world, shutdownId_foldl]
        intro stays
        obtain ⟨before, connected⟩ := stays_foldl stays
        rw [loginState_stepWorld ends connected]
        exact restorable.carried q before

/-- The connect handler of either dispatch, when it accepts the player. -/
theorem userId_handled {w : ProxyWorld} (named : slotOf? (arg0 arg) = some p)
    (accepted : w.rsNoNewClients ≠ 1) :
    ((handled GameExport.gameClientConnect.toInt arg w).users p).userId =
      if arg1 arg = 1 then 0 else w.loginState p := by
  unfold handled
  rw [GameExport.ofInt?_toInt, named]
  dsimp only
  rw [userId_onClientConnected accepted]
  simp only [decide_eq_true_eq]

end Steps

/-- Login state survives map changes and never leaks to newcomers. In every run
over any number of maps, an accepted connect with firstTime = 0 gives the slot
the user id it had when `GAME_SHUTDOWN` was dispatched, and one with firstTime =
1 gives it 0; and so does the second dispatch of the same connect, behind the
VM, as long as the client is still there. -/
theorem login_restored {engine : EngineSetup} {actions : List ProxyAction} {m n : MapRun} {p : Slot}
    {arg : Vector Int 12} {inputs : CallInputs}
    (ran : run MapRun.step (.initial engine) actions = some m)
    (named : slotOf? (arg0 arg) = some p) (accepted : m.run.proxy.world.rsNoNewClients ≠ 1) :
    (m.step (.vmMain GameExport.gameClientConnect.toInt arg inputs) = some n →
      (arg1 arg = 0 → (m.tracks p).stays = true ∧ n.userId p = (m.tracks p).shutdownId) ∧
        (arg1 arg = 1 → n.userId p = 0)) ∧
    (∀ call calls, m.run.calls = call :: calls → call.command = GameExport.gameClientConnect.toInt →
      call.arg = arg → m.step (.vmReturns inputs) = some n →
        (arg1 arg = 0 → (m.tracks p).stays = true → n.userId p = (m.tracks p).shutdownId) ∧
          (arg1 arg = 1 → n.userId p = 0)) := by
  have restorable : Restorable m :=
    run_invariant restorable_step (restorable_initial engine) ran
  constructor
  · intro stepped
    obtain ⟨restores, made, -⟩ := step_eq_some stepped
    obtain ⟨-, world⟩ := step_world restorable.registered made
    have id : n.userId p = if arg1 arg = 1 then 0 else m.run.proxy.world.loginState p := by
      have acceptedNow : (prepare GameExport.gameClientConnect.toInt arg inputs
          m.run.proxy.world).rsNoNewClients ≠ 1 := by
        rw [prepare_cvar]
        exact accepted
      rw [MapRun.userId, world, stepWorld, if_neg (by decide), if_neg (by decide), firstSwitchWorld,
        if_neg (by decide), userId_handled named acceptedNow, loginState_prepare]
    constructor
    · intro restore
      have stays : (m.tracks p).stays = true := by
        simpa [MapRun.restores, GameExport.ofInt?_toInt, named, restore] using restores
      refine ⟨stays, ?_⟩
      rw [id, if_neg (by omega), restorable.carried p stays]
    · intro first
      rw [id, if_pos first]
  · intro call calls waiting isConnect sameArg stepped
    obtain ⟨-, made, -⟩ := step_eq_some stepped
    obtain ⟨-, world⟩ := step_world restorable.registered made
    have id : n.userId p = if arg1 arg = 1 then 0 else m.run.proxy.world.loginState p := by
      rw [MapRun.userId, world, stepWorld]
      simp only [waiting]
      rw [returnedWorld, isConnect, sameArg, if_neg (by decide), if_pos rfl]
      exact userId_handled named accepted
    constructor
    · intro restore stays
      rw [id, if_neg (by omega), restorable.carried p stays]
    · intro first
      rw [id, if_pos first]

/-- Player 0 connects and is logged in as user 7, and the next map starts. -/
def loggedInPlayer : List ProxyAction :=
  let answer : CallOutcome := .succeeded { userId := 7, messageToPrint := [] }
  connectOnce ++
    [.vmMain GameExport.gameRunFrame.toInt (.replicate 12 0) { outcomes := .replicate 4 answer },
     .vmReturns {}, .vmMain GameExport.gameShutdown.toInt (.replicate 12 0) {}] ++ startMap

/-- The player is connected again, and still logged in. -/
theorem loggedInPlayer_restored :
    ∃ m n, run MapRun.step (.initial .blank) loggedInPlayer = some m ∧
      m.step (.vmMain GameExport.gameClientConnect.toInt (.replicate 12 0) { randomUuid := ['c'] }) =
        some n ∧ n.userId 0 = 7 := by
  have restored : ((run MapRun.step (.initial .blank) loggedInPlayer).bind fun m =>
      (m.step (.vmMain GameExport.gameClientConnect.toInt (.replicate 12 0)
        { randomUuid := ['c'] })).map fun _ =>
          decide ((m.tracks 0).shutdownId = 7 ∧ m.run.proxy.world.rsNoNewClients ≠ 1)) = some true := by
    decide +kernel
  obtain ⟨m, ran, rest⟩ := Option.bind_eq_some_iff.mp restored
  obtain ⟨n, stepped, facts⟩ := Option.map_eq_some_iff.mp rest
  obtain ⟨sameId, accepted⟩ := of_decide_eq_true facts
  refine ⟨m, n, ran, stepped, ?_⟩
  rw [← sameId]
  exact (((login_restored ran (by decide) accepted).1 stepped).1 (by decide)).2

end Q3df.Client
