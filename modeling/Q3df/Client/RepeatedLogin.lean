/-
Module: Q3df.Client.RepeatedLogin
Layer: Client
Purpose: What `OnClientUserInfoChanged` makes of a player who is logged in and still has the key of
  that login. The handler compares the key with `lastQ3dfkey_`, which nothing ever assigns: in no
  state of any run does a slot remember a key, so each such event sends the key again.
Imports: Q3df.Client.LoginRestore, Q3df.Client.LoginAgreement, Q3df.Client.LoginIsolation
Trusted boundary: none
Main exports: LoggedInWith, RepeatsKey, NoRedundantLogin, Keyless, keyless_step,
  noRedundantLogins_iff
Open obligations: none
-/
import Q3df.Client.LoginRestore
import Q3df.Client.LoginAgreement
import Q3df.Client.LoginIsolation

namespace Q3df.Client

open Q3df.Transition

/-- The slot is logged in, with the id a delivered `Login` with this key
returned for it. -/
def LoggedInWith (w : ProxyWorld) (p : Slot) (q3dfkey : CString) : Prop :=
  (w.users p).userId ≠ 0 ∧
    ∃ record ∈ w.logins, record.slot = p ∧ record.q3dfkey = q3dfkey ∧
      record.userId = some (w.users p).userId

instance (w : ProxyWorld) (p : Slot) (q3dfkey : CString) : Decidable (LoggedInWith w p q3dfkey) :=
  inferInstanceAs (Decidable (_ ∧ _))

/-- The key in a userinfo. -/
def InfoString.q3dfkey (info : InfoString) : CString := infoValueForKey info.val "q3dfkey".toList

/-- The engine announces a changed userinfo of a slot that is logged in, and the
key in it is the one the slot logged in with. -/
def RepeatsKey (s : ProxyRun) (p : Slot) : ProxyAction → Prop
  | .vmMain command arg inputs =>
      let key := ((prepare command arg inputs s.proxy.world).userinfo p).q3dfkey
      s.admits command arg = true ∧ command = GameExport.gameClientUserinfoChanged.toInt ∧
        slotOf? (arg0 arg) = some p ∧ key ≠ [] ∧ LoggedInWith s.proxy.world p key
  | .setUserinfo _ _ _ | .vmReturns _ => False

instance (s : ProxyRun) (p : Slot) (action : ProxyAction) : Decidable (RepeatsKey s p action) :=
  match action with
  | .vmMain _ _ _ => inferInstanceAs (Decidable (_ ∧ _))
  | .setUserinfo _ _ _ | .vmReturns _ => isFalse id

/-- The `Login` requests enqueued for a slot. -/
def ProxyWorld.loginsFor (w : ProxyWorld) (p : Slot) : List ApiItem :=
  w.submitted.filter fun item => item.isLoginFor p

/-- Where a slot repeats its key, no `Login` is enqueued for it and its id stays. -/
def NoRedundantLogin (s : ProxyRun) (action : ProxyAction) : Prop :=
  ∀ p t, RepeatsKey s p action → s.step action = some t →
    t.proxy.world.loginsFor p = s.proxy.world.loginsFor p ∧
      (t.proxy.world.users p).userId = (s.proxy.world.users p).userId

/-- No slot remembers a key. -/
def Keyless (w : ProxyWorld) : Prop := ∀ q, (w.users q).lastQ3dfkey = []

/-!
### No key is remembered

`lastQ3dfkey_` is read by the check for a repeated login and never set. It stays
empty in every run, whatever handlers run in between.
-/

section Keyless

variable {w : ProxyWorld} {p : Slot}

/-- At first no user has a last key. -/
theorem keyless_initial (engine : EngineSetup) : Keyless (.initial engine) := fun _ => rfl

/-- Storing a user without a last key keeps it so. -/
theorem Keyless.setUser {cl : Q3User p} (keyless : Keyless w) (noKey : cl.lastQ3dfkey = []) :
    Keyless (w.setUser p cl) := by
  intro q
  by_cases same : q = p
  · subst same
    rwa [ProxyWorld.users_setUser_same]
  · rw [ProxyWorld.users_setUser_other _ _ _ _ same]
    exact keyless q

/-- The handlers set no key in a user. -/
theorem keyless_kept (p : Slot) : KeptAt p fun users _ => ∀ q, (users q).lastQ3dfkey = [] where
  userInfo _ keyless := Keyless.setUser keyless (keyless p)
  userId _ keyless := Keyless.setUser keyless (keyless p)
  state _ keyless := Keyless.setUser keyless (keyless p)
  restart _ keyless := Keyless.setUser keyless rfl

theorem keyless_onClientDisconnected (keyless : Keyless w) :
    Keyless (UserManagementPlugin.onClientDisconnected p w) := by
  have reset : Keyless (w.setUser p (w.users p).reset) := keyless.setUser rfl
  exact reset

theorem keyless_prepare {command : Int} {arg : Vector Int 12} {inputs : CallInputs} (keyless : Keyless w) :
    Keyless (prepare command arg inputs w) :=
  @KeptAt.prepare (fun users _ => ∀ q, (users q).lastQ3dfkey = []) w command arg inputs keyless

theorem keyless_handled {command : Int} {arg : Vector Int 12} (keyless : Keyless w) :
    Keyless (handled command arg w) :=
  KeptAt.handled keyless_kept (fun _ _ _ => keyless_onClientDisconnected keyless) (fun _ => keyless) keyless

end Keyless

section Steps

variable {s t : ProxyRun} {action : ProxyAction}

theorem keyless_stepWorld (keyless : Keyless s.proxy.world) : Keyless (stepWorld s action) := by
  cases action with
  | vmMain command arg inputs =>
      have prepared : Keyless (prepare command arg inputs s.proxy.world) := keyless_prepare keyless
      unfold stepWorld
      dsimp only
      split
      · exact prepared
      · split
        · exact fun _ => rfl
        · unfold firstSwitchWorld
          split
          · exact KeptAt.finishCalls keyless_kept inputs.outcomes prepared
          · exact keyless_handled prepared
  | setUserinfo uninitialized slot info =>
      rw [stepWorld]
      split <;> exact keyless
  | vmReturns inputs =>
      rw [stepWorld]
      split
      · exact keyless
      · unfold returnedWorld
        dsimp only
        split
        · exact fun _ => rfl
        · split
          · exact keyless_handled keyless
          · split
            · exact @KeptAt.onGameRunFrame (fun users _ => ∀ q, (users q).lastQ3dfkey = []) _ keyless
            · exact keyless

/-- No step of the proxy sets a last key. -/
theorem keyless_step (registered : Registered s) (keyless : Keyless s.proxy.world)
    (stepped : s.step action = some t) : Registered t ∧ Keyless t.proxy.world := by
  obtain ⟨registeredNext, world⟩ := step_world registered stepped
  refine ⟨registeredNext, ?_⟩
  rw [world]
  exact keyless_stepWorld keyless

/-- A call that is admitted does something. -/
theorem step_admitted {command : Int} {arg : Vector Int 12} {inputs : CallInputs}
    (admitted : s.admits command arg = true) : ∃ t, s.step (.vmMain command arg inputs) = some t := by
  rw [ProxyRun.step, if_pos admitted]
  split
  · exact ⟨_, rfl⟩
  · exact ⟨_, rfl⟩

theorem submitted_prepare {command : Int} {arg : Vector Int 12} {inputs : CallInputs} {w : ProxyWorld} :
    (prepare command arg inputs w).submitted = w.submitted := by
  unfold prepare
  dsimp only
  split <;> rfl

/-- A `Login` sent for a slot is one more request for it. -/
theorem loginsFor_login {w : ProxyWorld} {p : Slot} (request : LoginRequest) :
    (w.submit p (.login request)).loginsFor p =
      w.loginsFor p ++
        [{ request := .login request, slot := p, session := (w.users p).uniqueId : ApiItem }] := by
  rw [ProxyWorld.loginsFor, ProxyWorld.submit, List.filter_append]
  apply congrArg (w.loginsFor p ++ ·)
  exact List.filter_cons_of_pos (decide_eq_true rfl)

/-- With no key remembered, a key in the new userinfo is sent. -/
theorem onClientUserInfoChanged_keyed {w : ProxyWorld} {p : Slot} (keyless : Keyless w)
    (keyed : (w.userinfo p).q3dfkey ≠ []) :
    let cl := (w.users p).setUserInfoString (w.userinfo p)
    UserManagementPlugin.onClientUserInfoChanged p w = (w.setUser p cl).submit p
      (.login { identifier := cl.writeIdentifier, q3dfkey := (w.userinfo p).q3dfkey }) := by
  intro cl
  have user : (w.setUser p cl).users p = cl := ProxyWorld.users_setUser_same w p cl
  have key : cl.getUserInfo "q3dfkey".toList = (w.userinfo p).q3dfkey := rfl
  have forgotten : cl.lastQ3dfkey = [] := keyless p
  unfold UserManagementPlugin.onClientUserInfoChanged
  dsimp only
  rw [user, key, forgotten, if_neg (fun both => keyed both.1), if_pos (.inr (Ne.symm keyed))]

/-- A step that repeats a key is possible in the state it is about. -/
theorem RepeatsKey.stepped {p : Slot} (repeats : RepeatsKey s p action) : ∃ t, s.step action = some t := by
  cases action with
  | setUserinfo uninitialized slot info => cases repeats
  | vmReturns inputs => cases repeats
  | vmMain command arg inputs => exact step_admitted repeats.1

/-- The key is sent once more, and the slot keeps its id. -/
theorem repeats_logs_in {p : Slot} (registered : Registered s) (keyless : Keyless s.proxy.world)
    (repeats : RepeatsKey s p action) (stepped : s.step action = some t) :
    (∃ item, t.proxy.world.loginsFor p = s.proxy.world.loginsFor p ++ [item]) ∧
      (t.proxy.world.users p).userId = (s.proxy.world.users p).userId := by
  cases action with
  | setUserinfo uninitialized slot info => cases repeats
  | vmReturns inputs => cases repeats
  | vmMain command arg inputs =>
      obtain ⟨-, rfl, named, keyed, -⟩ := repeats
      obtain ⟨-, world⟩ := step_world registered stepped
      have changed := onClientUserInfoChanged_keyed (keyless_prepare keyless) keyed
      rw [stepWorld, if_neg (by decide), if_neg (by decide), firstSwitchWorld, if_neg (by decide), handled,
        GameExport.ofInt?_toInt, named] at world
      dsimp only at world changed
      rw [world, changed]
      constructor
      · refine ⟨_, (loginsFor_login _).trans (congrArg (· ++ _) ?_)⟩
        have earlier := congrArg (List.filter fun item : ApiItem => item.isLoginFor p)
          (@submitted_prepare GameExport.gameClientUserinfoChanged.toInt arg inputs s.proxy.world)
        exact earlier
      · rw [ProxyWorld.users_submit, ProxyWorld.users_setUser_same, users_prepare]
        rfl

end Steps

/-- In a run no redundant login is sent exactly if no slot ever repeats its key:
wherever one does, the key is sent again. -/
theorem noRedundantLogins_iff (engine : EngineSetup) (actions : List ProxyAction) :
    StepsMeet ProxyRun.step NoRedundantLogin (.initial engine) actions ↔
      StepsMeet ProxyRun.step (fun s action => ∀ p, ¬ RepeatsKey s p action)
        (.initial engine) actions := by
  refine @stepsMeet_iff_of_invariant _ _ _ _ _ (fun s => Registered s ∧ Keyless s.proxy.world) _ _ ?_ ?_
    ⟨registered_initial engine, keyless_initial engine⟩
  · rintro s action ⟨registered, keyless⟩
    constructor
    · intro quiet p repeats
      obtain ⟨t, stepped⟩ := repeats.stepped
      obtain ⟨item, sent⟩ := (repeats_logs_in registered keyless repeats stepped).1
      have same := (quiet p t repeats stepped).1
      rw [sent] at same
      exact List.cons_ne_nil item [] (List.append_right_eq_self.mp same)
    · intro none_ p t repeats
      exact absurd repeats (none_ p)
  · rintro s action t ⟨registered, keyless⟩ - stepped
    exact keyless_step registered keyless stepped

/-- Player 0 connects with a key, is logged in as user 7, and the engine
announces the same userinfo again. -/
def loggedInWithKey : List ProxyAction :=
  let answer : CallOutcome := .succeeded { userId := 7, messageToPrint := [] }
  startMap ++
    [.vmMain GameExport.gameClientConnect.toInt firstConnect
      { randomUuid := ['a'], userinfo := some keyedUserinfo },
     .vmReturns { nextUuid := ['b'] },
     .vmMain GameExport.gameRunFrame.toInt (.replicate 12 0) { outcomes := .replicate 4 answer },
     .vmReturns {}]

def sameUserinfo : ProxyAction :=
  .vmMain GameExport.gameClientUserinfoChanged.toInt (.replicate 12 0) { userinfo := some keyedUserinfo }

/-- The key is sent although the player is logged in with it. -/
theorem sameUserinfo_logs_in :
    ¬ StepsMeet ProxyRun.step NoRedundantLogin (.initial .blank) (loggedInWithKey ++ [sameUserinfo]) := by
  have sent : ((run ProxyRun.step (.initial .blank) loggedInWithKey).bind fun s =>
      (s.step sameUserinfo).map fun t => decide (RepeatsKey s 0 sameUserinfo ∧
        t.proxy.world.loginsFor 0 ≠ s.proxy.world.loginsFor 0)) = some true := by decide +kernel
  obtain ⟨s, ran, rest⟩ := Option.bind_eq_some_iff.mp sent
  obtain ⟨t, stepped, facts⟩ := Option.map_eq_some_iff.mp rest
  obtain ⟨repeats, more⟩ := of_decide_eq_true facts
  intro quiet
  have here := ((stepsMeet_append.mp quiet).2 s ran).1
  exact more (here 0 t repeats stepped).1

end Q3df.Client
