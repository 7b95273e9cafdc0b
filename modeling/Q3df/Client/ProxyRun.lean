/-
Module: Q3df.Client.ProxyRun
Layer: Client
Purpose: Runs of the whole proxy: the engine's calls of `VmMain` with the two plugins registered,
  over any number of maps. A call that reaches the game VM stays open while the VM runs, so that the
  VM's traps and the calls the engine makes meanwhile come in between, and the call's second
  dispatch comes last. Every step is the code of `VmMain` itself.
Imports: Q3df.Client.PluginHandlers, Q3df.Client.SlotView, Q3df.Client.Q3SysCall
Trusted boundary: `vm/qagame.qvm` loads; the engine calls GAME_INIT first, after it has loaded the
  library, and GAME_SHUTDOWN last, neither inside another call, and otherwise names slots below
  MAX_CLIENTS; it begins only a player whose connect was accepted; it stores a player's new userinfo
  before the connect and before GAME_CLIENT_USERINFO_CHANGED, and between calls changes it for
  SetUserinfo only
Main exports: CallInputs, recordsystem, ProxyRun, ProxyAction, ProxyRun.step, vmMain_eq_steps
Open obligations: none
-/
import Q3df.Client.PluginHandlers
import Q3df.Client.SlotView
import Q3df.Client.Q3SysCall

namespace Q3df.Client

open Q3df.Transition

/-- The cvars of the plugins. -/
structure PluginCvars where
  rsNoNewClients : Int
  rsWelcome1 : CString
  rsWelcome2 : CString
  rsWelcome3 : CString
deriving DecidableEq

/-- What the world answers during one call: the userinfo the engine stores
before it, the ids the generator returns before and after the VM has run, the
arguments of a command, the cvars, the replies that are ready, the strings and
the result of the VM, and the userinfo the VM sets while GAME_SHUTDOWN runs. -/
structure CallInputs where
  userinfo : Option InfoString := none
  randomUuid : CString := []
  nextUuid : CString := []
  argv : List CString := []
  cvars : PluginCvars :=
    { rsNoNewClients := 0, rsWelcome1 := [], rsWelcome2 := [], rsWelcome3 := [] }
  outcomes : List CallOutcome := []
  vmString : Int → InfoString := fun _ => .empty
  vmRet : Int := 0
  shutdownTraps : List (Slot × InfoString) := []

namespace ProxyWorld

def setCvars (cvars : PluginCvars) (w : ProxyWorld) : ProxyWorld :=
  { w with
    rsNoNewClients := cvars.rsNoNewClients
    rsWelcome1 := cvars.rsWelcome1, rsWelcome2 := cvars.rsWelcome2, rsWelcome3 := cvars.rsWelcome3 }

/-- Run the callbacks of the calls that are done, in request order. -/
def finishCalls : List CallOutcome → ProxyWorld → ProxyWorld
  | [], w => w
  | outcome :: outcomes, w =>
      match w.pending with
      | [] => w
      | item :: rest => finishCalls outcomes (w.runCallback item rest outcome)

/-- New users, all reset. -/
def resetUsers (w : ProxyWorld) : ProxyWorld := { w with users := fun _ => .initial }

/-- The end of the shutdown branch: the executer runs the callbacks that are
left, and the plugins, the executer and the users are deleted. -/
def tearDown (outcomes : List CallOutcome) (w : ProxyWorld) : ProxyWorld :=
  { (w.finishCalls outcomes).resetUsers with
    pending := [], counter := 0, sentTextLinesToClient := [] }

end ProxyWorld

/-- What `VmMain` calls, with the plugins in the store. -/
def recordsystem (inputs : CallInputs) : Recordsystem ProxyWorld where
  gameInit := fun _ _ _ w => (true, pluginHandlers inputs.vmString, w.setCvars inputs.cvars)
  updateQuake3Cvars := .setCvars inputs.cvars
  doMainThreadWork := .finishCalls inputs.outcomes
  isInitilized := fun _ => true
  exec := fun _ _ w =>
    let w := inputs.shutdownTraps.foldl (fun w trap => w.engineUserinfo trap.1 trap.2) w
    (inputs.vmRet, { w with randomUuid := inputs.nextUuid })
  -- A pointer into the VM is carried as the VM's own number.
  explicitArgPtr := fun intValue _ => intValue
  startClients := .resetUsers
  checkForUpdates := id
  tearDown := .tearDown inputs.outcomes

/-- A call of `VmMain` that waits for the VM: what the first `switch` left for
the code behind it. -/
structure VmCall where
  command : Int
  arg : Vector Int 12
  ret : Int
  eventItem : Option Bool
deriving DecidableEq

/-- The proxy, and the calls of `VmMain` that wait for the VM, the innermost
first. -/
structure ProxyRun where
  proxy : ProxyState ProxyWorld
  calls : List VmCall

/-- What can happen: the engine calls `VmMain`, the running VM calls
`SetUserinfo`, or the VM returns from the innermost call. -/
inductive ProxyAction where
  | vmMain (command : Int) (arg : Vector Int 12) (inputs : CallInputs)
  | setUserinfo (uninitialized : EventItem) (slot : Slot) (info : InfoString)
  | vmReturns (inputs : CallInputs)

/-- The engine's part before a call: the player's new userinfo, the arguments of
a command. -/
def prepare (command : Int) (arg : Vector Int 12) (inputs : CallInputs) (w : ProxyWorld) : ProxyWorld :=
  let w : ProxyWorld := { w with randomUuid := inputs.randomUuid, argv := inputs.argv }
  match GameExport.ofInt? command, slotOf? (arg0 arg), inputs.userinfo with
  | some .gameClientConnect, some playernum, some info
  | some .gameClientUserinfoChanged, some playernum, some info => w.engineUserinfo playernum info
  | _, _, _ => w

/-- The engine's answer to `G_SET_USERINFO`, where the buffer holds `info`:
store it. -/
def engineSetUserinfo (info : InfoString) (call : EngineCall) (userinfo : Slot → InfoString) :
    Word × (Slot → InfoString) :=
  match GameImport.ofInt? call.trap, call.words with
  | some .gSetUserinfo, .word num :: _ =>
      match slotOf? num.toInt with
      | some playernum => (0, Function.update userinfo playernum info)
      | none => (0, userinfo)
  | _, _ => (0, userinfo)

/-- The handlers on the list of the VM's `Q3SysCall`. What they do does not
touch a userinfo. -/
def vmSyscallHandlers {σ : Type} : List (Q3EventHandler σ) :=
  let handler (trap : GameImport) : Q3EventHandler σ :=
    { eventType := trap.toInt, executeType := .executeTypeBefore, callback := fun e w => (e, w) }
  [handler .gPrint, handler .gLocateGameData, handler .gPrint]

/-- The `SetUserinfo` the VM's trap reaches. -/
def vmSetUserinfo (uninitialized : EventItem) (slot : Slot) (info : InfoString)
    (userinfo : Slot → InfoString) : Option (Slot → InfoString) :=
  let vmSyscall : Q3SysCall (Slot → InfoString) :=
    { syscall := engineSetUserinfo info, eventList := vmSyscallHandlers
      uninitialized := uninitialized }
  (vmSyscall.setUserinfo (BitVec.ofNat 32 slot) ⟨0⟩ { engine := userinfo, calls := [] }).map
    fun done => done.2.engine

/-- The arguments of a first connect of player 0. -/
def firstConnect : Vector Int 12 := #v[0, 1, 0, 0, 0, 0, 0, 0, 0, 0, 0, 0]

namespace ProxyRun

/-- The library has been loaded, and nothing called. -/
def initial (engine : EngineSetup) : ProxyRun :=
  { proxy := { eventList := [], world := .initial engine }, calls := [] }

/-- `userList_` is filled: `GAME_INIT` has returned. -/
def hasUsers (s : ProxyRun) : Bool :=
  !s.proxy.eventList.isEmpty && s.calls.all fun call => call.command != GameExport.gameInit.toInt

/-- The calls the engine makes. -/
def admits (s : ProxyRun) (command : Int) (arg : Vector Int 12) : Bool :=
  match GameExport.ofInt? command with
  | some .gameInit => s.proxy.eventList.isEmpty && s.calls.isEmpty
  | some .gameShutdown => !s.proxy.eventList.isEmpty && s.calls.isEmpty
  | some .gameClientConnect | some .gameClientUserinfoChanged | some .gameClientDisconnect
  | some .gameClientCommand | some .gameClientThink => s.hasUsers && (slotOf? (arg0 arg)).isSome
  | some .gameClientBegin =>
      s.hasUsers && match slotOf? (arg0 arg) with
        | some playernum => (s.proxy.world.users playernum).state != .clientFree
        | none => false
  | some .gameRunFrame | some .gameConsoleCommand | some .botaiStartFrame | none => s.hasUsers

/-- The proxy when it is called. -/
def prepared (s : ProxyRun) (command : Int) (arg : Vector Int 12) (inputs : CallInputs) :
    ProxyState ProxyWorld :=
  { s.proxy with world := prepare command arg inputs s.proxy.world }

/-- One step; `none` where nothing of the kind happens, or where the process
faults. -/
def step (s : ProxyRun) : ProxyAction → Option ProxyRun
  | .vmMain command arg inputs =>
      if s.admits command arg then
        match beforeForward (recordsystem inputs) command arg (s.prepared command arg inputs) with
        | .returns _ proxy => some { s with proxy := proxy }
        | .forwards ret eventItem proxy =>
            let call : VmCall := { command := command, arg := arg, ret := ret, eventItem := eventItem }
            some { proxy := proxy, calls := call :: s.calls }
      else none
  | .setUserinfo uninitialized slot info =>
      if s.calls = [] then none
      else (vmSetUserinfo uninitialized slot info s.proxy.world.userinfo).map fun userinfo =>
        { s with proxy := { s.proxy with world := { s.proxy.world with userinfo := userinfo } } }
  | .vmReturns inputs =>
      match s.calls with
      | [] => none
      | call :: calls =>
          let rs := recordsystem { inputs with shutdownTraps := [] }
          let vm := forwardToVm rs call.command call.arg call.ret s.proxy.world
          let after := afterForward call.command call.arg vm.1 call.eventItem
            { s.proxy with world := vm.2 }
          some { proxy := after.2, calls := calls }

end ProxyRun

/-- A call during which the VM makes no trap and the engine no other call is
`vmMain` itself. -/
theorem vmMain_eq_steps {s : ProxyRun} {command : Int} {arg : Vector Int 12} {inputs : CallInputs}
    (admitted : s.admits command arg = true) (noTraps : inputs.shutdownTraps = []) :
    let called := vmMain (recordsystem inputs) command arg (s.prepared command arg inputs)
    ∃ returns, (returns = [] ∨ returns = [.vmReturns inputs]) ∧
      run ProxyRun.step s (.vmMain command arg inputs :: returns) =
        some { s with proxy := called.2 } := by
  intro called
  have noShutdownTraps : ({ inputs with shutdownTraps := [] } : CallInputs) = inputs := by
    rw [← noTraps]
  cases outcome : beforeForward (recordsystem inputs) command arg (s.prepared command arg inputs) with
  | returns ret proxy =>
      have returned : called = (ret, proxy) := by
        simp only [called, vmMain, outcome]
      refine ⟨[], .inl rfl, ?_⟩
      simp only [run, ProxyRun.step, if_pos admitted, outcome, returned, Option.bind_some]
  | forwards ret eventItem proxy =>
      have forwarded : called = afterForward command arg
          (forwardToVm (recordsystem inputs) command arg ret proxy.world).1 eventItem
          { proxy with world := (forwardToVm (recordsystem inputs) command arg ret proxy.world).2 } := by
        simp only [called, vmMain, outcome]
      refine ⟨[.vmReturns inputs], .inr rfl, ?_⟩
      simp only [run, ProxyRun.step, if_pos admitted, outcome, forwarded, Option.bind_some,
        noShutdownTraps]

end Q3df.Client
