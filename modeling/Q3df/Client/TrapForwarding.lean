/-
Module: Q3df.Client.TrapForwarding
Layer: Client
Purpose: The four wrappers of `Q3SysCall` that dispatch events around their engine call, and the
  command `VmMain` may keep from the VM. A dispatch is reduced to its meaning, the matching handlers
  one after the other on one shared object; the wrappers then ask that object's flag. Two of them
  ask a variable without a value when no handler matched, which decides when they forward as they
  should.
Imports: Q3df.Client.PluginHandlers, Q3df.Client.Q3SysCall
Trusted boundary: none
Main exports: runHandlers, executeEventVoid_eq, eventCall_eq, eventCall_unhooked, HookedTrap,
  Q3SysCall.traced, Forwards, forwards_when_unhandled_iff
Open obligations: none
-/
import Q3df.Client.PluginHandlers
import Q3df.Client.Q3SysCall

namespace Q3df.Client

/-!
### What a dispatch does

The handlers run in order, with the arguments of the call, and the flag is the
one of the last of them.
-/

section Dispatch

variable {σ : Type*}

/-- The handlers of a dispatch, one after the other, on one shared object. -/
def runHandlers (handlers : List (Q3EventHandler σ)) (e : Q3EventArgs) (w : σ) : Q3EventArgs × σ :=
  handlers.foldl (fun s handler => handler.callback s.1 s.2) (e, w)

variable {eventList : List (Q3EventHandler σ)} {eventType : Int} {executeType : Q3EventExecuteType}
  {arg : Vector Int 12} {eventItem : Option Bool} {w : σ}

/-- If all handlers match, the loop runs them one after the other. -/
theorem executeEventLoop_eq {handlers : List (Q3EventHandler σ)}
    (hit : ∀ handler ∈ handlers, handler.matches? eventType executeType = true) (r : EventResult σ) :
    executeEventLoop eventType executeType (fun e returnValue => (returnValue, e.getHandled)) handlers r =
      { args := (runHandlers handlers r.args r.world).1
        returnValue := r.returnValue
        eventItem := if handlers = [] then r.eventItem
          else some (runHandlers handlers r.args r.world).1.getHandled
        world := (runHandlers handlers r.args r.world).2 } := by
  induction handlers generalizing r with
  | nil => rfl
  | cons handler rest inductionHypothesis =>
      have here := hit handler (List.mem_cons_self ..)
      have later : ∀ other ∈ rest, other.matches? eventType executeType = true := by
        intro other member
        exact hit other (List.mem_cons_of_mem _ member)
      rw [executeEventLoop, if_pos here, inductionHypothesis later]
      cases rest with
      | nil => rfl
      | cons next rest => simp [runHandlers]

/-- A dispatch runs the matching handlers, and remembers the shared flag if
there is one of them. -/
theorem executeEventVoid_eq :
    let ran := runHandlers (matching eventList eventType executeType) (.new arg) w
    (executeEventVoid eventList eventType executeType arg eventItem w).world = ran.2 ∧
      (executeEventVoid eventList eventType executeType arg eventItem w).eventItem =
        if matching eventList eventType executeType = [] then eventItem else some ran.1.getHandled := by
  intro ran
  have hit : ∀ handler ∈ matching eventList eventType executeType,
      handler.matches? eventType executeType = true := by
    intro handler member
    exact (List.mem_filter.mp member).2
  rw [executeEventVoid, executeEventLoop_matching, executeEventLoop_eq hit]
  exact ⟨rfl, rfl⟩

end Dispatch

/-!
### A wrapper with events

The handlers before, the engine's call unless the flag says otherwise, the
handlers after.
-/

section Wrapper

variable {σ : Type}

/-- `EngineCall` of a wrapper. -/
def engineCall (trap : GameImport) (args : List VarArg) : EngineCall :=
  { trap := trap.toInt, words := args.flatMap VarArg.words }

/-- The handlers of a trap, run in one phase. -/
def Q3SysCall.runPhase (sc : Q3SysCall σ) (trap : GameImport) (executeType : Q3EventExecuteType)
    (params : List Word) (w : EngineWorld σ) : Q3EventArgs × EngineWorld σ :=
  runHandlers (matching sc.eventList trap.toInt executeType) (.new (eventArgs params)) w

/-- The engine's part of a wrapper. -/
def Q3SysCall.forward (sc : Q3SysCall σ) (trap : GameImport) (args : List VarArg) (w : EngineWorld σ) :
    EngineWorld σ :=
  { engine := (sc.syscall (engineCall trap args) w.engine).2, calls := w.calls ++ [engineCall trap args] }

variable {sc : Q3SysCall σ} {trap : GameImport} {params : List Word} {args : List VarArg}
  {eventItem : EventItem} {w : EngineWorld σ}

/-- A dispatch answers with the flag of the last handler, or with nothing if
there was none. -/
theorem executeEvent_eq {executeType : Q3EventExecuteType} :
    sc.executeEvent trap executeType params w =
      some (if matching sc.eventList trap.toInt executeType = [] then none
          else some (sc.runPhase trap executeType params w).1.getHandled,
        (sc.runPhase trap executeType params w).2) := by
  have ran := @executeEventVoid_eq _ sc.eventList trap.toInt executeType (eventArgs params) none w
  rw [Q3SysCall.executeEvent, ran.1, ran.2]
  rfl

/-- The end of a wrapper: the AFTER handlers, whose flag nobody asks. -/
theorem afterPhase_eq :
    (do
      let _ ← sc.executeEvent trap .executeTypeAfter params
      return () : SysCallM σ Unit) w =
      some ((), (sc.runPhase trap .executeTypeAfter params w).2) := by
  show (sc.executeEvent trap .executeTypeAfter params w).bind (fun called => some ((), called.2)) = _
  rw [executeEvent_eq]
  rfl

/-- A wrapper with events: the BEFORE handlers, the engine unless they leave the
event handled, the AFTER handlers. Where no BEFORE handler ran, the variable's
own value is asked. -/
theorem eventCall_eq :
    sc.eventCall eventItem trap params args w =
      let before := sc.runPhase trap .executeTypeBefore params w
      (if matching sc.eventList trap.toInt .executeTypeBefore = [] then eventItem.handled
        else some before.1.getHandled).map fun handled =>
          ((), (sc.runPhase trap .executeTypeAfter params
            (if handled then before.2 else sc.forward trap args before.2)).2) := by
  unfold Q3SysCall.eventCall
  simp only [bind, StateT.bind, executeEvent_eq, Option.bind_some]
  by_cases unhooked : matching sc.eventList trap.toInt .executeTypeBefore = []
  · rw [if_pos unhooked, if_pos unhooked]
    cases eventItem.handled with
    | none => rfl
    | some handled =>
        cases handled with
        | true => exact afterPhase_eq
        | false => exact afterPhase_eq
  · rw [if_neg unhooked, if_neg unhooked]
    cases (sc.runPhase trap .executeTypeBefore params w).1.getHandled with
    | true => exact afterPhase_eq
    | false => exact afterPhase_eq

/-- A wrapper with events whose trap nobody listens to asks the flag its
variable happens to point at. -/
theorem eventCall_unhooked (unhooked : ∀ executeType, matching sc.eventList trap.toInt executeType = []) :
    sc.eventCall eventItem trap params args w =
      eventItem.handled.map fun handled => ((), if handled then w else sc.forward trap args w) := by
  have silent (executeType : Q3EventExecuteType) (v : EngineWorld σ) :
      (sc.runPhase trap executeType params v).2 = v := by
    rw [Q3SysCall.runPhase, unhooked]
    rfl
  rw [eventCall_eq]
  simp only [silent, if_pos (unhooked _)]

end Wrapper

/-!
### The trace of a wrapper

Instrumented handlers and an instrumented engine write down what runs, in order.
What a handler itself asks of the engine is part of the handler and not of the
trace.
-/

/-- An entry of the trace: a handler that ran, or the wrapper's own call. -/
inductive TrapEntry (σ : Type) where
  | handler (handler : Q3EventHandler (EngineWorld σ))
  | engineCall (call : EngineCall)

/-- An engine with a trace. -/
abbrev Traced (σ : Type) := σ × List (TrapEntry σ)

section Trace

variable {σ : Type}

/-- The world without the trace. -/
def EngineWorld.plain (w : EngineWorld (Traced σ)) : EngineWorld σ :=
  { engine := w.engine.1, calls := w.calls }

/-- The world with a trace. -/
def EngineWorld.traced (w : EngineWorld σ) (trace : List (TrapEntry σ)) : EngineWorld (Traced σ) :=
  { engine := (w.engine, trace), calls := w.calls }

/-- The handler that also writes itself down. -/
def Q3EventHandler.traced (handler : Q3EventHandler (EngineWorld σ)) :
    Q3EventHandler (EngineWorld (Traced σ)) where
  eventType := handler.eventType
  executeType := handler.executeType
  callback := fun e w =>
    let called := handler.callback e w.plain
    (called.1, called.2.traced (w.engine.2 ++ [.handler handler]))

/-- The wrappers over instrumented handlers and an instrumented engine. -/
def Q3SysCall.traced (sc : Q3SysCall σ) : Q3SysCall (Traced σ) where
  syscall := fun call w =>
    let answered := sc.syscall call w.1
    (answered.1, answered.2, w.2 ++ [.engineCall call])
  eventList := sc.eventList.map Q3EventHandler.traced
  uninitialized := sc.uninitialized

variable {sc : Q3SysCall σ} {trap : GameImport} {params : List Word} {args : List VarArg}
  {w : EngineWorld σ} {trace : List (TrapEntry σ)}

/-- The handlers of a trap in one phase, as they stand in a trace. -/
def phaseEntries (sc : Q3SysCall σ) (trap : GameImport) (executeType : Q3EventExecuteType) :
    List (TrapEntry σ) :=
  (matching sc.eventList trap.toInt executeType).map .handler

theorem matching_traced {executeType : Q3EventExecuteType} :
    matching sc.traced.eventList trap.toInt executeType =
      (matching sc.eventList trap.toInt executeType).map Q3EventHandler.traced := by
  rw [matching, matching, Q3SysCall.traced, List.filter_map]
  rfl

/-- Instrumented handlers do what the plain ones do, and write themselves down. -/
theorem runHandlers_traced (handlers : List (Q3EventHandler (EngineWorld σ))) (e : Q3EventArgs)
    (w : EngineWorld σ) (trace : List (TrapEntry σ)) :
    runHandlers (handlers.map Q3EventHandler.traced) e (w.traced trace) =
      ((runHandlers handlers e w).1,
        (runHandlers handlers e w).2.traced (trace ++ handlers.map .handler)) := by
  induction handlers generalizing e w trace with
  | nil => simp [runHandlers]
  | cons handler rest inductionHypothesis =>
      have next := inductionHypothesis (handler.callback e w).1 (handler.callback e w).2
        (trace ++ [.handler handler])
      rw [List.append_assoc] at next
      exact next

/-- An instrumented phase does what the plain one does, and writes its handlers
down. -/
theorem runPhase_traced {executeType : Q3EventExecuteType} :
    sc.traced.runPhase trap executeType params (w.traced trace) =
      ((sc.runPhase trap executeType params w).1,
        (sc.runPhase trap executeType params w).2.traced
          (trace ++ phaseEntries sc trap executeType)) := by
  rw [Q3SysCall.runPhase, matching_traced]
  exact runHandlers_traced _ _ _ _

/-- An instrumented call of the engine writes itself down. -/
theorem forward_traced : sc.traced.forward trap args (w.traced trace) =
    (sc.forward trap args w).traced (trace ++ [.engineCall (engineCall trap args)]) := rfl

end Trace

/-!
### The hooked traps

The four wrappers with events as one definition, and `VmMain` beside them.
-/

/-- A call of one of the wrappers with events. -/
inductive HookedTrap where
  | printf (fmt : Ptr)
  | locateGameData (gEnts : Ptr) (numGEntities sizeofGEntityT : Word) (clients : Ptr)
      (sizeofGClient : Word)
  | getUserinfo (num : Word) (buffer : Ptr) (bufferSize : Word)
  | setUserinfo (num : Word) (buffer : Ptr)
deriving DecidableEq

namespace HookedTrap

variable {σ : Type}

/-- The wrapper. -/
def run (sc : Q3SysCall σ) : HookedTrap → SysCallM σ Unit
  | printf fmt => sc.printf fmt
  | locateGameData gEnts numGEntities sizeofGEntityT clients sizeofGClient =>
      sc.locateGameData gEnts numGEntities sizeofGEntityT clients sizeofGClient
  | getUserinfo num buffer bufferSize => sc.getUserinfo num buffer bufferSize
  | setUserinfo num buffer => sc.setUserinfo num buffer

/-- The trap of the wrapper. -/
def trap : HookedTrap → GameImport
  | printf _ => .gPrint
  | locateGameData _ _ _ _ _ => .gLocateGameData
  | getUserinfo _ _ _ => .gGetUserinfo
  | setUserinfo _ _ => .gSetUserinfo

/-- The parameters of its event. -/
def params : HookedTrap → List Word
  | printf fmt => [fmt.address]
  | locateGameData gEnts numGEntities sizeofGEntityT clients sizeofGClient =>
      [gEnts.address, numGEntities, sizeofGEntityT, clients.address, sizeofGClient]
  | getUserinfo num buffer bufferSize => [num, buffer.address, bufferSize]
  | setUserinfo num buffer => [num, buffer.address]

/-- What it passes on to the engine: its own arguments. -/
def args : HookedTrap → List VarArg
  | printf fmt => [fmt]
  | locateGameData gEnts numGEntities sizeofGEntityT clients sizeofGClient =>
      [gEnts, numGEntities, sizeofGEntityT, clients, sizeofGClient]
  | getUserinfo num buffer bufferSize => [num, buffer, bufferSize]
  | setUserinfo num buffer => [num, buffer]

/-- The wrapper declares its `eventItem` with the value `NULL`. -/
def declaresNull : HookedTrap → Bool
  | printf _ | getUserinfo _ _ _ => true
  | locateGameData _ _ _ _ _ | setUserinfo _ _ => false

/-- The shared object is marked handled after the last matching BEFORE handler. -/
def handled (hooked : HookedTrap) (sc : Q3SysCall σ) (w : EngineWorld σ) : Bool :=
  (sc.runPhase hooked.trap .executeTypeBefore hooked.params w).1.getHandled

theorem run_eq (hooked : HookedTrap) (sc : Q3SysCall σ) :
    hooked.run sc =
      sc.eventCall (if hooked.declaresNull then .null else sc.uninitialized) hooked.trap hooked.params
        hooked.args := by
  cases hooked <;> rfl

end HookedTrap

/-- The wrapper runs all BEFORE handlers, then makes its engine call once if the
event is unhandled and not at all otherwise, then runs all AFTER handlers; and
the instruments change nothing. -/
def Forwards {σ : Type} (sc : Q3SysCall σ) (hooked : HookedTrap) (w : EngineWorld σ) : Prop :=
  ∃ t, hooked.run sc.traced (w.traced []) = some ((), t) ∧ hooked.run sc w = some ((), t.plain) ∧
    t.engine.2 = phaseEntries sc hooked.trap .executeTypeBefore ++
      (if hooked.handled sc w then [] else [.engineCall (engineCall hooked.trap hooked.args)]) ++
        phaseEntries sc hooked.trap .executeTypeAfter

/-- The command's shared object is marked handled after its last BEFORE handler. -/
def commandHandled {τ : Type*} (arg : Vector Int 12) (state : ProxyState τ) : Q3EventArgs × τ :=
  runHandlers (matching state.eventList GameExport.gameClientCommand.toInt .executeTypeBefore) (.new arg)
    state.world

/-- `VmMain` executes the VM for the command if and only if the command is not
marked handled. -/
def ForwardsCommand {τ : Type*} (rs : Recordsystem τ) (arg : Vector Int 12)
    (state : ProxyState τ) : Prop :=
  .exec ∈ vmMainLog rs GameExport.gameClientCommand.toInt arg state ↔
    (commandHandled arg state).1.getHandled = false

section Forwarding

variable {σ : Type} {sc : Q3SysCall σ} {hooked : HookedTrap} {w : EngineWorld σ}

/-- What the wrapper asks when its BEFORE handlers are done. -/
def asksFlag (sc : Q3SysCall σ) (hooked : HookedTrap) (w : EngineWorld σ) : Option Bool :=
  if matching sc.eventList hooked.trap.toInt .executeTypeBefore = [] then
    (if hooked.declaresNull then EventItem.null else sc.uninitialized).handled
  else some (hooked.handled sc w)

/-- A run of the wrapper over the instruments, by the flag it asks. -/
theorem run_traced : hooked.run sc.traced (w.traced []) = (asksFlag sc hooked w).map fun flag =>
    ((), ((sc.runPhase hooked.trap .executeTypeAfter hooked.params
      (if flag then (sc.runPhase hooked.trap .executeTypeBefore hooked.params w).2
        else sc.forward hooked.trap hooked.args
          (sc.runPhase hooked.trap .executeTypeBefore hooked.params w).2)).2.traced
      (phaseEntries sc hooked.trap .executeTypeBefore ++
        (if flag then [] else [.engineCall (engineCall hooked.trap hooked.args)]) ++
          phaseEntries sc hooked.trap .executeTypeAfter))) := by
  rw [HookedTrap.run_eq, eventCall_eq, matching_traced]
  simp only [List.map_eq_nil_iff, runPhase_traced, List.nil_append]
  show Option.map _ (asksFlag sc hooked w) = _
  cases asksFlag sc hooked w with
  | none => rfl
  | some flag =>
      cases flag with
      | true => simp [runPhase_traced]
      | false => simp [forward_traced, runPhase_traced]

/-- A hooked trap is its three phases, with the flag asked in between. -/
theorem run_plain : hooked.run sc w = (asksFlag sc hooked w).map fun flag =>
    ((), (sc.runPhase hooked.trap .executeTypeAfter hooked.params
      (if flag then (sc.runPhase hooked.trap .executeTypeBefore hooked.params w).2
        else sc.forward hooked.trap hooked.args
          (sc.runPhase hooked.trap .executeTypeBefore hooked.params w).2)).2) := by
  rw [HookedTrap.run_eq, eventCall_eq]
  rfl

/-- Where no BEFORE handler matches nothing is marked handled. -/
theorem handled_of_unhooked
    (unhooked : matching sc.eventList hooked.trap.toInt .executeTypeBefore = []) :
    hooked.handled sc w = false := by
  rw [HookedTrap.handled, Q3SysCall.runPhase, unhooked]
  rfl

/-- The wrapper forwards as it should exactly if it asks the shared object's
flag. -/
theorem forwards_iff_asks : Forwards sc hooked w ↔ asksFlag sc hooked w = some (hooked.handled sc w) := by
  unfold Forwards
  rw [run_traced, run_plain]
  cases asked : asksFlag sc hooked w with
  | none => simp
  | some flag =>
      constructor
      · rintro ⟨t, ran, -, trace⟩
        rw [Option.map_some, Option.some.injEq, Prod.mk.injEq] at ran
        rw [← ran.2] at trace
        have sameMiddle := List.append_cancel_left (List.append_cancel_right trace)
        cases flag with
        | true =>
            cases isHandled : hooked.handled sc w with
            | true => rfl
            | false => simp [isHandled] at sameMiddle
        | false =>
            cases isHandled : hooked.handled sc w with
            | true => simp [isHandled] at sameMiddle
            | false => rfl
      · intro same
        rw [Option.some.injEq] at same
        subst same
        exact ⟨_, rfl, rfl, rfl⟩

/-- The flag is the one the handlers gave, unless there are none and the
variable has no value. -/
theorem asksFlag_iff : asksFlag sc hooked w = some (hooked.handled sc w) ↔
    hooked.declaresNull = true ∨ matching sc.eventList hooked.trap.toInt .executeTypeBefore ≠ [] ∨
      sc.uninitialized.handled = some false := by
  unfold asksFlag
  by_cases unhooked : matching sc.eventList hooked.trap.toInt .executeTypeBefore = []
  · rw [if_pos unhooked, handled_of_unhooked unhooked]
    cases hooked.declaresNull with
    | true => exact iff_of_true rfl (.inl rfl)
    | false => simp [unhooked]
  · rw [if_neg unhooked]
    exact iff_of_true rfl (.inr (.inl unhooked))

end Forwarding

/-- The command reaches the VM exactly if it is unhandled and the VM is
initialised. -/
theorem exec_mem_vmMainLog_iff {τ : Type*} {rs : Recordsystem τ} {arg : Vector Int 12}
    {state : ProxyState τ} :
    .exec ∈ vmMainLog rs GameExport.gameClientCommand.toInt arg state ↔
      (commandHandled arg state).1.getHandled = false ∧
        rs.isInitilized (commandHandled arg state).2 = true := by
  obtain ⟨world, item⟩ := @executeEventVoid_eq _ state.eventList GameExport.gameClientCommand.toInt
    .executeTypeBefore arg none state.world
  have asked : (executeEventVoid state.eventList GameExport.gameClientCommand.toInt .executeTypeBefore arg
      none state.world).eventItem = some true ↔ (commandHandled arg state).1.getHandled = true := by
    rw [item]
    split
    case isTrue unhooked =>
      rw [commandHandled, unhooked]
      exact iff_of_false (by simp) (by simp [runHandlers, Q3EventArgs.new, Q3EventArgs.getHandled])
    case isFalse => exact Option.some_inj
  rw [vmMainLog_eq rs (by decide), vmMainEntries, List.mem_append,
    or_iff_right (exec_not_mem_beforeEntries _ _ _ _), beforeForward, GameExport.ofInt?_toInt]
  simp only [true_and, asked, world]
  show _ ↔ _ ∧ rs.isInitilized (commandHandled arg state).2 = true
  cases (commandHandled arg state).1.getHandled with
  | true => simp
  | false =>
      have after : .exec ∉ afterEntries GameExport.gameClientCommand.toInt state.eventList :=
        exec_not_mem_handlerEntries _ _ _
      simp only [Bool.false_eq_true, if_false, true_and, List.mem_append]
      rw [or_iff_left after]
      show (.exec ∈
        if rs.isInitilized (commandHandled arg state).2 = true then [LogEntry.exec] else []) ↔ _
      split
      case isTrue initilized => simp [initilized]
      case isFalse notInitilized => simp [notInitilized]

/-- Hooked traps are forwarded exactly when they are unhandled: `Printf` and
`GetUserinfo` always; `LocateGameData` and `SetUserinfo` if a BEFORE handler
matches or the pointer they do not initialise happens to read as unhandled; and
`VmMain` keeps a command from the VM exactly when it is handled, as long as
there is a VM. -/
theorem forwards_when_unhandled_iff {σ : Type} {τ : Type*} (sc : Q3SysCall σ) (hooked : HookedTrap)
    (w : EngineWorld σ) (rs : Recordsystem τ) (arg : Vector Int 12) (state : ProxyState τ) :
    (Forwards sc hooked w ↔
      hooked.declaresNull = true ∨ matching sc.eventList hooked.trap.toInt .executeTypeBefore ≠ [] ∨
        sc.uninitialized.handled = some false) ∧
    (ForwardsCommand rs arg state ↔
      (commandHandled arg state).1.getHandled = true ∨
        rs.isInitilized (commandHandled arg state).2 = true) := by
  refine ⟨forwards_iff_asks.trans asksFlag_iff, ?_⟩
  rw [ForwardsCommand, exec_mem_vmMainLog_iff]
  cases (commandHandled arg state).1.getHandled with
  | true => simp
  | false => simp

/-- No handler is registered, and the variable of `SetUserinfo` points at
something that reads as handled: the engine is not called, although nothing is
marked handled. -/
theorem setUserinfo_not_forwarded :
    ¬ Forwards { syscall := fun _ w => (0, w), eventList := [], uninitialized := .dangling true }
        (.setUserinfo 0 ⟨0⟩) ({ engine := (), calls := [] } : EngineWorld Unit) := by
  rintro ⟨t, ran, -, trace⟩
  have silent : (HookedTrap.run (Q3SysCall.traced
      { syscall := fun _ w => (0, w), eventList := [], uninitialized := .dangling true })
        (.setUserinfo 0 ⟨0⟩) (({ engine := (), calls := [] } : EngineWorld Unit).traced [])).map
          (fun done => done.2.engine.2.length) = some 0 := rfl
  rw [ran, Option.map_some, trace] at silent
  cases silent

end Q3df.Client
