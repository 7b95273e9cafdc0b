/-
Module: Q3df.Client.Q3Event
Layer: Client
Purpose: The event system shared by `Recordsystem` and `Q3SysCall`: the arguments one event carries
  through its handlers, the handlers, and the two dispatch macros `EXECUTE_EVENT_VOID` and
  `EXECUTE_EVENT_RETURN_ARG` as one loop. Handlers act on a world of any type. A handler can be
  instrumented with a log, which is how later modules say which handlers a dispatch ran, how often
  and in which order.
Imports: Mathlib.Data.Int.Notation
Trusted boundary: human-reviewed transcription of client/Q3Event.h
Main exports: Q3EventArgs, Q3EventHandler, matching, executeEventLoop, executeEventVoid,
  executeEventReturnArg, Q3EventHandler.logged, executeEventVoid_logged,
  executeEventReturnArg_logged
Open obligations: none
-/
import Mathlib.Data.Int.Notation

namespace Q3df.Client

/-- `Q3EventExecuteType`: whether a handler runs before or after the call it
hooks. -/
inductive Q3EventExecuteType where
  | executeTypeBefore
  | executeTypeAfter
deriving Repr, DecidableEq

/-- `Q3EventArgs`: one object per dispatch, shared by all handlers of the event. -/
structure Q3EventArgs where
  arg : Vector Int 12
  returnValue : Int
  isHandled : Bool
deriving Repr, DecidableEq

namespace Q3EventArgs

/-- The object a dispatch macro allocates: the arguments set, the rest zero. -/
def new (arg : Vector Int 12) : Q3EventArgs :=
  { arg := arg, returnValue := 0, isHandled := false }

def getParam (e : Q3EventArgs) (index : Fin 12) : Int := e.arg[index]

def getReturn (e : Q3EventArgs) : Int := e.returnValue

def setReturn (e : Q3EventArgs) (retArg : Int) : Q3EventArgs := { e with returnValue := retArg }

def getHandled (e : Q3EventArgs) : Bool := e.isHandled

def setHandled (e : Q3EventArgs) (handled : Bool) : Q3EventArgs := { e with isHandled := handled }

end Q3EventArgs

/-- `Q3EventHandler`. The object's own `isHandled_` flag is not a field: it is
written just before it is read, and lives in the `eventItem` result of a
dispatch. -/
structure Q3EventHandler (σ : Type*) where
  eventType : Int
  executeType : Q3EventExecuteType
  callback : Q3EventArgs → σ → Q3EventArgs × σ

variable {σ : Type*}

namespace Q3EventHandler

/-- The test in both dispatch loops. -/
def matches? (handler : Q3EventHandler σ) (eventType : Int) (executeType : Q3EventExecuteType) : Bool :=
  handler.eventType == eventType && handler.executeType == executeType

end Q3EventHandler

/-- The handlers of one event and phase, in registration order. -/
def matching (eventList : List (Q3EventHandler σ)) (eventType : Int)
    (executeType : Q3EventExecuteType) : List (Q3EventHandler σ) :=
  eventList.filter fun handler => handler.matches? eventType executeType

/-- What a dispatch loop leaves behind. `eventItem` is the `isHandled_` flag of
the handler called last, `none` while the pointer is still the one the caller
put there. -/
structure EventResult (σ : Type*) where
  args : Q3EventArgs
  returnValue : Int
  eventItem : Option Bool
  world : σ

/-- The loop both dispatch macros expand to. They differ in `afterCall`: what
becomes of the return value and of the handler's own flag once the handler has
been called with the shared arguments. -/
def executeEventLoop (eventType : Int) (executeType : Q3EventExecuteType)
    (afterCall : Q3EventArgs → Int → Int × Bool) :
    List (Q3EventHandler σ) → EventResult σ → EventResult σ
  | [], r => r
  | handler :: rest, r =>
      if handler.matches? eventType executeType then
        let called := handler.callback r.args r.world
        let after := afterCall called.1 r.returnValue
        executeEventLoop eventType executeType afterCall rest
          { args := called.1, returnValue := after.1, eventItem := some after.2, world := called.2 }
      else
        executeEventLoop eventType executeType afterCall rest r

/-- `EXECUTE_EVENT_VOID`: the handler called takes over the shared flag.
`eventItem` is the pointer's value before the macro. -/
def executeEventVoid (eventList : List (Q3EventHandler σ)) (eventType : Int)
    (executeType : Q3EventExecuteType) (arg : Vector Int 12) (eventItem : Option Bool) (world : σ) :
    EventResult σ :=
  executeEventLoop eventType executeType (fun e returnValue => (returnValue, e.getHandled)) eventList
    { args := .new arg, returnValue := 0, eventItem := eventItem, world := world }

/-- `EXECUTE_EVENT_RETURN_ARG`: a non-zero return of a handler replaces the
return value, and the handler's own flag stays as `Reset` left it. -/
def executeEventReturnArg (eventList : List (Q3EventHandler σ)) (eventType : Int)
    (executeType : Q3EventExecuteType) (returnValue : Int) (arg : Vector Int 12)
    (eventItem : Option Bool) (world : σ) : EventResult σ :=
  executeEventLoop eventType executeType
    (fun e returnValue => (if e.getReturn ≠ 0 then e.getReturn else returnValue, false)) eventList
    { args := (Q3EventArgs.new arg).setReturn returnValue
      returnValue := returnValue, eventItem := eventItem, world := world }

/-!
### Which handlers a dispatch runs

The log is part of the world: an instrumented handler writes itself at the end
of the log and otherwise does what it did. Forgetting the log gives back the
dispatch without instrumentation.
-/

/-- Entries of a log: a handler that ran, or the hooked call itself. -/
inductive LogEntry (σ : Type*) where
  | handler (handler : Q3EventHandler σ)
  | exec

/-- A world with a log. -/
abbrev Logged (σ : Type*) := σ × List (LogEntry σ)

/-- The handler that also logs its own run. -/
def Q3EventHandler.logged (handler : Q3EventHandler σ) : Q3EventHandler (Logged σ) where
  eventType := handler.eventType
  executeType := handler.executeType
  callback := fun e w =>
    let called := handler.callback e w.1
    (called.1, called.2, w.2 ++ [.handler handler])

/-- The same dispatch result in a world with a log. -/
def EventResult.withLog (r : EventResult σ) (log : List (LogEntry σ)) : EventResult (Logged σ) :=
  { args := r.args, returnValue := r.returnValue, eventItem := r.eventItem, world := (r.world, log) }

@[simp] theorem withLog_returnValue (r : EventResult σ) (log : List (LogEntry σ)) :
    (r.withLog log).returnValue = r.returnValue := rfl

@[simp] theorem withLog_eventItem (r : EventResult σ) (log : List (LogEntry σ)) :
    (r.withLog log).eventItem = r.eventItem := rfl

@[simp] theorem withLog_world (r : EventResult σ) (log : List (LogEntry σ)) :
    (r.withLog log).world = (r.world, log) := rfl

/-- Log entries of the handlers of one event and phase. -/
def handlerEntries (eventList : List (Q3EventHandler σ)) (eventType : Int)
    (executeType : Q3EventExecuteType) : List (LogEntry σ) :=
  (matching eventList eventType executeType).map .handler

/-- A dispatch over instrumented handlers does what the dispatch did, and logs
exactly the matching handlers, once each and in registration order. -/
theorem executeEventLoop_logged (eventType : Int) (executeType : Q3EventExecuteType)
    (afterCall : Q3EventArgs → Int → Int × Bool) (eventList : List (Q3EventHandler σ))
    (r : EventResult σ) (log : List (LogEntry σ)) :
    executeEventLoop eventType executeType afterCall (eventList.map .logged) (r.withLog log) =
      (executeEventLoop eventType executeType afterCall eventList r).withLog
        (log ++ handlerEntries eventList eventType executeType) := by
  induction eventList generalizing r log with
  | nil => simp [executeEventLoop, handlerEntries, matching]
  | cons handler rest inductionHypothesis =>
      have sameTest :
          handler.logged.matches? eventType executeType = handler.matches? eventType executeType := rfl
      by_cases hit : handler.matches? eventType executeType
      · simp only [List.map_cons, executeEventLoop, sameTest, hit, if_true]
        generalize calledEq : handler.callback r.args r.world = called
        have loggedCall : handler.logged.callback (r.withLog log).args (r.withLog log).world =
            (called.1, called.2, log ++ [.handler handler]) := by
          rw [← calledEq]
          rfl
        rw [loggedCall]
        have next := inductionHypothesis
          { args := called.1
            returnValue := (afterCall called.1 r.returnValue).1
            eventItem := some (afterCall called.1 r.returnValue).2
            world := called.2 } (log ++ [.handler handler])
        simpa [EventResult.withLog, handlerEntries, matching, hit] using next
      · simp only [List.map_cons, executeEventLoop, sameTest, hit, Bool.false_eq_true, if_false]
        simpa [handlerEntries, matching, hit] using inductionHypothesis r log

/-- A dispatch of instrumented handlers does what the dispatch of the plain ones
does, and keeps a log of them. -/
theorem executeEventVoid_logged (eventList : List (Q3EventHandler σ)) (eventType : Int)
    (executeType : Q3EventExecuteType) (arg : Vector Int 12) (eventItem : Option Bool)
    (world : σ) (log : List (LogEntry σ)) :
    executeEventVoid (eventList.map .logged) eventType executeType arg eventItem (world, log) =
      (executeEventVoid eventList eventType executeType arg eventItem world).withLog
        (log ++ handlerEntries eventList eventType executeType) :=
  executeEventLoop_logged eventType executeType _ eventList
    { args := .new arg, returnValue := 0, eventItem := eventItem, world := world } log

theorem executeEventReturnArg_logged (eventList : List (Q3EventHandler σ)) (eventType : Int)
    (executeType : Q3EventExecuteType) (returnValue : Int) (arg : Vector Int 12)
    (eventItem : Option Bool) (world : σ) (log : List (LogEntry σ)) :
    executeEventReturnArg (eventList.map .logged) eventType executeType returnValue arg eventItem
        (world, log) =
      (executeEventReturnArg eventList eventType executeType returnValue arg eventItem world).withLog
        (log ++ handlerEntries eventList eventType executeType) :=
  executeEventLoop_logged eventType executeType _ eventList
    { args := (Q3EventArgs.new arg).setReturn returnValue
      returnValue := returnValue, eventItem := eventItem, world := world } log

end Q3df.Client
