/-
Module: Q3df.Client.Q3SysCall
Layer: Client
Purpose: `Q3SysCall`, the proxy's side of the engine's one variadic entry point. Every trap of the
  game interface has a wrapper of its own here, with its own parameter list and its own conversion
  of integers, pointers and floats; four of them dispatch events around the call. The engine is a
  function over a state of any type, and the calls it receives are logged.
Imports: Mathlib.Algebra.Group.Nat.Defs, Q3df.Client.GameImport, Q3df.Client.Q3Event
Trusted boundary: human-reviewed transcription of client/Q3SysCall.h and client/Q3SysCall.cc
Main exports: Word, Ptr, CFloat, VarArg, EngineCall, EngineWorld, EventItem, Q3SysCall, SysCallM and
  one definition for each wrapper
Open obligations: none
-/
import Mathlib.Algebra.Group.Nat.Defs
import Q3df.Client.GameImport
import Q3df.Client.Q3Event

namespace Q3df.Client

/-- A 32-bit `int` of the proxy and of the VM. -/
abbrev Word := BitVec 32

/-- A pointer of the 32-bit process; `NULL` is address 0. -/
structure Ptr where
  address : Word
deriving Repr, DecidableEq

/-- A `float` value, carried as its bit pattern. -/
structure CFloat where
  bits : Word
deriving Repr, DecidableEq

/-- `PASSFLOAT`: the pattern of a float as an `int`. -/
def passFloat (x : CFloat) : Word := x.bits

/-- The pattern of the same value as a `double`, which is what C passes for a
`float` argument of a variadic function. -/
def CFloat.toDouble (x : CFloat) : BitVec 64 :=
  let sign := x.bits.toNat / 2 ^ 31
  let exponent := x.bits.toNat / 2 ^ 23 % 2 ^ 8
  let mantissa := x.bits.toNat % 2 ^ 23
  let magnitude :=
    if exponent = 255 then
      -- Infinities keep an empty mantissa, a NaN arrives as a quiet one.
      2047 * 2 ^ 52 + if mantissa = 0 then 0 else mantissa * 2 ^ 29 ||| 2 ^ 51
    else if exponent ≠ 0 then
      (exponent + 896) * 2 ^ 52 + mantissa * 2 ^ 29
    else if mantissa = 0 then
      0
    else
      -- A subnormal float is a normal double.
      (mantissa.log2 + 874) * 2 ^ 52 + (mantissa - 2 ^ mantissa.log2) * 2 ^ (52 - mantissa.log2)
  BitVec.ofNat 64 (sign * 2 ^ 63 + magnitude)

example : (CFloat.mk 0x3FC00000).toDouble = 0x3FF8000000000000 := by decide

/-- One word of the variadic argument list: a number or address, or the address
of a text the proxy itself has formatted. -/
inductive StackWord where
  | word (value : Word)
  | hostText (text : String)
deriving Repr, DecidableEq

/-- An argument as the C expression passes it. -/
inductive VarArg where
  | int (value : Word)
  | pointer (value : Ptr)
  | double (value : BitVec 64)
  | hostText (text : String)
deriving Repr, DecidableEq

namespace VarArg

instance : Coe Word VarArg := ⟨.int⟩

instance : Coe Ptr VarArg := ⟨.pointer⟩

/-- The default argument promotion. -/
instance : Coe CFloat VarArg := ⟨fun x => .double x.toDouble⟩

/-- The words the argument occupies, in the order the callee reads them. -/
def words : VarArg → List StackWord
  | int value => [.word value]
  | pointer value => [.word value.address]
  | double value => [.word (value.extractLsb' 0 32), .word (value.extractLsb' 32 32)]
  | hostText text => [.hostText text]

end VarArg

/-- One call of `syscall_`: the trap number and the words behind it. -/
structure EngineCall where
  trap : Int
  words : List StackWord
deriving Repr, DecidableEq

/-- The engine's own state and the calls it has received. -/
structure EngineWorld (σ : Type) where
  engine : σ
  calls : List EngineCall
deriving Repr, DecidableEq

/-- What a wrapper's `eventItem` variable holds before a handler has been stored
in it: `NULL`, an address whose flag byte can be read, or an address that cannot
be read. -/
inductive EventItem where
  | null
  | dangling (isHandled : Bool)
  | unmapped
deriving Repr, DecidableEq

/-- `eventItem && eventItem->GetHandled()`; `none` where the read faults. -/
def EventItem.handled : EventItem → Option Bool
  | null => some false
  | dangling isHandled => some isHandled
  | unmapped => none

/-- `Q3SysCall`. `uninitialized` is what the stack holds where two of the
wrappers declare `eventItem` without a value. -/
structure Q3SysCall (σ : Type) where
  syscall : EngineCall → σ → Word × σ
  eventList : List (Q3EventHandler (EngineWorld σ))
  uninitialized : EventItem

variable {σ : Type}

/-- A wrapper acts on the engine's world, and may fault. -/
abbrev SysCallM (σ : Type) := StateT (EngineWorld σ) Option

/-- The arguments of an event, padded with zeros as the shorter dispatch macros
do. -/
def eventArgs (args : List Word) : Vector Int 12 :=
  Vector.ofFn fun index => ((args[index]?).getD 0).toInt

namespace Q3SysCall

/-- The constructor: no handler is registered. -/
def new (syscall : EngineCall → σ → Word × σ) (uninitialized : EventItem) : Q3SysCall σ :=
  { syscall := syscall, eventList := [], uninitialized := uninitialized }

variable (sc : Q3SysCall σ)

/-!
### The three kinds of wrapper

Most of the wrappers are one of these applied to the trap's number and
arguments, with the type of the result as the only difference.
-/

/-- A wrapper that returns what the engine returns. -/
def call (trap : GameImport) (args : List VarArg) : SysCallM σ Word := fun w =>
  let engineCall : EngineCall := { trap := trap.toInt, words := args.flatMap VarArg.words }
  let answered := sc.syscall engineCall w.engine
  some (answered.1, { engine := answered.2, calls := w.calls ++ [engineCall] })

/-- A wrapper that returns nothing. -/
def voidCall (trap : GameImport) (args : List VarArg) : SysCallM σ Unit := do
  let _ ← sc.call trap args
  return ()

/-- A wrapper that reads the engine's result as a float. -/
def floatCall (trap : GameImport) (args : List VarArg) : SysCallM σ CFloat := do
  let temp ← sc.call trap args
  return { bits := temp }

/-- `EXECUTE_EVENT_VOID` over the wrapper object's own handlers: the flag of the
handler called last, if one was called. -/
def executeEvent (trap : GameImport) (executeType : Q3EventExecuteType) (args : List Word) :
    SysCallM σ (Option Bool) := fun w =>
  let executed := executeEventVoid sc.eventList trap.toInt executeType (eventArgs args) none w
  some (executed.eventItem, executed.world)

/-- A wrapper with events: the engine is called unless the last handler before
it has handled the event. `eventItem` is what the variable of that name holds at
the start. -/
def eventCall (eventItem : EventItem) (trap : GameImport) (params : List Word) (args : List VarArg) :
    SysCallM σ Unit := do
  let called ← sc.executeEvent trap .executeTypeBefore params
  let handled ← match called with
    | some isHandled => pure isHandled
    | none => StateT.lift eventItem.handled
  if !handled then
    sc.voidCall trap args
  let _ ← sc.executeEvent trap .executeTypeAfter params
  return ()

/-!
### Printing, and the wrappers with events

Four wrappers run the handlers before and after the call. The proxy's own
messages are printed without them, behind a prefix.
-/

def printf (fmt : Ptr) : SysCallM σ Unit :=
  sc.eventCall .null .gPrint [fmt.address] [fmt]

def print (fmt : String) : SysCallM σ Unit :=
  sc.voidCall .gPrint [.hostText ("[Q3df] " ++ fmt)]

def printWarning (fmt : String) : SysCallM σ Unit :=
  sc.voidCall .gPrint [.hostText ("[Q3df:WARNING] " ++ fmt)]

def printError (fmt : String) : SysCallM σ Unit :=
  sc.voidCall .gPrint [.hostText ("[Q3df:ERROR] " ++ fmt)]

/-- `eventItem` is declared without a value here. -/
def locateGameData (gEnts : Ptr) (numGEntities sizeofGEntityT : Word) (clients : Ptr)
    (sizeofGClient : Word) : SysCallM σ Unit :=
  sc.eventCall sc.uninitialized .gLocateGameData
    [gEnts.address, numGEntities, sizeofGEntityT, clients.address, sizeofGClient]
    [gEnts, numGEntities, sizeofGEntityT, clients, sizeofGClient]

def getUserinfo (num : Word) (buffer : Ptr) (bufferSize : Word) : SysCallM σ Unit :=
  sc.eventCall .null .gGetUserinfo [num, buffer.address, bufferSize] [num, buffer, bufferSize]

/-- `eventItem` is declared without a value here. -/
def setUserinfo (num : Word) (buffer : Ptr) : SysCallM σ Unit :=
  sc.eventCall sc.uninitialized .gSetUserinfo [num, buffer.address] [num, buffer]

/-!
### The wrappers that only call

In the order of the source. Pointers are passed as they are, floats by their bit
pattern.
-/
def error (fmt : Ptr) : SysCallM σ Unit :=
  sc.voidCall .gError [fmt]

def milliseconds : SysCallM σ Word :=
  sc.call .gMilliseconds []

def argc : SysCallM σ Word :=
  sc.call .gArgc []

def argv (n : Word) (buffer : Ptr) (bufferLength : Word) : SysCallM σ Unit :=
  sc.voidCall .gArgv [n, buffer, bufferLength]

def fsFOpenFile (qpath f : Ptr) (mode : Word) : SysCallM σ Word :=
  sc.call .gFsFopenFile [qpath, f, mode]

def fsRead (buffer : Ptr) (len f : Word) : SysCallM σ Unit :=
  sc.voidCall .gFsRead [buffer, len, f]

def fsWrite (buffer : Ptr) (len f : Word) : SysCallM σ Unit :=
  sc.voidCall .gFsWrite [buffer, len, f]

def fsFCloseFile (f : Word) : SysCallM σ Unit :=
  sc.voidCall .gFsFcloseFile [f]

def fsGetFileList (path extension listbuf : Ptr) (bufsize : Word) : SysCallM σ Word :=
  sc.call .gFsGetfilelist [path, extension, listbuf, bufsize]

def fsSeek (f offset origin : Word) : SysCallM σ Word :=
  sc.call .gFsSeek [f, offset, origin]

def sendConsoleCommand (execWhen : Word) (text : Ptr) : SysCallM σ Unit :=
  sc.voidCall .gSendConsoleCommand [execWhen, text]

def cvarRegister (cvar varName value : Ptr) (flags : Word) : SysCallM σ Unit :=
  sc.voidCall .gCvarRegister [cvar, varName, value, flags]

def cvarUpdate (cvar : Ptr) : SysCallM σ Unit :=
  sc.voidCall .gCvarUpdate [cvar]

def cvarSet (varName value : Ptr) : SysCallM σ Unit :=
  sc.voidCall .gCvarSet [varName, value]

def cvarVariableIntegerValue (varName : Ptr) : SysCallM σ Word :=
  sc.call .gCvarVariableIntegerValue [varName]

def cvarVariableStringBuffer (varName buffer : Ptr) (bufsize : Word) : SysCallM σ Unit :=
  sc.voidCall .gCvarVariableStringBuffer [varName, buffer, bufsize]

def dropClient (clientNum : Word) (reason : Ptr) : SysCallM σ Unit :=
  sc.voidCall .gDropClient [clientNum, reason]

def sendServerCommand (clientNum : Word) (text : Ptr) : SysCallM σ Unit :=
  sc.voidCall .gSendServerCommand [clientNum, text]

def setConfigstring (num : Word) (string : Ptr) : SysCallM σ Unit :=
  sc.voidCall .gSetConfigstring [num, string]

def getConfigstring (num : Word) (buffer : Ptr) (bufferSize : Word) : SysCallM σ Unit :=
  sc.voidCall .gGetConfigstring [num, buffer, bufferSize]

def getServerinfo (buffer : Ptr) (bufferSize : Word) : SysCallM σ Unit :=
  sc.voidCall .gGetServerinfo [buffer, bufferSize]

def setBrushModel (ent name : Ptr) : SysCallM σ Unit :=
  sc.voidCall .gSetBrushModel [ent, name]

def trace (results start mins maxs end' : Ptr) (passEntityNum contentmask : Word) : SysCallM σ Unit :=
  sc.voidCall .gTrace [results, start, mins, maxs, end', passEntityNum, contentmask]

def traceCapsule (results start mins maxs end' : Ptr) (passEntityNum contentmask : Word)
    : SysCallM σ Unit :=
  sc.voidCall .gTracecapsule [results, start, mins, maxs, end', passEntityNum, contentmask]

def pointContents (point : Ptr) (passEntityNum : Word) : SysCallM σ Word :=
  sc.call .gPointContents [point, passEntityNum]

def inPVS (p1 p2 : Ptr) : SysCallM σ Word :=
  sc.call .gInPvs [p1, p2]

def inPVSIgnorePortals (p1 p2 : Ptr) : SysCallM σ Word :=
  sc.call .gInPvsIgnorePortals [p1, p2]

def adjustAreaPortalState (ent : Ptr) (open' : Word) : SysCallM σ Unit :=
  sc.voidCall .gAdjustAreaPortalState [ent, open']

def areasConnected (area1 area2 : Word) : SysCallM σ Word :=
  sc.call .gAreasConnected [area1, area2]

def linkEntity (ent : Ptr) : SysCallM σ Unit :=
  sc.voidCall .gLinkentity [ent]

def unlinkEntity (ent : Ptr) : SysCallM σ Unit :=
  sc.voidCall .gUnlinkentity [ent]

def entitiesInBox (mins maxs list : Ptr) (maxcount : Word) : SysCallM σ Word :=
  sc.call .gEntitiesInBox [mins, maxs, list, maxcount]

def entityContact (mins maxs ent : Ptr) : SysCallM σ Word :=
  sc.call .gEntityContact [mins, maxs, ent]

def entityContactCapsule (mins maxs ent : Ptr) : SysCallM σ Word :=
  sc.call .gEntityContactcapsule [mins, maxs, ent]

def botAllocateClient : SysCallM σ Word :=
  sc.call .gBotAllocateClient []

def botFreeClient (clientNum : Word) : SysCallM σ Unit :=
  sc.voidCall .gBotFreeClient [clientNum]

def getUsercmd (clientNum : Word) (cmd : Ptr) : SysCallM σ Unit :=
  sc.voidCall .gGetUsercmd [clientNum, cmd]

def getEntityToken (buffer : Ptr) (bufferSize : Word) : SysCallM σ Word :=
  sc.call .gGetEntityToken [buffer, bufferSize]

def debugPolygonCreate (color numPoints : Word) (points : Ptr) : SysCallM σ Word :=
  sc.call .gDebugPolygonCreate [color, numPoints, points]

def debugPolygonDelete (id : Word) : SysCallM σ Unit :=
  sc.voidCall .gDebugPolygonDelete [id]

def realTime (qtime : Ptr) : SysCallM σ Word :=
  sc.call .gRealTime [qtime]

def snapVector (v : Ptr) : SysCallM σ Unit :=
  sc.voidCall .gSnapvector [v]

/-!
### Bot library traps

The traps of the bot library, in the order of the source: areas, elementary
actions, chats, goals, moves, weapons.
-/

def botLibSetup : SysCallM σ Word :=
  sc.call .botlibSetup []

def botLibShutdown : SysCallM σ Word :=
  sc.call .botlibShutdown []

def botLibVarSet (varName value : Ptr) : SysCallM σ Word :=
  sc.call .botlibLibvarSet [varName, value]

def botLibVarGet (varName value : Ptr) (size : Word) : SysCallM σ Word :=
  sc.call .botlibLibvarGet [varName, value, size]

def botLibDefine (string : Ptr) : SysCallM σ Word :=
  sc.call .botlibPcAddGlobalDefine [string]

def botLibStartFrame (time : CFloat) : SysCallM σ Word :=
  sc.call .botlibStartFrame [passFloat time]

def botLibLoadMap (mapname : Ptr) : SysCallM σ Word :=
  sc.call .botlibLoadMap [mapname]

def botLibUpdateEntity (ent : Word) (bue : Ptr) : SysCallM σ Word :=
  sc.call .botlibUpdatentity [ent, bue]

def botLibTest (parm0 : Word) (parm1 parm2 parm3 : Ptr) : SysCallM σ Word :=
  sc.call .botlibTest [parm0, parm1, parm2, parm3]

def botGetSnapshotEntity (clientNum sequence : Word) : SysCallM σ Word :=
  sc.call .botlibGetSnapshotEntity [clientNum, sequence]

def botGetServerCommand (clientNum : Word) (message : Ptr) (size : Word) : SysCallM σ Word :=
  sc.call .botlibGetConsoleMessage [clientNum, message, size]

def botUserCommand (clientNum : Word) (ucmd : Ptr) : SysCallM σ Unit :=
  sc.voidCall .botlibUserCommand [clientNum, ucmd]

def aasEntityInfo (entnum : Word) (info : Ptr) : SysCallM σ Unit :=
  sc.voidCall .botlibAasEntityInfo [entnum, info]

def aasInitialized : SysCallM σ Word :=
  sc.call .botlibAasInitialized []

def aasPresenceTypeBoundingBox (presencetype : Word) (mins maxs : Ptr) : SysCallM σ Unit :=
  sc.voidCall .botlibAasPresenceTypeBoundingBox [presencetype, mins, maxs]

def aasTime : SysCallM σ CFloat :=
  sc.floatCall .botlibAasTime []

def aasPointAreaNum (point : Ptr) : SysCallM σ Word :=
  sc.call .botlibAasPointAreaNum [point]

def aasPointReachabilityAreaIndex (point : Ptr) : SysCallM σ Word :=
  sc.call .botlibAasPointReachabilityAreaIndex [point]

def aasTraceAreas (start end' areas points : Ptr) (maxareas : Word) : SysCallM σ Word :=
  sc.call .botlibAasTraceAreas [start, end', areas, points, maxareas]

def aasBBoxAreas (absmins absmaxs areas : Ptr) (maxareas : Word) : SysCallM σ Word :=
  sc.call .botlibAasBboxAreas [absmins, absmaxs, areas, maxareas]

def aasAreaInfo (areanum : Word) (info : Ptr) : SysCallM σ Word :=
  sc.call .botlibAasAreaInfo [areanum, info]

def aasPointContents (point : Ptr) : SysCallM σ Word :=
  sc.call .botlibAasPointContents [point]

def aasNextBSPEntity (ent : Word) : SysCallM σ Word :=
  sc.call .botlibAasNextBspEntity [ent]

def aasValueForBSPEpairKey (ent : Word) (key value : Ptr) (size : Word) : SysCallM σ Word :=
  sc.call .botlibAasValueForBspEpairKey [ent, key, value, size]

def aasVectorForBSPEpairKey (ent : Word) (key v : Ptr) : SysCallM σ Word :=
  sc.call .botlibAasVectorForBspEpairKey [ent, key, v]

def aasFloatForBSPEpairKey (ent : Word) (key value : Ptr) : SysCallM σ Word :=
  sc.call .botlibAasFloatForBspEpairKey [ent, key, value]

def aasIntForBSPEpairKey (ent : Word) (key value : Ptr) : SysCallM σ Word :=
  sc.call .botlibAasIntForBspEpairKey [ent, key, value]

def aasAreaReachability (areanum : Word) : SysCallM σ Word :=
  sc.call .botlibAasAreaReachability [areanum]

def aasAreaTravelTimeToGoalArea (areanum : Word) (origin : Ptr) (goalareanum travelflags : Word)
    : SysCallM σ Word :=
  sc.call .botlibAasAreaTravelTimeToGoalArea [areanum, origin, goalareanum, travelflags]

def aasEnableRoutingArea (areanum enable : Word) : SysCallM σ Word :=
  sc.call .botlibAasEnableRoutingArea [areanum, enable]

def aasPredictRoute (route : Ptr) (areanum : Word) (origin : Ptr)
    (goalareanum travelflags maxareas maxtime stopevent stopcontents stoptfl stopareanum : Word)
    : SysCallM σ Word :=
  sc.call .botlibAasPredictRoute [route, areanum, origin, goalareanum, travelflags, maxareas,
    maxtime, stopevent, stopcontents, stoptfl, stopareanum]

def aasAlternativeRouteGoals (start : Ptr) (startareanum : Word) (goal : Ptr)
    (goalareanum travelflags : Word) (altroutegoals : Ptr) (maxaltroutegoals type : Word)
    : SysCallM σ Word :=
  sc.call .botlibAasAlternativeRouteGoal [start, startareanum, goal, goalareanum, travelflags,
    altroutegoals, maxaltroutegoals, type]

def aasSwimming (origin : Ptr) : SysCallM σ Word :=
  sc.call .botlibAasSwimming [origin]

def aasPredictClientMovement (move : Ptr) (entnum : Word) (origin : Ptr)
    (presencetype onground : Word) (velocity cmdmove : Ptr) (cmdframes maxframes : Word)
    (frametime : CFloat) (stopevent stopareanum visualize : Word) : SysCallM σ Word :=
  sc.call .botlibAasPredictClientMovement [move, entnum, origin, presencetype, onground, velocity,
    cmdmove, cmdframes, maxframes, passFloat frametime, stopevent, stopareanum, visualize]

def eaSay (client : Word) (str : Ptr) : SysCallM σ Unit :=
  sc.voidCall .botlibEaSay [client, str]

def eaSayTeam (client : Word) (str : Ptr) : SysCallM σ Unit :=
  sc.voidCall .botlibEaSayTeam [client, str]

def eaCommand (client : Word) (command : Ptr) : SysCallM σ Unit :=
  sc.voidCall .botlibEaCommand [client, command]

def eaAction (client action : Word) : SysCallM σ Unit :=
  sc.voidCall .botlibEaAction [client, action]

def eaGesture (client : Word) : SysCallM σ Unit :=
  sc.voidCall .botlibEaGesture [client]

def eaTalk (client : Word) : SysCallM σ Unit :=
  sc.voidCall .botlibEaTalk [client]

def eaAttack (client : Word) : SysCallM σ Unit :=
  sc.voidCall .botlibEaAttack [client]

def eaUse (client : Word) : SysCallM σ Unit :=
  sc.voidCall .botlibEaUse [client]

def eaRespawn (client : Word) : SysCallM σ Unit :=
  sc.voidCall .botlibEaRespawn [client]

def eaCrouch (client : Word) : SysCallM σ Unit :=
  sc.voidCall .botlibEaCrouch [client]

def eaMoveUp (client : Word) : SysCallM σ Unit :=
  sc.voidCall .botlibEaMoveUp [client]

def eaMoveDown (client : Word) : SysCallM σ Unit :=
  sc.voidCall .botlibEaMoveDown [client]

def eaMoveForward (client : Word) : SysCallM σ Unit :=
  sc.voidCall .botlibEaMoveForward [client]

def eaMoveBack (client : Word) : SysCallM σ Unit :=
  sc.voidCall .botlibEaMoveBack [client]

def eaMoveLeft (client : Word) : SysCallM σ Unit :=
  sc.voidCall .botlibEaMoveLeft [client]

def eaMoveRight (client : Word) : SysCallM σ Unit :=
  sc.voidCall .botlibEaMoveRight [client]

def eaSelectWeapon (client weapon : Word) : SysCallM σ Unit :=
  sc.voidCall .botlibEaSelectWeapon [client, weapon]

def eaJump (client : Word) : SysCallM σ Unit :=
  sc.voidCall .botlibEaJump [client]

def eaDelayedJump (client : Word) : SysCallM σ Unit :=
  sc.voidCall .botlibEaDelayedJump [client]

def eaMove (client : Word) (dir : Ptr) (speed : CFloat) : SysCallM σ Unit :=
  sc.voidCall .botlibEaMove [client, dir, passFloat speed]

def eaView (client : Word) (viewangles : Ptr) : SysCallM σ Unit :=
  sc.voidCall .botlibEaView [client, viewangles]

def eaEndRegular (client : Word) (thinktime : CFloat) : SysCallM σ Unit :=
  sc.voidCall .botlibEaEndRegular [client, passFloat thinktime]

def eaGetInput (client : Word) (thinktime : CFloat) (input : Ptr) : SysCallM σ Unit :=
  sc.voidCall .botlibEaGetInput [client, passFloat thinktime, input]

def eaResetInput (client : Word) : SysCallM σ Unit :=
  sc.voidCall .botlibEaResetInput [client]

def botLoadCharacter (charfile : Ptr) (skill : CFloat) : SysCallM σ Word :=
  sc.call .botlibAiLoadCharacter [charfile, passFloat skill]

def botFreeCharacter (character : Word) : SysCallM σ Unit :=
  sc.voidCall .botlibAiFreeCharacter [character]

def characteristicFloat (character index : Word) : SysCallM σ CFloat :=
  sc.floatCall .botlibAiCharacteristicFloat [character, index]

def characteristicBFloat (character index : Word) (min max : CFloat) : SysCallM σ CFloat :=
  sc.floatCall .botlibAiCharacteristicBfloat [character, index, passFloat min, passFloat max]

def characteristicInteger (character index : Word) : SysCallM σ Word :=
  sc.call .botlibAiCharacteristicInteger [character, index]

def characteristicBInteger (character index min max : Word) : SysCallM σ Word :=
  sc.call .botlibAiCharacteristicBinteger [character, index, min, max]

def characteristicString (character index : Word) (buf : Ptr) (size : Word) : SysCallM σ Unit :=
  sc.voidCall .botlibAiCharacteristicString [character, index, buf, size]

def botAllocChatState : SysCallM σ Word :=
  sc.call .botlibAiAllocChatState []

def botFreeChatState (handle : Word) : SysCallM σ Unit :=
  sc.voidCall .botlibAiFreeChatState [handle]

def botQueueConsoleMessage (chatstate type : Word) (message : Ptr) : SysCallM σ Unit :=
  sc.voidCall .botlibAiQueueConsoleMessage [chatstate, type, message]

def botRemoveConsoleMessage (chatstate handle : Word) : SysCallM σ Unit :=
  sc.voidCall .botlibAiRemoveConsoleMessage [chatstate, handle]

def botNextConsoleMessage (chatstate : Word) (cm : Ptr) : SysCallM σ Word :=
  sc.call .botlibAiNextConsoleMessage [chatstate, cm]

def botNumConsoleMessages (chatstate : Word) : SysCallM σ Word :=
  sc.call .botlibAiNumConsoleMessage [chatstate]

def botInitialChat (chatstate : Word) (type : Ptr) (mcontext : Word)
    (var0 var1 var2 var3 var4 var5 var6 var7 : Ptr) : SysCallM σ Unit :=
  sc.voidCall .botlibAiInitialChat [chatstate, type, mcontext, var0, var1, var2, var3, var4, var5,
    var6, var7]

def botNumInitialChats (chatstate : Word) (type : Ptr) : SysCallM σ Word :=
  sc.call .botlibAiNumInitialChats [chatstate, type]

def botReplyChat (chatstate : Word) (message : Ptr) (mcontext vcontext : Word)
    (var0 var1 var2 var3 var4 var5 var6 var7 : Ptr) : SysCallM σ Word :=
  sc.call .botlibAiReplyChat [chatstate, message, mcontext, vcontext, var0, var1, var2, var3, var4,
    var5, var6, var7]

def botChatLength (chatstate : Word) : SysCallM σ Word :=
  sc.call .botlibAiChatLength [chatstate]

def botEnterChat (chatstate client sendto : Word) : SysCallM σ Unit :=
  sc.voidCall .botlibAiEnterChat [chatstate, client, sendto]

def botGetChatMessage (chatstate : Word) (buf : Ptr) (size : Word) : SysCallM σ Unit :=
  sc.voidCall .botlibAiGetChatMessage [chatstate, buf, size]

def stringContains (str1 str2 : Ptr) (casesensitive : Word) : SysCallM σ Word :=
  sc.call .botlibAiStringContains [str1, str2, casesensitive]

def botFindMatch (str match' : Ptr) (context : Word) : SysCallM σ Word :=
  sc.call .botlibAiFindMatch [str, match', context]

def botMatchVariable (match' : Ptr) (variable' : Word) (buf : Ptr) (size : Word) : SysCallM σ Unit :=
  sc.voidCall .botlibAiMatchVariable [match', variable', buf, size]

def unifyWhiteSpaces (string : Ptr) : SysCallM σ Unit :=
  sc.voidCall .botlibAiUnifyWhiteSpaces [string]

def botReplaceSynonyms (string : Ptr) (context : Word) : SysCallM σ Unit :=
  sc.voidCall .botlibAiReplaceSynonyms [string, context]

def botLoadChatFile (chatstate : Word) (chatfile chatname : Ptr) : SysCallM σ Word :=
  sc.call .botlibAiLoadChatFile [chatstate, chatfile, chatname]

def botSetChatGender (chatstate gender : Word) : SysCallM σ Unit :=
  sc.voidCall .botlibAiSetChatGender [chatstate, gender]

def botSetChatName (chatstate : Word) (name : Ptr) (client : Word) : SysCallM σ Unit :=
  sc.voidCall .botlibAiSetChatName [chatstate, name, client]

def botResetGoalState (goalstate : Word) : SysCallM σ Unit :=
  sc.voidCall .botlibAiResetGoalState [goalstate]

def botResetAvoidGoals (goalstate : Word) : SysCallM σ Unit :=
  sc.voidCall .botlibAiResetAvoidGoals [goalstate]

def botRemoveFromAvoidGoals (goalstate number : Word) : SysCallM σ Unit :=
  sc.voidCall .botlibAiRemoveFromAvoidGoals [goalstate, number]

def botPushGoal (goalstate : Word) (goal : Ptr) : SysCallM σ Unit :=
  sc.voidCall .botlibAiPushGoal [goalstate, goal]

def botPopGoal (goalstate : Word) : SysCallM σ Unit :=
  sc.voidCall .botlibAiPopGoal [goalstate]

def botEmptyGoalStack (goalstate : Word) : SysCallM σ Unit :=
  sc.voidCall .botlibAiEmptyGoalStack [goalstate]

def botDumpAvoidGoals (goalstate : Word) : SysCallM σ Unit :=
  sc.voidCall .botlibAiDumpAvoidGoals [goalstate]

def botDumpGoalStack (goalstate : Word) : SysCallM σ Unit :=
  sc.voidCall .botlibAiDumpGoalStack [goalstate]

def botGoalName (number : Word) (name : Ptr) (size : Word) : SysCallM σ Unit :=
  sc.voidCall .botlibAiGoalName [number, name, size]

def botGetTopGoal (goalstate : Word) (goal : Ptr) : SysCallM σ Word :=
  sc.call .botlibAiGetTopGoal [goalstate, goal]

def botGetSecondGoal (goalstate : Word) (goal : Ptr) : SysCallM σ Word :=
  sc.call .botlibAiGetSecondGoal [goalstate, goal]

def botChooseLTGItem (goalstate : Word) (origin inventory : Ptr) (travelflags : Word)
    : SysCallM σ Word :=
  sc.call .botlibAiChooseLtgItem [goalstate, origin, inventory, travelflags]

def botChooseNBGItem (goalstate : Word) (origin inventory : Ptr) (travelflags : Word) (ltg : Ptr)
    (maxtime : CFloat) : SysCallM σ Word :=
  sc.call .botlibAiChooseNbgItem [goalstate, origin, inventory, travelflags, ltg, passFloat maxtime]

def botTouchingGoal (origin goal : Ptr) : SysCallM σ Word :=
  sc.call .botlibAiTouchingGoal [origin, goal]

def botItemGoalInVisButNotVisible (viewer : Word) (eye viewangles goal : Ptr) : SysCallM σ Word :=
  sc.call .botlibAiItemGoalInVisButNotVisible [viewer, eye, viewangles, goal]

def botGetLevelItemGoal (index : Word) (classname goal : Ptr) : SysCallM σ Word :=
  sc.call .botlibAiGetLevelItemGoal [index, classname, goal]

def botGetNextCampSpotGoal (num : Word) (goal : Ptr) : SysCallM σ Word :=
  sc.call .botlibAiGetNextCampSpotGoal [num, goal]

def botGetMapLocationGoal (name goal : Ptr) : SysCallM σ Word :=
  sc.call .botlibAiGetMapLocationGoal [name, goal]

def botAvoidGoalTime (goalstate number : Word) : SysCallM σ CFloat :=
  sc.floatCall .botlibAiAvoidGoalTime [goalstate, number]

def botSetAvoidGoalTime (goalstate number : Word) (avoidtime : CFloat) : SysCallM σ Unit :=
  sc.voidCall .botlibAiSetAvoidGoalTime [goalstate, number, passFloat avoidtime]

def botInitLevelItems : SysCallM σ Unit :=
  sc.voidCall .botlibAiInitLevelItems []

def botUpdateEntityItems : SysCallM σ Unit :=
  sc.voidCall .botlibAiUpdateEntityItems []

def botLoadItemWeights (goalstate : Word) (filename : Ptr) : SysCallM σ Word :=
  sc.call .botlibAiLoadItemWeights [goalstate, filename]

def botFreeItemWeights (goalstate : Word) : SysCallM σ Unit :=
  sc.voidCall .botlibAiFreeItemWeights [goalstate]

def botInterbreedGoalFuzzyLogic (parent1 parent2 child : Word) : SysCallM σ Unit :=
  sc.voidCall .botlibAiInterbreedGoalFuzzyLogic [parent1, parent2, child]

def botSaveGoalFuzzyLogic (goalstate : Word) (filename : Ptr) : SysCallM σ Unit :=
  sc.voidCall .botlibAiSaveGoalFuzzyLogic [goalstate, filename]

/-- The one float that is passed as it is, without `PASSFLOAT`. -/
def botMutateGoalFuzzyLogic (goalstate : Word) (range : CFloat) : SysCallM σ Unit :=
  sc.voidCall .botlibAiMutateGoalFuzzyLogic [goalstate, range]

def botAllocGoalState (state : Word) : SysCallM σ Word :=
  sc.call .botlibAiAllocGoalState [state]

def botFreeGoalState (handle : Word) : SysCallM σ Unit :=
  sc.voidCall .botlibAiFreeGoalState [handle]

def botResetMoveState (movestate : Word) : SysCallM σ Unit :=
  sc.voidCall .botlibAiResetMoveState [movestate]

def botAddAvoidSpot (movestate : Word) (origin : Ptr) (radius : CFloat) (type : Word)
    : SysCallM σ Unit :=
  sc.voidCall .botlibAiAddAvoidSpot [movestate, origin, passFloat radius, type]

def botMoveToGoal (result : Ptr) (movestate : Word) (goal : Ptr) (travelflags : Word)
    : SysCallM σ Unit :=
  sc.voidCall .botlibAiMoveToGoal [result, movestate, goal, travelflags]

def botMoveInDirection (movestate : Word) (dir : Ptr) (speed : CFloat) (type : Word)
    : SysCallM σ Word :=
  sc.call .botlibAiMoveInDirection [movestate, dir, passFloat speed, type]

def botResetAvoidReach (movestate : Word) : SysCallM σ Unit :=
  sc.voidCall .botlibAiResetAvoidReach [movestate]

def botResetLastAvoidReach (movestate : Word) : SysCallM σ Unit :=
  sc.voidCall .botlibAiResetLastAvoidReach [movestate]

def botReachabilityArea (origin : Ptr) (testground : Word) : SysCallM σ Word :=
  sc.call .botlibAiReachabilityArea [origin, testground]

def botMovementViewTarget (movestate : Word) (goal : Ptr) (travelflags : Word) (lookahead : CFloat)
    (target : Ptr) : SysCallM σ Word :=
  sc.call .botlibAiMovementViewTarget [movestate, goal, travelflags, passFloat lookahead, target]

def botPredictVisiblePosition (origin : Ptr) (areanum : Word) (goal : Ptr) (travelflags : Word)
    (target : Ptr) : SysCallM σ Word :=
  sc.call .botlibAiPredictVisiblePosition [origin, areanum, goal, travelflags, target]

def botAllocMoveState : SysCallM σ Word :=
  sc.call .botlibAiAllocMoveState []

def botFreeMoveState (handle : Word) : SysCallM σ Unit :=
  sc.voidCall .botlibAiFreeMoveState [handle]

def botInitMoveState (handle : Word) (initmove : Ptr) : SysCallM σ Unit :=
  sc.voidCall .botlibAiInitMoveState [handle, initmove]

def botChooseBestFightWeapon (weaponstate : Word) (inventory : Ptr) : SysCallM σ Word :=
  sc.call .botlibAiChooseBestFightWeapon [weaponstate, inventory]

def botGetWeaponInfo (weaponstate weapon : Word) (weaponinfo : Ptr) : SysCallM σ Unit :=
  sc.voidCall .botlibAiGetWeaponInfo [weaponstate, weapon, weaponinfo]

def botLoadWeaponWeights (weaponstate : Word) (filename : Ptr) : SysCallM σ Word :=
  sc.call .botlibAiLoadWeaponWeights [weaponstate, filename]

def botAllocWeaponState : SysCallM σ Word :=
  sc.call .botlibAiAllocWeaponState []

def botFreeWeaponState (weaponstate : Word) : SysCallM σ Unit :=
  sc.voidCall .botlibAiFreeWeaponState [weaponstate]

def botResetWeaponState (weaponstate : Word) : SysCallM σ Unit :=
  sc.voidCall .botlibAiResetWeaponState [weaponstate]

def geneticParentsAndChildSelection (numranks : Word) (ranks parent1 parent2 child : Ptr)
    : SysCallM σ Word :=
  sc.call .botlibAiGeneticParentsAndChildSelection [numranks, ranks, parent1, parent2, child]

def pcLoadSource (filename : Ptr) : SysCallM σ Word :=
  sc.call .botlibPcLoadSource [filename]

def pcFreeSource (handle : Word) : SysCallM σ Word :=
  sc.call .botlibPcFreeSource [handle]

def pcReadToken (handle : Word) (pcToken : Ptr) : SysCallM σ Word :=
  sc.call .botlibPcReadToken [handle, pcToken]

def pcSourceFileAndLine (handle : Word) (filename line : Ptr) : SysCallM σ Word :=
  sc.call .botlibPcSourceFileAndLine [handle, filename, line]

/-!
### Memory, string and math traps

The engine's versions of C library functions. Some of them return a float.
-/

def memSet (dest : Ptr) (c count : Word) : SysCallM σ Unit :=
  sc.voidCall .gMemset [dest, c, count]

def memCpy (dest src : Ptr) (count : Word) : SysCallM σ Unit :=
  sc.voidCall .gMemcpy [dest, src, count]

def stringNCopy (strDest strSource : Ptr) (count : Word) : SysCallM σ Ptr := do
  let result ← sc.call .gStrncpy [strDest, strSource, count]
  return { address := result }

def sin (value : CFloat) : SysCallM σ CFloat :=
  sc.floatCall .gSin [passFloat value]

def cos (value : CFloat) : SysCallM σ CFloat :=
  sc.floatCall .gCos [passFloat value]

def aTan2 (a b : CFloat) : SysCallM σ CFloat :=
  sc.floatCall .gAtan2 [passFloat a, passFloat b]

def sqrt (value : CFloat) : SysCallM σ CFloat :=
  sc.floatCall .gSqrt [passFloat value]

def matrixMultiply (in1 in2 out : Ptr) : SysCallM σ Unit :=
  sc.voidCall .gMatrixmultiply [in1, in2, out]

def angleVectors (angles forward right up : Ptr) : SysCallM σ Unit :=
  sc.voidCall .gAnglevectors [angles, forward, right, up]

def perpendicularVector (dst src : Ptr) : SysCallM σ Unit :=
  sc.voidCall .gPerpendicularvector [dst, src]

def floor (value : CFloat) : SysCallM σ CFloat :=
  sc.floatCall .gFloor [passFloat value]

def ceil (value : CFloat) : SysCallM σ CFloat :=
  sc.floatCall .gCeil [passFloat value]

end Q3SysCall

end Q3df.Client
