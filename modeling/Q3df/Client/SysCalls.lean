/-
Module: Q3df.Client.SysCalls
Layer: Client
Purpose: `Q3Vm::SysCalls`, the switch that passes the traps of the game VM to the engine, and its
  transparency: with no event handler registered, a trap is one engine call with the same number,
  the integer and float arguments word for word, the pointers rebased, and the engine's result for
  the traps that have one. The headline `sysCalls_transparent_iff` says for every trap whether this
  holds.
Imports: Q3df.Client.Q3SysCall
Trusted boundary: human-reviewed transcription of client/Q3Vm.cc, lines 11-15 and 672-1170, and of
  client/Q3Vm.h, lines 10-19; copying a float keeps its bit pattern, also that of a signalling NaN,
  which code for the x87 unit may make quiet
Main exports: sysCalls, Signature, GameImport.signature, transparentCall, PassedOn,
  sysCalls_transparent_iff
Open obligations: none
-/
import Q3df.Client.Q3SysCall

namespace Q3df.Client

variable {σ : Type}

/-- `PASSFLOAT2`: the pattern of a float as the VM's result word. -/
def passFloat2 (x : CFloat) : Word := x.bits

/-- `add_q3df`: an address of the VM as an address of the process, 0 as `NULL`. -/
def addQ3df (memoryBase x : Word) : Ptr :=
  if x ≠ 0 then { address := x + memoryBase } else { address := 0 }

/-- The cases of the switch. `arg`, `ptr` and `vmf` read an argument of the trap
as an integer, a pointer and a float. -/
def sysCallsCase (sc : Q3SysCall σ) (arg : Nat → Word) (ptr : Nat → Ptr) (vmf : Nat → CFloat) :
    GameImport → SysCallM σ Word
  | .gPrint => do sc.printf (ptr 0); return 0
  | .gError => do sc.error (ptr 0); return 0
  | .gMilliseconds => sc.milliseconds
  | .gCvarRegister => do sc.cvarRegister (ptr 0) (ptr 1) (ptr 2) (arg 3); return 0
  | .gCvarUpdate => do sc.cvarUpdate (ptr 0); return 0
  | .gCvarSet => do sc.cvarSet (ptr 0) (ptr 1); return 0
  | .gCvarVariableIntegerValue => sc.cvarVariableIntegerValue (ptr 0)
  | .gCvarVariableStringBuffer => do sc.cvarVariableStringBuffer (ptr 0) (ptr 1) (arg 2); return 0
  | .gArgc => sc.argc
  | .gArgv => do sc.argv (arg 0) (ptr 1) (arg 2); return 0
  | .gFsFopenFile => sc.fsFOpenFile (ptr 0) (ptr 1) (arg 2)
  | .gFsRead => do sc.fsRead (ptr 0) (arg 1) (arg 2); return 0
  | .gFsWrite => do sc.fsWrite (ptr 0) (arg 1) (arg 2); return 0
  | .gFsFcloseFile => do sc.fsFCloseFile (arg 0); return 0
  | .gSendConsoleCommand => do sc.sendConsoleCommand (arg 0) (ptr 1); return 0
  | .gLocateGameData => do sc.locateGameData (ptr 0) (arg 1) (arg 2) (ptr 3) (arg 4); return 0
  | .gDropClient => do sc.dropClient (arg 0) (ptr 1); return 0
  | .gSendServerCommand => do sc.sendServerCommand (arg 0) (ptr 1); return 0
  | .gSetConfigstring => do sc.setConfigstring (arg 0) (ptr 1); return 0
  | .gGetConfigstring => do sc.getConfigstring (arg 0) (ptr 1) (arg 2); return 0
  | .gGetUserinfo => do sc.getUserinfo (arg 0) (ptr 1) (arg 2); return 0
  | .gSetUserinfo => do sc.setUserinfo (arg 0) (ptr 1); return 0
  | .gGetServerinfo => do sc.getServerinfo (ptr 0) (arg 1); return 0
  | .gSetBrushModel => do sc.setBrushModel (ptr 0) (ptr 1); return 0
  | .gTrace => do sc.trace (ptr 0) (ptr 1) (ptr 2) (ptr 3) (ptr 4) (arg 5) (arg 6); return 0
  | .gPointContents => sc.pointContents (ptr 0) (arg 1)
  | .gInPvs => sc.inPVS (ptr 0) (ptr 1)
  | .gInPvsIgnorePortals => sc.inPVSIgnorePortals (ptr 0) (ptr 1)
  | .gAdjustAreaPortalState => do sc.adjustAreaPortalState (ptr 0) (arg 1); return 0
  | .gAreasConnected => sc.areasConnected (arg 0) (arg 1)
  | .gLinkentity => do sc.linkEntity (ptr 0); return 0
  | .gUnlinkentity => do sc.unlinkEntity (ptr 0); return 0
  | .gEntitiesInBox => sc.entitiesInBox (ptr 0) (ptr 1) (ptr 2) (arg 3)
  | .gEntityContact => sc.entityContact (ptr 0) (ptr 1) (ptr 2)
  | .gBotAllocateClient => sc.botAllocateClient
  | .gBotFreeClient => do sc.botFreeClient (arg 0); return 0
  | .gGetUsercmd => do sc.getUsercmd (arg 0) (ptr 1); return 0
  | .gGetEntityToken => sc.getEntityToken (ptr 0) (arg 1)
  | .gFsGetfilelist => sc.fsGetFileList (ptr 0) (ptr 1) (ptr 2) (arg 3)
  | .gDebugPolygonCreate => sc.debugPolygonCreate (arg 0) (arg 1) (ptr 2)
  | .gDebugPolygonDelete => do sc.debugPolygonDelete (arg 0); return 0
  | .gRealTime => sc.realTime (ptr 0)
  | .gSnapvector => do sc.snapVector (ptr 0); return 0
  | .gTracecapsule => do
      sc.traceCapsule (ptr 0) (ptr 1) (ptr 2) (ptr 3) (ptr 4) (arg 5) (arg 6)
      return 0
  | .gEntityContactcapsule => sc.entityContactCapsule (ptr 0) (ptr 1) (ptr 2)
  | .gFsSeek => sc.fsSeek (arg 0) (arg 1) (arg 2)
  | .botlibSetup => sc.botLibSetup
  | .botlibShutdown => sc.botLibShutdown
  | .botlibLibvarSet => sc.botLibVarSet (ptr 0) (ptr 1)
  | .botlibLibvarGet => sc.botLibVarGet (ptr 0) (ptr 1) (arg 2)
  | .botlibPcAddGlobalDefine => sc.botLibDefine (ptr 0)
  | .botlibStartFrame => sc.botLibStartFrame (vmf 0)
  | .botlibLoadMap => sc.botLibLoadMap (ptr 0)
  | .botlibUpdatentity => sc.botLibUpdateEntity (arg 0) (ptr 1)
  | .botlibTest => sc.botLibTest (arg 0) (ptr 1) (ptr 2) (ptr 3)
  | .botlibGetSnapshotEntity => sc.botGetSnapshotEntity (arg 0) (arg 1)
  | .botlibGetConsoleMessage => sc.botGetServerCommand (arg 0) (ptr 1) (arg 2)
  | .botlibUserCommand => do sc.botUserCommand (arg 0) (ptr 1); return 0
  | .botlibAasEntityInfo => do sc.aasEntityInfo (arg 0) (ptr 1); return 0
  | .botlibAasInitialized => sc.aasInitialized
  | .botlibAasPresenceTypeBoundingBox => do
      sc.aasPresenceTypeBoundingBox (arg 0) (ptr 1) (ptr 2)
      return 0
  | .botlibAasTime => passFloat2 <$> sc.aasTime
  | .botlibAasPointAreaNum => sc.aasPointAreaNum (ptr 0)
  | .botlibAasPointReachabilityAreaIndex => sc.aasPointReachabilityAreaIndex (ptr 0)
  | .botlibAasTraceAreas => sc.aasTraceAreas (ptr 0) (ptr 1) (ptr 2) (ptr 3) (arg 4)
  | .botlibAasBboxAreas => sc.aasBBoxAreas (ptr 0) (ptr 1) (ptr 2) (arg 3)
  | .botlibAasAreaInfo => sc.aasAreaInfo (arg 0) (ptr 1)
  | .botlibAasPointContents => sc.aasPointContents (ptr 0)
  | .botlibAasNextBspEntity => sc.aasNextBSPEntity (arg 0)
  | .botlibAasValueForBspEpairKey => sc.aasValueForBSPEpairKey (arg 0) (ptr 1) (ptr 2) (arg 3)
  | .botlibAasVectorForBspEpairKey => sc.aasVectorForBSPEpairKey (arg 0) (ptr 1) (ptr 2)
  | .botlibAasFloatForBspEpairKey => sc.aasFloatForBSPEpairKey (arg 0) (ptr 1) (ptr 2)
  | .botlibAasIntForBspEpairKey => sc.aasIntForBSPEpairKey (arg 0) (ptr 1) (ptr 2)
  | .botlibAasAreaReachability => sc.aasAreaReachability (arg 0)
  | .botlibAasAreaTravelTimeToGoalArea => sc.aasAreaTravelTimeToGoalArea (arg 0) (ptr 1) (arg 2)
      (arg 3)
  | .botlibAasEnableRoutingArea => sc.aasEnableRoutingArea (arg 0) (arg 1)
  | .botlibAasPredictRoute => sc.aasPredictRoute (ptr 0) (arg 1) (ptr 2) (arg 3) (arg 4) (arg 5)
      (arg 6) (arg 7) (arg 8) (arg 9) (arg 10)
  | .botlibAasAlternativeRouteGoal => sc.aasAlternativeRouteGoals (ptr 0) (arg 1) (ptr 2) (arg 3)
      (arg 4) (ptr 5) (arg 6) (arg 7)
  | .botlibAasSwimming => sc.aasSwimming (ptr 0)
  | .botlibAasPredictClientMovement => sc.aasPredictClientMovement (ptr 0) (arg 1) (ptr 2) (arg 3)
      (arg 4) (ptr 5) (ptr 6) (arg 7) (arg 8) (vmf 9) (arg 10) (arg 11) (arg 12)
  | .botlibEaSay => do sc.eaSay (arg 0) (ptr 1); return 0
  | .botlibEaSayTeam => do sc.eaSayTeam (arg 0) (ptr 1); return 0
  | .botlibEaCommand => do sc.eaCommand (arg 0) (ptr 1); return 0
  | .botlibEaAction => do sc.eaAction (arg 0) (arg 1); return 0
  | .botlibEaGesture => do sc.eaGesture (arg 0); return 0
  | .botlibEaTalk => do sc.eaTalk (arg 0); return 0
  | .botlibEaAttack => do sc.eaAttack (arg 0); return 0
  | .botlibEaUse => do sc.eaUse (arg 0); return 0
  | .botlibEaRespawn => do sc.eaRespawn (arg 0); return 0
  | .botlibEaCrouch => do sc.eaCrouch (arg 0); return 0
  | .botlibEaMoveUp => do sc.eaMoveUp (arg 0); return 0
  | .botlibEaMoveDown => do sc.eaMoveDown (arg 0); return 0
  | .botlibEaMoveForward => do sc.eaMoveForward (arg 0); return 0
  | .botlibEaMoveBack => do sc.eaMoveBack (arg 0); return 0
  | .botlibEaMoveLeft => do sc.eaMoveLeft (arg 0); return 0
  | .botlibEaMoveRight => do sc.eaMoveRight (arg 0); return 0
  | .botlibEaSelectWeapon => do sc.eaSelectWeapon (arg 0) (arg 1); return 0
  | .botlibEaJump => do sc.eaJump (arg 0); return 0
  | .botlibEaDelayedJump => do sc.eaDelayedJump (arg 0); return 0
  | .botlibEaMove => do sc.eaMove (arg 0) (ptr 1) (vmf 2); return 0
  | .botlibEaView => do sc.eaView (arg 0) (ptr 1); return 0
  | .botlibEaEndRegular => do sc.eaEndRegular (arg 0) (vmf 1); return 0
  | .botlibEaGetInput => do sc.eaGetInput (arg 0) (vmf 1) (ptr 2); return 0
  | .botlibEaResetInput => do sc.eaResetInput (arg 0); return 0
  | .botlibAiLoadCharacter => sc.botLoadCharacter (ptr 0) (vmf 1)
  | .botlibAiFreeCharacter => do sc.botFreeCharacter (arg 0); return 0
  | .botlibAiCharacteristicFloat => passFloat2 <$> sc.characteristicFloat (arg 0) (arg 1)
  | .botlibAiCharacteristicBfloat => passFloat2 <$> sc.characteristicBFloat (arg 0) (arg 1)
      (vmf 2) (vmf 3)
  | .botlibAiCharacteristicInteger => sc.characteristicInteger (arg 0) (arg 1)
  | .botlibAiCharacteristicBinteger => sc.characteristicBInteger (arg 0) (arg 1) (arg 2) (arg 3)
  | .botlibAiCharacteristicString => do
      sc.characteristicString (arg 0) (arg 1) (ptr 2) (arg 3)
      return 0
  | .botlibAiAllocChatState => sc.botAllocChatState
  | .botlibAiFreeChatState => do sc.botFreeChatState (arg 0); return 0
  | .botlibAiQueueConsoleMessage => do sc.botQueueConsoleMessage (arg 0) (arg 1) (ptr 2); return 0
  | .botlibAiRemoveConsoleMessage => do sc.botRemoveConsoleMessage (arg 0) (arg 1); return 0
  | .botlibAiNextConsoleMessage => sc.botNextConsoleMessage (arg 0) (ptr 1)
  | .botlibAiNumConsoleMessage => sc.botNumConsoleMessages (arg 0)
  | .botlibAiInitialChat => do
      sc.botInitialChat (arg 0) (ptr 1) (arg 2) (ptr 3) (ptr 4) (ptr 5) (ptr 6) (ptr 7) (ptr 8) (ptr 9)
        (ptr 10)
      return 0
  | .botlibAiNumInitialChats => sc.botNumInitialChats (arg 0) (ptr 1)
  | .botlibAiReplyChat => sc.botReplyChat (arg 0) (ptr 1) (arg 2) (arg 3) (ptr 4) (ptr 5) (ptr 6)
      (ptr 7) (ptr 8) (ptr 9) (ptr 10) (ptr 11)
  | .botlibAiChatLength => sc.botChatLength (arg 0)
  | .botlibAiEnterChat => do sc.botEnterChat (arg 0) (arg 1) (arg 2); return 0
  | .botlibAiGetChatMessage => do sc.botGetChatMessage (arg 0) (ptr 1) (arg 2); return 0
  | .botlibAiStringContains => sc.stringContains (ptr 0) (ptr 1) (arg 2)
  | .botlibAiFindMatch => sc.botFindMatch (ptr 0) (ptr 1) (arg 2)
  | .botlibAiMatchVariable => do sc.botMatchVariable (ptr 0) (arg 1) (ptr 2) (arg 3); return 0
  | .botlibAiUnifyWhiteSpaces => do sc.unifyWhiteSpaces (ptr 0); return 0
  | .botlibAiReplaceSynonyms => do sc.botReplaceSynonyms (ptr 0) (arg 1); return 0
  | .botlibAiLoadChatFile => sc.botLoadChatFile (arg 0) (ptr 1) (ptr 2)
  | .botlibAiSetChatGender => do sc.botSetChatGender (arg 0) (arg 1); return 0
  | .botlibAiSetChatName => do sc.botSetChatName (arg 0) (ptr 1) (arg 2); return 0
  | .botlibAiResetGoalState => do sc.botResetGoalState (arg 0); return 0
  | .botlibAiResetAvoidGoals => do sc.botResetAvoidGoals (arg 0); return 0
  | .botlibAiRemoveFromAvoidGoals => do sc.botResetAvoidGoals (arg 0); return 0
  | .botlibAiPushGoal => do sc.botPushGoal (arg 0) (ptr 1); return 0
  | .botlibAiPopGoal => do sc.botPopGoal (arg 0); return 0
  | .botlibAiEmptyGoalStack => do sc.botEmptyGoalStack (arg 0); return 0
  | .botlibAiDumpAvoidGoals => do sc.botDumpAvoidGoals (arg 0); return 0
  | .botlibAiDumpGoalStack => do sc.botDumpGoalStack (arg 0); return 0
  | .botlibAiGoalName => do sc.botGoalName (arg 0) (ptr 1) (arg 2); return 0
  | .botlibAiGetTopGoal => sc.botGetTopGoal (arg 0) (ptr 1)
  | .botlibAiGetSecondGoal => sc.botGetSecondGoal (arg 0) (ptr 1)
  | .botlibAiChooseLtgItem => sc.botChooseLTGItem (arg 0) (ptr 1) (ptr 2) (arg 3)
  | .botlibAiChooseNbgItem => sc.botChooseNBGItem (arg 0) (ptr 1) (ptr 2) (arg 3) (ptr 4) (vmf 5)
  | .botlibAiTouchingGoal => sc.botTouchingGoal (ptr 0) (ptr 1)
  | .botlibAiItemGoalInVisButNotVisible => sc.botItemGoalInVisButNotVisible (arg 0) (ptr 1)
      (ptr 2) (ptr 3)
  | .botlibAiGetLevelItemGoal => sc.botGetLevelItemGoal (arg 0) (ptr 1) (ptr 2)
  | .botlibAiGetNextCampSpotGoal => sc.botGetNextCampSpotGoal (arg 0) (ptr 1)
  | .botlibAiGetMapLocationGoal => sc.botGetMapLocationGoal (ptr 0) (ptr 1)
  | .botlibAiAvoidGoalTime => passFloat2 <$> sc.botAvoidGoalTime (arg 0) (arg 1)
  | .botlibAiSetAvoidGoalTime => do sc.botSetAvoidGoalTime (arg 0) (arg 1) (vmf 2); return 0
  | .botlibAiInitLevelItems => do sc.botInitLevelItems; return 0
  | .botlibAiUpdateEntityItems => do sc.botUpdateEntityItems; return 0
  | .botlibAiLoadItemWeights => sc.botLoadItemWeights (arg 0) (ptr 1)
  | .botlibAiFreeItemWeights => do sc.botFreeItemWeights (arg 0); return 0
  | .botlibAiInterbreedGoalFuzzyLogic => do
      sc.botInterbreedGoalFuzzyLogic (arg 0) (arg 1) (arg 2)
      return 0
  | .botlibAiSaveGoalFuzzyLogic => do sc.botSaveGoalFuzzyLogic (arg 0) (ptr 1); return 0
  | .botlibAiMutateGoalFuzzyLogic => do sc.botMutateGoalFuzzyLogic (arg 0) (vmf 1); return 0
  | .botlibAiAllocGoalState => sc.botAllocGoalState (arg 0)
  | .botlibAiFreeGoalState => do sc.botFreeGoalState (arg 0); return 0
  | .botlibAiResetMoveState => do sc.botResetMoveState (arg 0); return 0
  | .botlibAiAddAvoidSpot => do sc.botAddAvoidSpot (arg 0) (ptr 1) (vmf 2) (arg 3); return 0
  | .botlibAiMoveToGoal => do sc.botMoveToGoal (ptr 0) (arg 1) (ptr 2) (arg 3); return 0
  | .botlibAiMoveInDirection => sc.botMoveInDirection (arg 0) (ptr 1) (vmf 2) (arg 3)
  | .botlibAiResetAvoidReach => do sc.botResetAvoidReach (arg 0); return 0
  | .botlibAiResetLastAvoidReach => do sc.botResetLastAvoidReach (arg 0); return 0
  | .botlibAiReachabilityArea => sc.botReachabilityArea (ptr 0) (arg 1)
  | .botlibAiMovementViewTarget => sc.botMovementViewTarget (arg 0) (ptr 1) (arg 2) (vmf 3) (ptr 4)
  | .botlibAiPredictVisiblePosition => sc.botPredictVisiblePosition (ptr 0) (arg 1) (ptr 2)
      (arg 3) (ptr 4)
  | .botlibAiAllocMoveState => sc.botAllocMoveState
  | .botlibAiFreeMoveState => do sc.botFreeMoveState (arg 0); return 0
  | .botlibAiInitMoveState => do sc.botInitMoveState (arg 0) (ptr 1); return 0
  | .botlibAiChooseBestFightWeapon => sc.botChooseBestFightWeapon (arg 0) (ptr 1)
  | .botlibAiGetWeaponInfo => do sc.botGetWeaponInfo (arg 0) (arg 1) (ptr 2); return 0
  | .botlibAiLoadWeaponWeights => sc.botLoadWeaponWeights (arg 0) (ptr 1)
  | .botlibAiAllocWeaponState => sc.botAllocWeaponState
  | .botlibAiFreeWeaponState => do sc.botFreeWeaponState (arg 0); return 0
  | .botlibAiResetWeaponState => do sc.botResetWeaponState (arg 0); return 0
  | .botlibAiGeneticParentsAndChildSelection => sc.geneticParentsAndChildSelection (arg 0) (ptr 1)
      (ptr 2) (ptr 3) (ptr 4)
  | .botlibPcLoadSource => sc.pcLoadSource (ptr 0)
  | .botlibPcFreeSource => sc.pcFreeSource (arg 0)
  | .botlibPcReadToken => sc.pcReadToken (arg 0) (ptr 1)
  | .botlibPcSourceFileAndLine => sc.pcSourceFileAndLine (arg 0) (ptr 1) (ptr 2)
  | .gMemset => do sc.memSet (ptr 0) (arg 1) (arg 2); return 0
  | .gMemcpy => do sc.memCpy (ptr 0) (ptr 1) (arg 2); return 0
  | .gStrncpy => Ptr.address <$> sc.stringNCopy (ptr 0) (ptr 1) (arg 2)
  | .gSin => passFloat2 <$> sc.sin (vmf 0)
  | .gCos => passFloat2 <$> sc.cos (vmf 0)
  | .gAtan2 => passFloat2 <$> sc.aTan2 (vmf 0) (vmf 1)
  | .gSqrt => passFloat2 <$> sc.sqrt (vmf 0)
  | .gFloor => passFloat2 <$> sc.floor (vmf 0)
  | .gCeil => passFloat2 <$> sc.ceil (vmf 0)
  | .gMatrixmultiply | .gAnglevectors | .gPerpendicularvector => do
      -- No case in the source: these fall to the default branch.
      sc.printError "VM::SysCalls: Unhandled syscall:\n"; return 0

/-- `Q3Vm::SysCalls`. `args` are the words of VM memory from the argument
pointer on. -/
def sysCalls (sc : Q3SysCall σ) (memoryBase : Word) (cmd : Int) (args : Nat → Word) :
    SysCallM σ Word :=
  match GameImport.ofInt? cmd with
  | some trap =>
      sysCallsCase sc args (fun x => addQ3df memoryBase (args x)) (fun x => { bits := args x }) trap
  | none => do sc.printError "VM::SysCalls: Unhandled syscall:\n"; return 0

/-!
### What a trap should do

The signature of a trap says how its arguments are to be read and whether it has
a result. It is the declaration of the trap's wrapper, and what a transparent
switch does follows from it alone.
-/

/-- How one argument of a trap is passed to the engine. -/
inductive ParamKind where
  | int
  | pointer
  | float
deriving Repr, DecidableEq

/-- The parameters of a trap and whether it returns a value. -/
structure Signature where
  params : List ParamKind
  returnsValue : Bool
deriving Repr, DecidableEq

def procedure (params : List ParamKind) : Signature := { params := params, returnsValue := false }

def function (params : List ParamKind) : Signature := { params := params, returnsValue := true }

/-- The wrappers' declarations. -/
def GameImport.signature : GameImport → Signature
  | .gPrint => procedure [.pointer]
  | .gError => procedure [.pointer]
  | .gMilliseconds => function []
  | .gCvarRegister => procedure [.pointer, .pointer, .pointer, .int]
  | .gCvarUpdate => procedure [.pointer]
  | .gCvarSet => procedure [.pointer, .pointer]
  | .gCvarVariableIntegerValue => function [.pointer]
  | .gCvarVariableStringBuffer => procedure [.pointer, .pointer, .int]
  | .gArgc => function []
  | .gArgv => procedure [.int, .pointer, .int]
  | .gFsFopenFile => function [.pointer, .pointer, .int]
  | .gFsRead => procedure [.pointer, .int, .int]
  | .gFsWrite => procedure [.pointer, .int, .int]
  | .gFsFcloseFile => procedure [.int]
  | .gSendConsoleCommand => procedure [.int, .pointer]
  | .gLocateGameData => procedure [.pointer, .int, .int, .pointer, .int]
  | .gDropClient => procedure [.int, .pointer]
  | .gSendServerCommand => procedure [.int, .pointer]
  | .gSetConfigstring => procedure [.int, .pointer]
  | .gGetConfigstring => procedure [.int, .pointer, .int]
  | .gGetUserinfo => procedure [.int, .pointer, .int]
  | .gSetUserinfo => procedure [.int, .pointer]
  | .gGetServerinfo => procedure [.pointer, .int]
  | .gSetBrushModel => procedure [.pointer, .pointer]
  | .gTrace => procedure [.pointer, .pointer, .pointer, .pointer, .pointer, .int, .int]
  | .gPointContents => function [.pointer, .int]
  | .gInPvs => function [.pointer, .pointer]
  | .gInPvsIgnorePortals => function [.pointer, .pointer]
  | .gAdjustAreaPortalState => procedure [.pointer, .int]
  | .gAreasConnected => function [.int, .int]
  | .gLinkentity => procedure [.pointer]
  | .gUnlinkentity => procedure [.pointer]
  | .gEntitiesInBox => function [.pointer, .pointer, .pointer, .int]
  | .gEntityContact => function [.pointer, .pointer, .pointer]
  | .gBotAllocateClient => function []
  | .gBotFreeClient => procedure [.int]
  | .gGetUsercmd => procedure [.int, .pointer]
  | .gGetEntityToken => function [.pointer, .int]
  | .gFsGetfilelist => function [.pointer, .pointer, .pointer, .int]
  | .gDebugPolygonCreate => function [.int, .int, .pointer]
  | .gDebugPolygonDelete => procedure [.int]
  | .gRealTime => function [.pointer]
  | .gSnapvector => procedure [.pointer]
  | .gTracecapsule => procedure [.pointer, .pointer, .pointer, .pointer, .pointer, .int, .int]
  | .gEntityContactcapsule => function [.pointer, .pointer, .pointer]
  | .gFsSeek => function [.int, .int, .int]
  | .botlibSetup => function []
  | .botlibShutdown => function []
  | .botlibLibvarSet => function [.pointer, .pointer]
  | .botlibLibvarGet => function [.pointer, .pointer, .int]
  | .botlibPcAddGlobalDefine => function [.pointer]
  | .botlibStartFrame => function [.float]
  | .botlibLoadMap => function [.pointer]
  | .botlibUpdatentity => function [.int, .pointer]
  | .botlibTest => function [.int, .pointer, .pointer, .pointer]
  | .botlibGetSnapshotEntity => function [.int, .int]
  | .botlibGetConsoleMessage => function [.int, .pointer, .int]
  | .botlibUserCommand => procedure [.int, .pointer]
  | .botlibAasEnableRoutingArea => function [.int, .int]
  | .botlibAasBboxAreas => function [.pointer, .pointer, .pointer, .int]
  | .botlibAasAreaInfo => function [.int, .pointer]
  | .botlibAasEntityInfo => procedure [.int, .pointer]
  | .botlibAasInitialized => function []
  | .botlibAasPresenceTypeBoundingBox => procedure [.int, .pointer, .pointer]
  | .botlibAasTime => function []
  | .botlibAasPointAreaNum => function [.pointer]
  | .botlibAasTraceAreas => function [.pointer, .pointer, .pointer, .pointer, .int]
  | .botlibAasPointContents => function [.pointer]
  | .botlibAasNextBspEntity => function [.int]
  | .botlibAasValueForBspEpairKey => function [.int, .pointer, .pointer, .int]
  | .botlibAasVectorForBspEpairKey => function [.int, .pointer, .pointer]
  | .botlibAasFloatForBspEpairKey => function [.int, .pointer, .pointer]
  | .botlibAasIntForBspEpairKey => function [.int, .pointer, .pointer]
  | .botlibAasAreaReachability => function [.int]
  | .botlibAasAreaTravelTimeToGoalArea => function [.int, .pointer, .int, .int]
  | .botlibAasSwimming => function [.pointer]
  | .botlibAasPredictClientMovement => function [.pointer, .int, .pointer, .int, .int, .pointer,
      .pointer, .int, .int, .float, .int, .int, .int]
  | .botlibEaSay => procedure [.int, .pointer]
  | .botlibEaSayTeam => procedure [.int, .pointer]
  | .botlibEaCommand => procedure [.int, .pointer]
  | .botlibEaAction => procedure [.int, .int]
  | .botlibEaGesture => procedure [.int]
  | .botlibEaTalk => procedure [.int]
  | .botlibEaAttack => procedure [.int]
  | .botlibEaUse => procedure [.int]
  | .botlibEaRespawn => procedure [.int]
  | .botlibEaCrouch => procedure [.int]
  | .botlibEaMoveUp => procedure [.int]
  | .botlibEaMoveDown => procedure [.int]
  | .botlibEaMoveForward => procedure [.int]
  | .botlibEaMoveBack => procedure [.int]
  | .botlibEaMoveLeft => procedure [.int]
  | .botlibEaMoveRight => procedure [.int]
  | .botlibEaSelectWeapon => procedure [.int, .int]
  | .botlibEaJump => procedure [.int]
  | .botlibEaDelayedJump => procedure [.int]
  | .botlibEaMove => procedure [.int, .pointer, .float]
  | .botlibEaView => procedure [.int, .pointer]
  | .botlibEaEndRegular => procedure [.int, .float]
  | .botlibEaGetInput => procedure [.int, .float, .pointer]
  | .botlibEaResetInput => procedure [.int]
  | .botlibAiLoadCharacter => function [.pointer, .float]
  | .botlibAiFreeCharacter => procedure [.int]
  | .botlibAiCharacteristicFloat => function [.int, .int]
  | .botlibAiCharacteristicBfloat => function [.int, .int, .float, .float]
  | .botlibAiCharacteristicInteger => function [.int, .int]
  | .botlibAiCharacteristicBinteger => function [.int, .int, .int, .int]
  | .botlibAiCharacteristicString => procedure [.int, .int, .pointer, .int]
  | .botlibAiAllocChatState => function []
  | .botlibAiFreeChatState => procedure [.int]
  | .botlibAiQueueConsoleMessage => procedure [.int, .int, .pointer]
  | .botlibAiRemoveConsoleMessage => procedure [.int, .int]
  | .botlibAiNextConsoleMessage => function [.int, .pointer]
  | .botlibAiNumConsoleMessage => function [.int]
  | .botlibAiInitialChat => procedure [.int, .pointer, .int, .pointer, .pointer, .pointer,
      .pointer, .pointer, .pointer, .pointer, .pointer]
  | .botlibAiReplyChat => function [.int, .pointer, .int, .int, .pointer, .pointer, .pointer,
      .pointer, .pointer, .pointer, .pointer, .pointer]
  | .botlibAiChatLength => function [.int]
  | .botlibAiEnterChat => procedure [.int, .int, .int]
  | .botlibAiStringContains => function [.pointer, .pointer, .int]
  | .botlibAiFindMatch => function [.pointer, .pointer, .int]
  | .botlibAiMatchVariable => procedure [.pointer, .int, .pointer, .int]
  | .botlibAiUnifyWhiteSpaces => procedure [.pointer]
  | .botlibAiReplaceSynonyms => procedure [.pointer, .int]
  | .botlibAiLoadChatFile => function [.int, .pointer, .pointer]
  | .botlibAiSetChatGender => procedure [.int, .int]
  | .botlibAiSetChatName => procedure [.int, .pointer, .int]
  | .botlibAiResetGoalState => procedure [.int]
  | .botlibAiResetAvoidGoals => procedure [.int]
  | .botlibAiPushGoal => procedure [.int, .pointer]
  | .botlibAiPopGoal => procedure [.int]
  | .botlibAiEmptyGoalStack => procedure [.int]
  | .botlibAiDumpAvoidGoals => procedure [.int]
  | .botlibAiDumpGoalStack => procedure [.int]
  | .botlibAiGoalName => procedure [.int, .pointer, .int]
  | .botlibAiGetTopGoal => function [.int, .pointer]
  | .botlibAiGetSecondGoal => function [.int, .pointer]
  | .botlibAiChooseLtgItem => function [.int, .pointer, .pointer, .int]
  | .botlibAiChooseNbgItem => function [.int, .pointer, .pointer, .int, .pointer, .float]
  | .botlibAiTouchingGoal => function [.pointer, .pointer]
  | .botlibAiItemGoalInVisButNotVisible => function [.int, .pointer, .pointer, .pointer]
  | .botlibAiGetLevelItemGoal => function [.int, .pointer, .pointer]
  | .botlibAiAvoidGoalTime => function [.int, .int]
  | .botlibAiInitLevelItems => procedure []
  | .botlibAiUpdateEntityItems => procedure []
  | .botlibAiLoadItemWeights => function [.int, .pointer]
  | .botlibAiFreeItemWeights => procedure [.int]
  | .botlibAiSaveGoalFuzzyLogic => procedure [.int, .pointer]
  | .botlibAiAllocGoalState => function [.int]
  | .botlibAiFreeGoalState => procedure [.int]
  | .botlibAiResetMoveState => procedure [.int]
  | .botlibAiMoveToGoal => procedure [.pointer, .int, .pointer, .int]
  | .botlibAiMoveInDirection => function [.int, .pointer, .float, .int]
  | .botlibAiResetAvoidReach => procedure [.int]
  | .botlibAiResetLastAvoidReach => procedure [.int]
  | .botlibAiReachabilityArea => function [.pointer, .int]
  | .botlibAiMovementViewTarget => function [.int, .pointer, .int, .float, .pointer]
  | .botlibAiAllocMoveState => function []
  | .botlibAiFreeMoveState => procedure [.int]
  | .botlibAiInitMoveState => procedure [.int, .pointer]
  | .botlibAiChooseBestFightWeapon => function [.int, .pointer]
  | .botlibAiGetWeaponInfo => procedure [.int, .int, .pointer]
  | .botlibAiLoadWeaponWeights => function [.int, .pointer]
  | .botlibAiAllocWeaponState => function []
  | .botlibAiFreeWeaponState => procedure [.int]
  | .botlibAiResetWeaponState => procedure [.int]
  | .botlibAiGeneticParentsAndChildSelection => function [.int, .pointer, .pointer, .pointer, .pointer]
  | .botlibAiInterbreedGoalFuzzyLogic => procedure [.int, .int, .int]
  | .botlibAiMutateGoalFuzzyLogic => procedure [.int, .float]
  | .botlibAiGetNextCampSpotGoal => function [.int, .pointer]
  | .botlibAiGetMapLocationGoal => function [.pointer, .pointer]
  | .botlibAiNumInitialChats => function [.int, .pointer]
  | .botlibAiGetChatMessage => procedure [.int, .pointer, .int]
  | .botlibAiRemoveFromAvoidGoals => procedure [.int, .int]
  | .botlibAiPredictVisiblePosition => function [.pointer, .int, .pointer, .int, .pointer]
  | .botlibAiSetAvoidGoalTime => procedure [.int, .int, .float]
  | .botlibAiAddAvoidSpot => procedure [.int, .pointer, .float, .int]
  | .botlibAasAlternativeRouteGoal => function [.pointer, .int, .pointer, .int, .int, .pointer,
      .int, .int]
  | .botlibAasPredictRoute => function [.pointer, .int, .pointer, .int, .int, .int, .int, .int,
      .int, .int, .int]
  | .botlibAasPointReachabilityAreaIndex => function [.pointer]
  | .botlibPcLoadSource => function [.pointer]
  | .botlibPcFreeSource => function [.int]
  | .botlibPcReadToken => function [.int, .pointer]
  | .botlibPcSourceFileAndLine => function [.int, .pointer, .pointer]
  | .gMemset => procedure [.pointer, .int, .int]
  | .gMemcpy => procedure [.pointer, .pointer, .int]
  | .gStrncpy => function [.pointer, .pointer, .int]
  | .gSin => function [.float]
  | .gCos => function [.float]
  | .gAtan2 => function [.float, .float]
  | .gSqrt => function [.float]
  | .gMatrixmultiply => procedure [.pointer, .pointer, .pointer]
  | .gAnglevectors => procedure [.pointer, .pointer, .pointer, .pointer]
  | .gPerpendicularvector => procedure [.pointer, .pointer]
  | .gFloor => function [.float]
  | .gCeil => function [.float]

/-- The word the engine should find for an argument: integers and float patterns
unchanged, pointers rebased with 0 as `NULL`. -/
def ParamKind.word (memoryBase : Word) : ParamKind → Word → StackWord
  | int, x => .word x
  | pointer, x => .word (addQ3df memoryBase x).address
  | float, x => .word x

/-- The one call a trap should become: its own number and all its arguments in
order. -/
def transparentEngineCall (memoryBase : Word) (trap : GameImport) (args : Nat → Word) : EngineCall :=
  { trap := trap.toInt
    words := trap.signature.params.mapIdx fun index kind => kind.word memoryBase (args index) }

/-- The transparent switch: exactly one engine call, and the engine's result for
the traps that return a value. -/
def transparentCall (syscall : EngineCall → σ → Word × σ) (memoryBase : Word) (trap : GameImport)
    (args : Nat → Word) : SysCallM σ Word := fun w =>
  let engineCall := transparentEngineCall memoryBase trap args
  let answered := syscall engineCall w.engine
  some (if trap.signature.returnsValue then answered.1 else 0,
    { engine := answered.2, calls := w.calls ++ [engineCall] })

/-- When the switch passes a trap on. One case calls a neighbour's wrapper, one
wrapper lets its float be promoted, three math traps have no case, and two
wrappers ask an uninitialised pointer. -/
def PassedOn (uninitialized : EventItem) : GameImport → Prop
  | .botlibAiRemoveFromAvoidGoals | .botlibAiMutateGoalFuzzyLogic => False
  | .gMatrixmultiply | .gAnglevectors | .gPerpendicularvector => False
  | .gLocateGameData | .gSetUserinfo => uninitialized.handled = some false
  | _ => True

instance (uninitialized : EventItem) : DecidablePred (PassedOn uninitialized) := fun trap => by
  cases trap <;> unfold PassedOn <;> infer_instance

variable (syscall : EngineCall → σ → Word × σ) (uninitialized : EventItem) (memoryBase : Word)
  (args : Nat → Word) (w : EngineWorld σ)

/-!
### Wrappers with events, when nobody listens

Without a handler the flag is read from `eventItem`. Where that is declared
without a value, what happens is not determined.
-/

/-- Without handlers the flag the wrapper asks is the one its variable happens
to point at. -/
theorem eventCall_of_no_handlers (eventItem : EventItem) (trap : GameImport) (params : List Word)
    (varArgs : List VarArg) :
    (Q3SysCall.new syscall uninitialized).eventCall eventItem trap params varArgs w =
      match eventItem.handled with
      | some false => (Q3SysCall.new syscall uninitialized).voidCall trap varArgs w
      | some true => some ((), w)
      | none => none := by
  cases eventItem with
  | null => rfl
  | unmapped => rfl
  | dangling isHandled => cases isHandled <;> rfl

/-- A case that runs a procedure and returns 0. -/
theorem run_return_zero (procedure : SysCallM σ Unit) :
    (do procedure; return (0 : Word) : SysCallM σ Word) w =
      (procedure w).map fun done => (0, done.2) := by
  cases ran : procedure w with
  | none => simp [bind, StateT.bind, ran]
  | some done =>
      simp only [bind, StateT.bind, ran]
      rfl

/-- The result of a case that is a wrapper with events: one call, no call or a
fault, as the flag says. -/
theorem eventCase_eq (eventItem : EventItem) (trap : GameImport) (params : List Word)
    (varArgs : List VarArg) :
    (do (Q3SysCall.new syscall uninitialized).eventCall eventItem trap params varArgs; return (0 : Word) :
        SysCallM σ Word) w =
      match eventItem.handled with
      | some false =>
          let engineCall : EngineCall := { trap := trap.toInt, words := varArgs.flatMap VarArg.words }
          some (0, { engine := (syscall engineCall w.engine).2, calls := w.calls ++ [engineCall] })
      | some true => some (0, w)
      | none => none := by
  rw [run_return_zero, eventCall_of_no_handlers]
  rcases eventItem.handled with - | - | - <;> rfl

/-!
### Traps that are passed on

For these the dispatch of the VM's call and the plain call of the engine are the
same function, up to reading the arguments.
-/

/-- One case per trap: each remaining case names its own wrapper, each wrapper
its own trap, and the arguments stand in the wrapper's order. -/
theorem sysCalls_of_passedOn {trap : GameImport} (passedOn : PassedOn uninitialized trap) :
    sysCalls (.new syscall uninitialized) memoryBase trap.toInt args w =
      transparentCall syscall memoryBase trap args w := by
  rw [sysCalls, GameImport.ofInt?_toInt]
  cases trap
  case gLocateGameData =>
      have readsUnhandled : uninitialized.handled = some false := passedOn
      apply (eventCase_eq syscall uninitialized w uninitialized _ _ _).trans
      rw [readsUnhandled]
      rfl
  case gSetUserinfo =>
      have readsUnhandled : uninitialized.handled = some false := passedOn
      apply (eventCase_eq syscall uninitialized w uninitialized _ _ _).trans
      rw [readsUnhandled]
      rfl
  all_goals first
    | exact passedOn.elim
    | rfl

/-!
### Traps that are not

The remaining traps: a call of another trap, a float passed as two words, no
case of their own, or a flag read through a pointer without a value.
-/

variable {syscall uninitialized memoryBase args w}

/-- The calls a switch has made tell it from the transparent one. -/
theorem madeCall_eq {trap : GameImport} {result : Option (Word × EngineWorld σ)} {made : EngineCall}
    (same : result = transparentCall syscall memoryBase trap args w)
    (log : result.map (fun done => done.2.calls) = some (w.calls ++ [made])) :
    made = transparentEngineCall memoryBase trap args := by
  subst same
  simpa [transparentCall] using log.symm

/-- A wrapper with events that is passed on transparently has found its flag
unset. -/
theorem handled_of_eventCase {eventItem : EventItem} {trap : GameImport} {params : List Word}
    {varArgs : List VarArg}
    (same : (do (Q3SysCall.new syscall uninitialized).eventCall eventItem trap params varArgs
                return (0 : Word) : SysCallM σ Word) w =
      transparentCall syscall memoryBase trap args w) :
    eventItem.handled = some false := by
  rw [eventCase_eq] at same
  rcases flag : eventItem.handled with - | - | -
  · rw [flag] at same
    cases same
  · rfl
  · rw [flag] at same
    have calls : w.calls = w.calls ++ [transparentEngineCall memoryBase trap args] :=
      congrArg (fun done => done.2.calls) (Option.some.inj same)
    simp at calls

/-- A trap that agrees with the transparent call is one of those that are passed
on. -/
theorem passedOn_of_sysCalls {trap : GameImport}
    (same : sysCalls (.new syscall uninitialized) memoryBase trap.toInt args w =
      transparentCall syscall memoryBase trap args w) : PassedOn uninitialized trap := by
  rw [sysCalls, GameImport.ofInt?_toInt] at same
  cases trap
  case botlibAiRemoveFromAvoidGoals =>
      have number : GameImport.botlibAiResetAvoidGoals.toInt =
          GameImport.botlibAiRemoveFromAvoidGoals.toInt :=
        congrArg EngineCall.trap (madeCall_eq same rfl)
      exact absurd number (by decide)
  case botlibAiMutateGoalFuzzyLogic =>
      -- The promoted float takes two words where one is expected.
      have wordCount : 3 = 2 := congrArg (fun call => call.words.length) (madeCall_eq same rfl)
      exact absurd wordCount (by decide)
  case gMatrixmultiply =>
      have number : GameImport.gPrint.toInt = GameImport.gMatrixmultiply.toInt :=
        congrArg EngineCall.trap (madeCall_eq same rfl)
      exact absurd number (by decide)
  case gAnglevectors =>
      have number : GameImport.gPrint.toInt = GameImport.gAnglevectors.toInt :=
        congrArg EngineCall.trap (madeCall_eq same rfl)
      exact absurd number (by decide)
  case gPerpendicularvector =>
      have number : GameImport.gPrint.toInt = GameImport.gPerpendicularvector.toInt :=
        congrArg EngineCall.trap (madeCall_eq same rfl)
      exact absurd number (by decide)
  case gLocateGameData => exact handled_of_eventCase same
  case gSetUserinfo => exact handled_of_eventCase same
  all_goals trivial

/-- With no handler registered, the switch passes a trap on transparently
exactly when it is none of the five traps the source gets wrong and, for the two
wrappers that ask an uninitialised pointer, the pointer is `NULL` or shows an
unset flag. -/
theorem sysCalls_transparent_iff (syscall : EngineCall → σ → Word × σ) (uninitialized : EventItem)
    (memoryBase : Word) (trap : GameImport) (args : Nat → Word) (w : EngineWorld σ) :
    sysCalls (.new syscall uninitialized) memoryBase trap.toInt args w =
        transparentCall syscall memoryBase trap args w ↔
      PassedOn uninitialized trap :=
  ⟨passedOn_of_sysCalls, sysCalls_of_passedOn syscall uninitialized memoryBase args w⟩

/-- `BOTLIB_AI_REMOVE_FROM_AVOID_GOALS(3, 7)` reaches the engine as
`BOTLIB_AI_RESET_AVOID_GOALS(3)`. -/
theorem removeFromAvoidGoals_not_transparent :
    sysCalls (.new (fun _ (state : Unit) => (0, state)) .null) 0x10000
        GameImport.botlibAiRemoveFromAvoidGoals.toInt (fun index => if index = 0 then 3 else 7)
        { engine := (), calls := [] } ≠
      transparentCall (fun _ (state : Unit) => (0, state)) 0x10000 .botlibAiRemoveFromAvoidGoals
        (fun index => if index = 0 then 3 else 7) { engine := (), calls := [] } := by
  decide

end Q3df.Client
