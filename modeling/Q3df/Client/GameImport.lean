/-
Module: Q3df.Client.GameImport
Layer: Client
Purpose: The trap numbers of the game interface: `gameImport_t` and the numbers the same header
  defines for the memory, string and math traps. A game VM calls the engine by these numbers.
Imports: Mathlib.Data.Int.Notation
Trusted boundary: human-reviewed transcription of client/Quake3.h, lines 20-31 and 427-712
Main exports: GameImport, GameImport.toInt, GameImport.ofInt?, GameImport.ofInt?_toInt
Open obligations: none
-/
import Mathlib.Data.Int.Notation

namespace Q3df.Client

/-- `gameImport_t`, and after it the traps from `G_MEMSET` to `G_CEIL`. -/
inductive GameImport where
  | gPrint
  | gError
  | gMilliseconds
  | gCvarRegister
  | gCvarUpdate
  | gCvarSet
  | gCvarVariableIntegerValue
  | gCvarVariableStringBuffer
  | gArgc
  | gArgv
  | gFsFopenFile
  | gFsRead
  | gFsWrite
  | gFsFcloseFile
  | gSendConsoleCommand
  | gLocateGameData
  | gDropClient
  | gSendServerCommand
  | gSetConfigstring
  | gGetConfigstring
  | gGetUserinfo
  | gSetUserinfo
  | gGetServerinfo
  | gSetBrushModel
  | gTrace
  | gPointContents
  | gInPvs
  | gInPvsIgnorePortals
  | gAdjustAreaPortalState
  | gAreasConnected
  | gLinkentity
  | gUnlinkentity
  | gEntitiesInBox
  | gEntityContact
  | gBotAllocateClient
  | gBotFreeClient
  | gGetUsercmd
  | gGetEntityToken
  | gFsGetfilelist
  | gDebugPolygonCreate
  | gDebugPolygonDelete
  | gRealTime
  | gSnapvector
  | gTracecapsule
  | gEntityContactcapsule
  | gFsSeek
  | botlibSetup
  | botlibShutdown
  | botlibLibvarSet
  | botlibLibvarGet
  | botlibPcAddGlobalDefine
  | botlibStartFrame
  | botlibLoadMap
  | botlibUpdatentity
  | botlibTest
  | botlibGetSnapshotEntity
  | botlibGetConsoleMessage
  | botlibUserCommand
  | botlibAasEnableRoutingArea
  | botlibAasBboxAreas
  | botlibAasAreaInfo
  | botlibAasEntityInfo
  | botlibAasInitialized
  | botlibAasPresenceTypeBoundingBox
  | botlibAasTime
  | botlibAasPointAreaNum
  | botlibAasTraceAreas
  | botlibAasPointContents
  | botlibAasNextBspEntity
  | botlibAasValueForBspEpairKey
  | botlibAasVectorForBspEpairKey
  | botlibAasFloatForBspEpairKey
  | botlibAasIntForBspEpairKey
  | botlibAasAreaReachability
  | botlibAasAreaTravelTimeToGoalArea
  | botlibAasSwimming
  | botlibAasPredictClientMovement
  | botlibEaSay
  | botlibEaSayTeam
  | botlibEaCommand
  | botlibEaAction
  | botlibEaGesture
  | botlibEaTalk
  | botlibEaAttack
  | botlibEaUse
  | botlibEaRespawn
  | botlibEaCrouch
  | botlibEaMoveUp
  | botlibEaMoveDown
  | botlibEaMoveForward
  | botlibEaMoveBack
  | botlibEaMoveLeft
  | botlibEaMoveRight
  | botlibEaSelectWeapon
  | botlibEaJump
  | botlibEaDelayedJump
  | botlibEaMove
  | botlibEaView
  | botlibEaEndRegular
  | botlibEaGetInput
  | botlibEaResetInput
  | botlibAiLoadCharacter
  | botlibAiFreeCharacter
  | botlibAiCharacteristicFloat
  | botlibAiCharacteristicBfloat
  | botlibAiCharacteristicInteger
  | botlibAiCharacteristicBinteger
  | botlibAiCharacteristicString
  | botlibAiAllocChatState
  | botlibAiFreeChatState
  | botlibAiQueueConsoleMessage
  | botlibAiRemoveConsoleMessage
  | botlibAiNextConsoleMessage
  | botlibAiNumConsoleMessage
  | botlibAiInitialChat
  | botlibAiReplyChat
  | botlibAiChatLength
  | botlibAiEnterChat
  | botlibAiStringContains
  | botlibAiFindMatch
  | botlibAiMatchVariable
  | botlibAiUnifyWhiteSpaces
  | botlibAiReplaceSynonyms
  | botlibAiLoadChatFile
  | botlibAiSetChatGender
  | botlibAiSetChatName
  | botlibAiResetGoalState
  | botlibAiResetAvoidGoals
  | botlibAiPushGoal
  | botlibAiPopGoal
  | botlibAiEmptyGoalStack
  | botlibAiDumpAvoidGoals
  | botlibAiDumpGoalStack
  | botlibAiGoalName
  | botlibAiGetTopGoal
  | botlibAiGetSecondGoal
  | botlibAiChooseLtgItem
  | botlibAiChooseNbgItem
  | botlibAiTouchingGoal
  | botlibAiItemGoalInVisButNotVisible
  | botlibAiGetLevelItemGoal
  | botlibAiAvoidGoalTime
  | botlibAiInitLevelItems
  | botlibAiUpdateEntityItems
  | botlibAiLoadItemWeights
  | botlibAiFreeItemWeights
  | botlibAiSaveGoalFuzzyLogic
  | botlibAiAllocGoalState
  | botlibAiFreeGoalState
  | botlibAiResetMoveState
  | botlibAiMoveToGoal
  | botlibAiMoveInDirection
  | botlibAiResetAvoidReach
  | botlibAiResetLastAvoidReach
  | botlibAiReachabilityArea
  | botlibAiMovementViewTarget
  | botlibAiAllocMoveState
  | botlibAiFreeMoveState
  | botlibAiInitMoveState
  | botlibAiChooseBestFightWeapon
  | botlibAiGetWeaponInfo
  | botlibAiLoadWeaponWeights
  | botlibAiAllocWeaponState
  | botlibAiFreeWeaponState
  | botlibAiResetWeaponState
  | botlibAiGeneticParentsAndChildSelection
  | botlibAiInterbreedGoalFuzzyLogic
  | botlibAiMutateGoalFuzzyLogic
  | botlibAiGetNextCampSpotGoal
  | botlibAiGetMapLocationGoal
  | botlibAiNumInitialChats
  | botlibAiGetChatMessage
  | botlibAiRemoveFromAvoidGoals
  | botlibAiPredictVisiblePosition
  | botlibAiSetAvoidGoalTime
  | botlibAiAddAvoidSpot
  | botlibAasAlternativeRouteGoal
  | botlibAasPredictRoute
  | botlibAasPointReachabilityAreaIndex
  | botlibPcLoadSource
  | botlibPcFreeSource
  | botlibPcReadToken
  | botlibPcSourceFileAndLine
  | gMemset
  | gMemcpy
  | gStrncpy
  | gSin
  | gCos
  | gAtan2
  | gSqrt
  | gMatrixmultiply
  | gAnglevectors
  | gPerpendicularvector
  | gFloor
  | gCeil
deriving Repr, DecidableEq

namespace GameImport

/-- The trap's number. -/
def toInt : GameImport → Int
  | gPrint => 0
  | gError => 1
  | gMilliseconds => 2
  | gCvarRegister => 3
  | gCvarUpdate => 4
  | gCvarSet => 5
  | gCvarVariableIntegerValue => 6
  | gCvarVariableStringBuffer => 7
  | gArgc => 8
  | gArgv => 9
  | gFsFopenFile => 10
  | gFsRead => 11
  | gFsWrite => 12
  | gFsFcloseFile => 13
  | gSendConsoleCommand => 14
  | gLocateGameData => 15
  | gDropClient => 16
  | gSendServerCommand => 17
  | gSetConfigstring => 18
  | gGetConfigstring => 19
  | gGetUserinfo => 20
  | gSetUserinfo => 21
  | gGetServerinfo => 22
  | gSetBrushModel => 23
  | gTrace => 24
  | gPointContents => 25
  | gInPvs => 26
  | gInPvsIgnorePortals => 27
  | gAdjustAreaPortalState => 28
  | gAreasConnected => 29
  | gLinkentity => 30
  | gUnlinkentity => 31
  | gEntitiesInBox => 32
  | gEntityContact => 33
  | gBotAllocateClient => 34
  | gBotFreeClient => 35
  | gGetUsercmd => 36
  | gGetEntityToken => 37
  | gFsGetfilelist => 38
  | gDebugPolygonCreate => 39
  | gDebugPolygonDelete => 40
  | gRealTime => 41
  | gSnapvector => 42
  | gTracecapsule => 43
  | gEntityContactcapsule => 44
  | gFsSeek => 45
  | botlibSetup => 200
  | botlibShutdown => 201
  | botlibLibvarSet => 202
  | botlibLibvarGet => 203
  | botlibPcAddGlobalDefine => 204
  | botlibStartFrame => 205
  | botlibLoadMap => 206
  | botlibUpdatentity => 207
  | botlibTest => 208
  | botlibGetSnapshotEntity => 209
  | botlibGetConsoleMessage => 210
  | botlibUserCommand => 211
  | botlibAasEnableRoutingArea => 300
  | botlibAasBboxAreas => 301
  | botlibAasAreaInfo => 302
  | botlibAasEntityInfo => 303
  | botlibAasInitialized => 304
  | botlibAasPresenceTypeBoundingBox => 305
  | botlibAasTime => 306
  | botlibAasPointAreaNum => 307
  | botlibAasTraceAreas => 308
  | botlibAasPointContents => 309
  | botlibAasNextBspEntity => 310
  | botlibAasValueForBspEpairKey => 311
  | botlibAasVectorForBspEpairKey => 312
  | botlibAasFloatForBspEpairKey => 313
  | botlibAasIntForBspEpairKey => 314
  | botlibAasAreaReachability => 315
  | botlibAasAreaTravelTimeToGoalArea => 316
  | botlibAasSwimming => 317
  | botlibAasPredictClientMovement => 318
  | botlibEaSay => 400
  | botlibEaSayTeam => 401
  | botlibEaCommand => 402
  | botlibEaAction => 403
  | botlibEaGesture => 404
  | botlibEaTalk => 405
  | botlibEaAttack => 406
  | botlibEaUse => 407
  | botlibEaRespawn => 408
  | botlibEaCrouch => 409
  | botlibEaMoveUp => 410
  | botlibEaMoveDown => 411
  | botlibEaMoveForward => 412
  | botlibEaMoveBack => 413
  | botlibEaMoveLeft => 414
  | botlibEaMoveRight => 415
  | botlibEaSelectWeapon => 416
  | botlibEaJump => 417
  | botlibEaDelayedJump => 418
  | botlibEaMove => 419
  | botlibEaView => 420
  | botlibEaEndRegular => 421
  | botlibEaGetInput => 422
  | botlibEaResetInput => 423
  | botlibAiLoadCharacter => 500
  | botlibAiFreeCharacter => 501
  | botlibAiCharacteristicFloat => 502
  | botlibAiCharacteristicBfloat => 503
  | botlibAiCharacteristicInteger => 504
  | botlibAiCharacteristicBinteger => 505
  | botlibAiCharacteristicString => 506
  | botlibAiAllocChatState => 507
  | botlibAiFreeChatState => 508
  | botlibAiQueueConsoleMessage => 509
  | botlibAiRemoveConsoleMessage => 510
  | botlibAiNextConsoleMessage => 511
  | botlibAiNumConsoleMessage => 512
  | botlibAiInitialChat => 513
  | botlibAiReplyChat => 514
  | botlibAiChatLength => 515
  | botlibAiEnterChat => 516
  | botlibAiStringContains => 517
  | botlibAiFindMatch => 518
  | botlibAiMatchVariable => 519
  | botlibAiUnifyWhiteSpaces => 520
  | botlibAiReplaceSynonyms => 521
  | botlibAiLoadChatFile => 522
  | botlibAiSetChatGender => 523
  | botlibAiSetChatName => 524
  | botlibAiResetGoalState => 525
  | botlibAiResetAvoidGoals => 526
  | botlibAiPushGoal => 527
  | botlibAiPopGoal => 528
  | botlibAiEmptyGoalStack => 529
  | botlibAiDumpAvoidGoals => 530
  | botlibAiDumpGoalStack => 531
  | botlibAiGoalName => 532
  | botlibAiGetTopGoal => 533
  | botlibAiGetSecondGoal => 534
  | botlibAiChooseLtgItem => 535
  | botlibAiChooseNbgItem => 536
  | botlibAiTouchingGoal => 537
  | botlibAiItemGoalInVisButNotVisible => 538
  | botlibAiGetLevelItemGoal => 539
  | botlibAiAvoidGoalTime => 540
  | botlibAiInitLevelItems => 541
  | botlibAiUpdateEntityItems => 542
  | botlibAiLoadItemWeights => 543
  | botlibAiFreeItemWeights => 544
  | botlibAiSaveGoalFuzzyLogic => 545
  | botlibAiAllocGoalState => 546
  | botlibAiFreeGoalState => 547
  | botlibAiResetMoveState => 548
  | botlibAiMoveToGoal => 549
  | botlibAiMoveInDirection => 550
  | botlibAiResetAvoidReach => 551
  | botlibAiResetLastAvoidReach => 552
  | botlibAiReachabilityArea => 553
  | botlibAiMovementViewTarget => 554
  | botlibAiAllocMoveState => 555
  | botlibAiFreeMoveState => 556
  | botlibAiInitMoveState => 557
  | botlibAiChooseBestFightWeapon => 558
  | botlibAiGetWeaponInfo => 559
  | botlibAiLoadWeaponWeights => 560
  | botlibAiAllocWeaponState => 561
  | botlibAiFreeWeaponState => 562
  | botlibAiResetWeaponState => 563
  | botlibAiGeneticParentsAndChildSelection => 564
  | botlibAiInterbreedGoalFuzzyLogic => 565
  | botlibAiMutateGoalFuzzyLogic => 566
  | botlibAiGetNextCampSpotGoal => 567
  | botlibAiGetMapLocationGoal => 568
  | botlibAiNumInitialChats => 569
  | botlibAiGetChatMessage => 570
  | botlibAiRemoveFromAvoidGoals => 571
  | botlibAiPredictVisiblePosition => 572
  | botlibAiSetAvoidGoalTime => 573
  | botlibAiAddAvoidSpot => 574
  | botlibAasAlternativeRouteGoal => 575
  | botlibAasPredictRoute => 576
  | botlibAasPointReachabilityAreaIndex => 577
  | botlibPcLoadSource => 578
  | botlibPcFreeSource => 579
  | botlibPcReadToken => 580
  | botlibPcSourceFileAndLine => 581
  | gMemset => 100
  | gMemcpy => 101
  | gStrncpy => 102
  | gSin => 103
  | gCos => 104
  | gAtan2 => 105
  | gSqrt => 106
  | gMatrixmultiply => 107
  | gAnglevectors => 108
  | gPerpendicularvector => 109
  | gFloor => 110
  | gCeil => 111

/-- Every trap, in the order of the header. -/
def all : List GameImport :=
  [.gPrint, .gError, .gMilliseconds, .gCvarRegister, .gCvarUpdate, .gCvarSet,
   .gCvarVariableIntegerValue, .gCvarVariableStringBuffer, .gArgc, .gArgv, .gFsFopenFile, .gFsRead,
   .gFsWrite, .gFsFcloseFile, .gSendConsoleCommand, .gLocateGameData, .gDropClient, .gSendServerCommand,
   .gSetConfigstring, .gGetConfigstring, .gGetUserinfo, .gSetUserinfo, .gGetServerinfo, .gSetBrushModel,
   .gTrace, .gPointContents, .gInPvs, .gInPvsIgnorePortals, .gAdjustAreaPortalState, .gAreasConnected,
   .gLinkentity, .gUnlinkentity, .gEntitiesInBox, .gEntityContact, .gBotAllocateClient, .gBotFreeClient,
   .gGetUsercmd, .gGetEntityToken, .gFsGetfilelist, .gDebugPolygonCreate, .gDebugPolygonDelete,
   .gRealTime, .gSnapvector, .gTracecapsule, .gEntityContactcapsule, .gFsSeek, .botlibSetup,
   .botlibShutdown, .botlibLibvarSet, .botlibLibvarGet, .botlibPcAddGlobalDefine, .botlibStartFrame,
   .botlibLoadMap, .botlibUpdatentity, .botlibTest, .botlibGetSnapshotEntity, .botlibGetConsoleMessage,
   .botlibUserCommand, .botlibAasEnableRoutingArea, .botlibAasBboxAreas, .botlibAasAreaInfo,
   .botlibAasEntityInfo, .botlibAasInitialized, .botlibAasPresenceTypeBoundingBox, .botlibAasTime,
   .botlibAasPointAreaNum, .botlibAasTraceAreas, .botlibAasPointContents, .botlibAasNextBspEntity,
   .botlibAasValueForBspEpairKey, .botlibAasVectorForBspEpairKey, .botlibAasFloatForBspEpairKey,
   .botlibAasIntForBspEpairKey, .botlibAasAreaReachability, .botlibAasAreaTravelTimeToGoalArea,
   .botlibAasSwimming, .botlibAasPredictClientMovement, .botlibEaSay, .botlibEaSayTeam,
   .botlibEaCommand, .botlibEaAction, .botlibEaGesture, .botlibEaTalk, .botlibEaAttack, .botlibEaUse,
   .botlibEaRespawn, .botlibEaCrouch, .botlibEaMoveUp, .botlibEaMoveDown, .botlibEaMoveForward,
   .botlibEaMoveBack, .botlibEaMoveLeft, .botlibEaMoveRight, .botlibEaSelectWeapon, .botlibEaJump,
   .botlibEaDelayedJump, .botlibEaMove, .botlibEaView, .botlibEaEndRegular, .botlibEaGetInput,
   .botlibEaResetInput, .botlibAiLoadCharacter, .botlibAiFreeCharacter, .botlibAiCharacteristicFloat,
   .botlibAiCharacteristicBfloat, .botlibAiCharacteristicInteger, .botlibAiCharacteristicBinteger,
   .botlibAiCharacteristicString, .botlibAiAllocChatState, .botlibAiFreeChatState,
   .botlibAiQueueConsoleMessage, .botlibAiRemoveConsoleMessage, .botlibAiNextConsoleMessage,
   .botlibAiNumConsoleMessage, .botlibAiInitialChat, .botlibAiReplyChat, .botlibAiChatLength,
   .botlibAiEnterChat, .botlibAiStringContains, .botlibAiFindMatch, .botlibAiMatchVariable,
   .botlibAiUnifyWhiteSpaces, .botlibAiReplaceSynonyms, .botlibAiLoadChatFile, .botlibAiSetChatGender,
   .botlibAiSetChatName, .botlibAiResetGoalState, .botlibAiResetAvoidGoals, .botlibAiPushGoal,
   .botlibAiPopGoal, .botlibAiEmptyGoalStack, .botlibAiDumpAvoidGoals, .botlibAiDumpGoalStack,
   .botlibAiGoalName, .botlibAiGetTopGoal, .botlibAiGetSecondGoal, .botlibAiChooseLtgItem,
   .botlibAiChooseNbgItem, .botlibAiTouchingGoal, .botlibAiItemGoalInVisButNotVisible,
   .botlibAiGetLevelItemGoal, .botlibAiAvoidGoalTime, .botlibAiInitLevelItems,
   .botlibAiUpdateEntityItems, .botlibAiLoadItemWeights, .botlibAiFreeItemWeights,
   .botlibAiSaveGoalFuzzyLogic, .botlibAiAllocGoalState, .botlibAiFreeGoalState,
   .botlibAiResetMoveState, .botlibAiMoveToGoal, .botlibAiMoveInDirection, .botlibAiResetAvoidReach,
   .botlibAiResetLastAvoidReach, .botlibAiReachabilityArea, .botlibAiMovementViewTarget,
   .botlibAiAllocMoveState, .botlibAiFreeMoveState, .botlibAiInitMoveState,
   .botlibAiChooseBestFightWeapon, .botlibAiGetWeaponInfo, .botlibAiLoadWeaponWeights,
   .botlibAiAllocWeaponState, .botlibAiFreeWeaponState, .botlibAiResetWeaponState,
   .botlibAiGeneticParentsAndChildSelection, .botlibAiInterbreedGoalFuzzyLogic,
   .botlibAiMutateGoalFuzzyLogic, .botlibAiGetNextCampSpotGoal, .botlibAiGetMapLocationGoal,
   .botlibAiNumInitialChats, .botlibAiGetChatMessage, .botlibAiRemoveFromAvoidGoals,
   .botlibAiPredictVisiblePosition, .botlibAiSetAvoidGoalTime, .botlibAiAddAvoidSpot,
   .botlibAasAlternativeRouteGoal, .botlibAasPredictRoute, .botlibAasPointReachabilityAreaIndex,
   .botlibPcLoadSource, .botlibPcFreeSource, .botlibPcReadToken, .botlibPcSourceFileAndLine, .gMemset,
   .gMemcpy, .gStrncpy, .gSin, .gCos, .gAtan2, .gSqrt, .gMatrixmultiply, .gAnglevectors,
   .gPerpendicularvector, .gFloor, .gCeil]

/-- The trap a `switch` over the number selects, `none` for a number the header
does not name. -/
def ofInt? (cmd : Int) : Option GameImport :=
  all.find? fun trap => trap.toInt == cmd

@[simp] theorem ofInt?_toInt (trap : GameImport) : ofInt? trap.toInt = some trap := by
  cases trap <;> decide +kernel

end GameImport

end Q3df.Client
