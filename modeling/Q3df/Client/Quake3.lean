/-
Module: Q3df.Client.Quake3
Layer: Client
Purpose: The part of the game interface header that the proxy's logic reads: the commands the engine
  sends to the game module, the client states and the sizes of the fixed buffers.
Imports: Mathlib.Data.Int.Notation
Trusted boundary: human-reviewed transcription of client/Quake3.h
Main exports: GameExport, GameExport.toInt, GameExport.ofInt?, ClientState, maxClients, maxInfoString
Open obligations: none
-/
import Mathlib.Data.Int.Notation

namespace Q3df.Client

/-- `MAX_CLIENTS`, the number of player slots. -/
abbrev maxClients : Nat := 64

instance neZero_maxClients : @NeZero Nat Zero.ofOfNat0 maxClients := ⟨by decide⟩

/-- `MAX_INFO_STRING`, the size of a cached userinfo string with its terminator. -/
abbrev maxInfoString : Nat := 1024

/-- `BIG_INFO_STRING`, the size of the buffers the info string functions work in. -/
abbrev bigInfoString : Nat := 8192

/-- `gameExport_t`, the commands `vmMain` receives from the engine. -/
inductive GameExport where
  | gameInit
  | gameShutdown
  | gameClientConnect
  | gameClientBegin
  | gameClientUserinfoChanged
  | gameClientDisconnect
  | gameClientCommand
  | gameClientThink
  | gameRunFrame
  | gameConsoleCommand
  | botaiStartFrame
deriving Repr, DecidableEq

namespace GameExport

/-- The enumerator's value. -/
def toInt : GameExport → Int
  | gameInit => 0
  | gameShutdown => 1
  | gameClientConnect => 2
  | gameClientBegin => 3
  | gameClientUserinfoChanged => 4
  | gameClientDisconnect => 5
  | gameClientCommand => 6
  | gameClientThink => 7
  | gameRunFrame => 8
  | gameConsoleCommand => 9
  | botaiStartFrame => 10

/-- The enumerator a `switch(command)` selects, `none` for a value outside the
enumeration. -/
def ofInt? : Int → Option GameExport
  | 0 => some gameInit
  | 1 => some gameShutdown
  | 2 => some gameClientConnect
  | 3 => some gameClientBegin
  | 4 => some gameClientUserinfoChanged
  | 5 => some gameClientDisconnect
  | 6 => some gameClientCommand
  | 7 => some gameClientThink
  | 8 => some gameRunFrame
  | 9 => some gameConsoleCommand
  | 10 => some botaiStartFrame
  | _ => none

@[simp] theorem ofInt?_toInt (command : GameExport) : ofInt? command.toInt = some command := by
  cases command <;> rfl

/-- Different commands have different numbers. -/
theorem toInt_inj {command other : GameExport} : command.toInt = other.toInt ↔ command = other := by
  refine ⟨?_, congrArg toInt⟩
  intro same
  have selected := ofInt?_toInt command
  rw [same, ofInt?_toInt] at selected
  exact (Option.some.inj selected).symm

end GameExport

/-- `clientState_t`. -/
inductive ClientState where
  | clientFree
  | clientConnected
  | clientActive
deriving Repr, DecidableEq

end Q3df.Client
