/-
Module: Q3df.Client.Utils
Layer: Client
Purpose: The functions that change an info string in place, `Utils::InfoRemoveKey` and
  `Utils::InfoSetValueForKey`, with the warnings they print, and `va`. The lookup is next to
  `Q3User`. A warning is printed if the buffer of `va` holds it; `printWarning` says for which texts
  that is so.
Imports: Q3df.Library.Printf, Q3df.Client.Q3User
Trusted boundary: human-reviewed transcription of client/Utils.cc, lines 63-139, of va in
  client/Recordsystem.cc and of PrintWarning in client/Q3SysCall.cc
Main exports: Recordsystem.va, InfoCall, infoRemoveKey, infoSetValueForKey, printWarning
Open obligations: none
-/
import Q3df.Library.Printf
import Q3df.Client.Q3User

namespace Q3df.Client

open Q3df.Printf

/-- The size of each buffer of `va`. -/
def Recordsystem.vaBuffer : Nat := 32000

/-- `va`. -/
def Recordsystem.va (fmt : CString) (args : List Arg) : Except Fault CString :=
  sprintf Recordsystem.vaBuffer fmt args

/-- What a call leaves: the info string, and the texts handed to
`RS_PrintWarning`. -/
structure InfoCall where
  infoString : CString
  warnings : List CString
deriving Repr, DecidableEq

mutual

/-- The key loop of `InfoRemoveKey`: the string before `start`, the characters
from `start` on that have been passed, and the characters copied to `pkey`. At
the end of the string nothing is removed. -/
def infoRemoveScanKey (key before passed pkey : CString) : CString → CString
  | [] => before ++ passed
  | c :: s =>
      if c = '\\' then infoRemoveScanValue key before (passed ++ [c]) pkey s
      else infoRemoveScanKey key before (passed ++ [c]) (pkey ++ [c]) s
termination_by structural s => s

/-- The value loop, with the comparison and the `memmove` that follow it. The
next round starts at the backslash, which it skips. -/
def infoRemoveScanValue (key before passed pkey : CString) : CString → CString
  | [] => if key = pkey then before else before ++ passed
  | c :: s =>
      if c = '\\' then
        if key = pkey then before ++ c :: s else infoRemoveScanKey key (before ++ passed) [c] [] s
      else infoRemoveScanValue key before (passed ++ [c]) pkey s
termination_by structural s => s

end

/-- `Utils::InfoRemoveKey`. -/
def infoRemoveKey (infoString key : CString) : InfoCall :=
  let warnings :=
    if infoString.length ≥ bigInfoString then
      ["Utils::InfoRemoveKey: oversize infostring\n".toList]
    else []
  let removed :=
    if '\\' ∈ key then infoString
    else
      match infoString with
      | [] => infoRemoveScanKey key [] [] [] []
      | c :: s =>
          if c = '\\' then infoRemoveScanKey key [] [c] [] s
          else infoRemoveScanKey key [] [] [] (c :: s)
  { infoString := removed, warnings := warnings }

/-- `blacklist`, the characters no key and no value may contain. -/
def infoBlacklist : CString := "\\;\"".toList

/-- `Utils::InfoSetValueForKey`. The pair is truncated to the size of `newi` and
put in front. -/
def infoSetValueForKey (infoString key value : CString) : InfoCall :=
  let warnings :=
    if infoString.length ≥ bigInfoString then
      ["Utils::InfoSetValueForKey: oversize infostring\n".toList]
    else []
  match infoBlacklist.find? fun c => key.contains c || value.contains c with
  | some c =>
      { infoString := infoString
        warnings := warnings ++ ["Utils::InfoSetValueForKey: Can't use keys or values with a '".toList ++
          [c] ++ "': ".toList ++ key ++ " = ".toList ++ value ++ "\n".toList] }
  | none =>
      let removed := infoRemoveKey infoString key
      if value = [] then { removed with warnings := warnings ++ removed.warnings }
      else
        let newi := ('\\' :: key ++ '\\' :: value).take (bigInfoString - 1)
        if newi.length + removed.infoString.length ≥ bigInfoString then
          { removed with
            warnings := warnings ++ removed.warnings ++
              ["Utils::InfoSetValueForKey: Info string length exceeded\n".toList] }
        else
          { infoString := newi ++ removed.infoString, warnings := warnings ++ removed.warnings }

/-- `RS_PrintWarning`: what is handed to the engine. A text that was made by
`va` itself takes less room there. -/
def printWarning (text : CString) : Except Fault CString :=
  Recordsystem.va "[Q3df:WARNING] %s".toList [.str text]

/-- A warning is printed if its text leaves room for the 15 characters in front
of it. -/
theorem printWarning_isOk_iff {text : CString} :
    (∃ printed, printWarning text = .ok printed) ↔ text.length + 15 < Recordsystem.vaBuffer := by
  have formatted : format "[Q3df:WARNING] %s".toList [.str text] =
      .ok ("[Q3df:WARNING] ".toList ++ (text ++ [])) :=
    @format_around "[Q3df:WARNING] ".toList [] text (by decide) (by decide)
  have length : ("[Q3df:WARNING] ".toList ++ (text ++ [])).length = text.length + 15 := by
    rw [List.append_nil, List.length_append, Nat.add_comm]
    rfl
  rw [printWarning, Recordsystem.va, sprintf_of_format formatted, length]
  split
  case isTrue fits => exact iff_of_true ⟨_, rfl⟩ fits
  case isFalse long =>
    apply iff_of_false _ long
    rintro ⟨printed, ⟨⟩⟩

example : (infoSetValueForKey "\\name\\nobody\\rate\\5000".toList "name".toList "x".toList).infoString =
    "\\name\\x\\rate\\5000".toList := by
  decide

end Q3df.Client
