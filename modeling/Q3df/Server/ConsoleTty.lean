/-
Module: Q3df.Server.ConsoleTty
Layer: Server
Purpose: The way of a text to the colour printer of the daemon's console: `va`, and the print functions,
  which format their message once more. `PrintInfo` formats a third time to put its label in front.
Imports: Mathlib.Data.List.TakeWhile, Q3df.Library.Printf, Q3df.Server.ClientList
Trusted boundary: human-reviewed transcription of server/ConsoleTty.cc (Print, PrintInfo),
  server/Console.cc (va) and va of server/RecordsystemDaemon.cc; the console is a terminal, so that the
  prompt is shown and the lock is released; the buffers are not shared with another thread meanwhile
Main exports: CString, cStr, formatBuffer, va, ConsoleTty.print, ConsoleTty.printInfo, cStr_eq_self_iff
Open obligations: none
-/
import Mathlib.Data.List.TakeWhile
import Q3df.Library.Printf
import Q3df.Server.ClientList

namespace Q3df.Server

open Q3df.Printf

/-- A C string without its terminator. -/
abbrev CString := List Char

/-- `c_str()` as its readers see it, up to the first terminator. -/
def cStr (s : StdString) : CString := s.takeWhile (· ≠ '\x00')

/-- The size of the buffers, `string[32000]`. -/
def formatBuffer : Nat := 32000

/-- `va`. -/
def va (fmt : CString) (args : List Arg) : Except Fault CString := sprintf formatBuffer fmt args

namespace ConsoleTty

/-- `Console::va`, with buffers of its own. -/
def va (fmt : CString) (args : List Arg) : Except Fault CString := sprintf formatBuffer fmt args

/-- `ConsoleTty::Print`: the texts handed to `AnsiColorPrint`. -/
def print (msg : CString) (args : List Arg) : Except Fault (List CString) :=
  if msg = [] then .ok []
  else do
    let string ← sprintf formatBuffer msg args
    return [string]

/-- `ConsoleTty::PrintInfo`. -/
def printInfo (msg : CString) (args : List Arg) : Except Fault (List CString) :=
  if msg = [] then .ok []
  else do
    let string ← sprintf formatBuffer msg args
    let text ← ConsoleTty.va "^7[^3Info ^7]: %s".toList [.str string]
    return [text]

end ConsoleTty

section CString

variable {s : StdString}

/-- The cut shows in the length. -/
theorem length_cStr_le : (cStr s).length ≤ s.length := (List.takeWhile_sublist _).length_le

/-- A C string has no terminator in it. -/
theorem terminator_notMem_cStr (text : StdString) : '\x00' ∉ cStr text := by
  intro inText
  have other := List.mem_takeWhile_imp inText
  simp at other

/-- A text is its own C string exactly if it has no NUL. -/
theorem cStr_eq_self_iff : cStr s = s ↔ '\x00' ∉ s := by
  rw [cStr, List.takeWhile_eq_self_iff]
  constructor
  · intro uncut nul
    have other := uncut '\x00' nul
    simp at other
  · intro clean c inText
    rw [decide_eq_true_iff]
    rintro rfl
    exact clean inText

/-- A text without terminator is read on over its end. -/
theorem cStr_append (clean : '\x00' ∉ s) (rest : StdString) : cStr (s ++ rest) = s ++ cStr rest := by
  have all := List.takeWhile_eq_self_iff.mp (cStr_eq_self_iff.mpr clean)
  rw [cStr, List.takeWhile_append_of_pos all, cStr]

theorem cStr_eq_self_of_length (long : s.length ≤ (cStr s).length) : cStr s = s :=
  (List.takeWhile_sublist _).eq_of_length_le long

end CString

end Q3df.Server
