/-
Module: Q3df.Client.TokenizerMemory
Layer: Client
Purpose: `SetNewSourceString` with its pointers: where it reads `cmd_cmd`, which bytes it writes to
  `cmd_tokenized`, and where the entries of `cmd_argv` point. The scanner stays in its buffers for
  exactly the sources that `strncpy` leaves terminated, and the strings it leaves are the tokens of
  the list model.
Imports: Q3df.Client.UserBuffers
Trusted boundary: human-reviewed transcription of client/StringTokenizer.h, where `char` is signed
Main exports: ScanPhase, Scan, Scan.step, Scan.Reaches, Scan.Sound, Scan.measure, StringsApart,
  StaysInBuffers, scan_agrees, staysInBuffers_iff
Open obligations: none
-/
import Q3df.Client.UserBuffers

namespace Q3df.Client

open Q3df.Transition

/-- The size of `cmd_tokenized`. -/
def cmdTokenizedSize : Nat := cmdCmdSize + maxStringTokens

/-- The loop the scanner is in. -/
inductive ScanPhase where
  | outer
  | blanks
  | comment
  | quoted
  | regular
  | returned
deriving DecidableEq

/-- The scanner: `text` as an offset into `cmd_cmd`, the bytes of
`cmd_tokenized` in front of `textOut`, and the entries of `cmd_argv` as offsets
into them. The reads of `cmd_cmd` are recorded. -/
structure Scan where
  phase : ScanPhase
  text : Nat
  cmdTokenized : List Char
  cmdArgv : List Nat
  reads : List Nat
deriving DecidableEq

namespace Scan

/-- In front of the outer loop. -/
def start : Scan := { phase := .outer, text := 0, cmdTokenized := [], cmdArgv := [], reads := [] }

def goto (s : Scan) (phase : ScanPhase) : Scan := { s with phase := phase }

def advance (s : Scan) (num : Nat) : Scan := { s with text := s.text + num }

def note (s : Scan) (offset : Nat) : Scan := { s with reads := (s.text + offset) :: s.reads }

/-- `text[offset]`; `none` for a read behind `cmd_cmd`. -/
def peek (s : Scan) (cmd : List Char) (offset : Nat) : Option (Char × Scan) :=
  (cmd[s.text + offset]?).map fun c => (c, s.note offset)

/-- `*textOut++ = c`; `none` for a write behind `cmd_tokenized`. -/
def put (s : Scan) (c : Char) : Option Scan :=
  if s.cmdTokenized.length < cmdTokenizedSize then
    some { s with cmdTokenized := s.cmdTokenized ++ [c] }
  else none

/-- `cmd_argv[cmd_argc] = textOut; cmd_argc++`; `none` for a write behind
`cmd_argv`. -/
def beginToken (s : Scan) : Option Scan :=
  if s.cmdArgv.length < maxStringTokens then
    some { s with cmdArgv := s.cmdArgv ++ [s.cmdTokenized.length] }
  else none

/-- The head of the outer loop. -/
def outer (s : Scan) : Option Scan :=
  some (if s.cmdArgv.length = maxStringTokens then s.goto .returned else s.goto .blanks)

/-- Behind the inner loop: a token starts with the character. -/
def ready (s : Scan) (ignoreQuotes : Bool) (c : Char) : Option Scan :=
  if ignoreQuotes = false ∧ c = '"' then s.beginToken.map fun s => (s.advance 1).goto .quoted
  else s.beginToken.map fun s => s.goto .regular

/-- One character of the inner loop. -/
def blanks (s : Scan) (cmd : List Char) (ignoreQuotes : Bool) : Option Scan := do
  let (c, s) ← s.peek cmd 0
  if c = nul then return s.goto .returned
  else if signedChar c ≤ 32 then return s.advance 1
  else if c = '/' then
    let (d, s) ← s.peek cmd 1
    if d = '/' then return s.goto .returned
    else if d = '*' then return s.goto .comment
    else s.ready ignoreQuotes c
  else s.ready ignoreQuotes c

/-- One character of a comment. -/
def comment (s : Scan) (cmd : List Char) : Option Scan := do
  let (c, s) ← s.peek cmd 0
  if c = nul then return s.goto .returned
  else if c = '*' then
    let (d, s) ← s.peek cmd 1
    if d = '/' then return (s.advance 2).goto .blanks
    else return s.advance 1
  else return s.advance 1

/-- One character of a quoted string, or its end. -/
def quoted (s : Scan) (cmd : List Char) : Option Scan := do
  let (c, s) ← s.peek cmd 0
  if c = nul then (s.put nul).map fun s => s.goto .returned
  else if c = '"' then (s.put nul).map fun s => (s.advance 1).goto .outer
  else (s.put c).map fun s => s.advance 1

/-- One character of a regular token, or its end. -/
def regular (s : Scan) (cmd : List Char) (ignoreQuotes : Bool) : Option Scan := do
  let (c, s) ← s.peek cmd 0
  if c = nul then (s.put nul).map fun s => s.goto .returned
  else if signedChar c ≤ 32 then (s.put nul).map fun s => s.goto .outer
  else if ignoreQuotes = false ∧ c = '"' then (s.put nul).map fun s => s.goto .outer
  else if c = '/' then
    let (d, s) ← s.peek cmd 1
    if d = '/' ∨ d = '*' then (s.put nul).map fun s => s.goto .outer
    else (s.put c).map fun s => s.advance 1
  else (s.put c).map fun s => s.advance 1

/-- One round of the loop the scanner is in; `none` where it reads or writes behind an array. -/
def step (cmd : List Char) (ignoreQuotes : Bool) (s : Scan) : Option Scan :=
  match s.phase with
  | .outer => s.outer
  | .blanks => s.blanks cmd ignoreQuotes
  | .comment => s.comment cmd
  | .quoted => s.quoted cmd
  | .regular => s.regular cmd ignoreQuotes
  | .returned => some s

/-- The scanner gets from one state to the other. -/
def Reaches (cmd : List Char) (ignoreQuotes : Bool) : Scan → Scan → Prop :=
  Relation.ReflTransGen fun s t => s.step cmd ignoreQuotes = some t

end Scan

/-- The offset is in the text or at its terminator, and inside the buffer. -/
def InText (cmd : List Char) (i : Nat) : Prop := i < cmd.length ∧ nul ∉ cmd.take i

/-- The offsets are where terminated strings stand in the buffer, each one behind the terminator of those
before it. -/
structure StringsApart (buffer : List Char) (offsets : List Nat) (texts : List CString) : Prop where
  length : offsets.length = texts.length
  holds : ∀ (i offset : Nat) (text : CString), offsets[i]? = some offset → texts[i]? = some text →
    nul ∉ text ∧ (text ++ [nul]) <+: buffer.drop offset
  apart : ∀ (i j offset offset' : Nat) (text : CString), i < j → offsets[i]? = some offset →
    texts[i]? = some text → offsets[j]? = some offset' → offset + text.length < offset'

/-- `SetNewSourceString` returns; the copy of the source is terminated and read no further than to its
terminator; what it writes fits the other arrays; and the tokens are strings of their own in the second. -/
def StaysInBuffers (src : CString) (ignoreQuotes : Bool) : Prop :=
  let cmd := strncpy src cmdCmdSize
  nul ∈ cmd ∧ ∃ s texts, Scan.Reaches cmd ignoreQuotes .start s ∧ s.phase = .returned ∧
    (∀ i ∈ s.reads, InText cmd i) ∧ s.cmdTokenized.length ≤ cmdTokenizedSize ∧
    s.cmdArgv.length ≤ maxStringTokens ∧ StringsApart s.cmdTokenized s.cmdArgv texts

/-!
### Where the tokens are

The tokens lie in `cmd_tokenized` one behind the other, each with a terminator, and `cmd_argv`
holds their offsets.
-/

/-- The bytes of the tokens, one after the other. -/
def tokenBytes (tokens : List CString) : List Char := tokens.flatMap fun token => token ++ [nul]

/-- Where they start. -/
def tokenOffsets (tokens : List CString) : List Nat :=
  (List.range tokens.length).map fun i => (tokenBytes (tokens.take i)).length

section Layout

variable {tokens : List CString} {token : CString}

theorem tokenBytes_append (tokens later : List CString) :
    tokenBytes (tokens ++ later) = tokenBytes tokens ++ tokenBytes later := List.flatMap_append

/-- One more token stands behind the others, with its terminator. -/
theorem tokenBytes_concat (tokens : List CString) (token : CString) :
    tokenBytes (tokens ++ [token]) = tokenBytes tokens ++ token ++ [nul] := by
  rw [tokenBytes_append, List.append_assoc]
  apply congrArg
  exact List.append_nil _

theorem length_tokenOffsets (tokens : List CString) : (tokenOffsets tokens).length = tokens.length := by
  rw [tokenOffsets, List.length_map, List.length_range]

/-- One more token starts where the others end. -/
theorem tokenOffsets_concat (tokens : List CString) (token : CString) :
    tokenOffsets (tokens ++ [token]) = tokenOffsets tokens ++ [(tokenBytes tokens).length] := by
  have earlier (i : Nat) (listed : i ∈ List.range tokens.length) :
      (tokenBytes ((tokens ++ [token]).take i)).length = (tokenBytes (tokens.take i)).length := by
    rw [List.take_append_of_le_length (Nat.le_of_lt (List.mem_range.mp listed))]
  rw [tokenOffsets, List.length_append, List.length_singleton, List.range_succ, List.map_append,
    List.map_congr_left earlier, tokenOffsets, List.map_singleton, List.take_left' rfl]

/-- The offset of a token is the length of what stands before it. -/
theorem getElem?_tokenOffsets {i offset : Nat} (listed : (tokenOffsets tokens)[i]? = some offset) :
    i < tokens.length ∧ offset = (tokenBytes (tokens.take i)).length := by
  rw [tokenOffsets, List.getElem?_map, Option.map_eq_some_iff] at listed
  obtain ⟨j, ranged, rfl⟩ := listed
  obtain ⟨bound, rfl⟩ := List.getElem?_eq_some_iff.mp ranged
  rw [List.length_range] at bound
  rw [List.getElem_range]
  exact ⟨bound, rfl⟩

/-- What is in front of a token, the token, and what is behind it. -/
theorem split_at_token {i : Nat} (listed : tokens[i]? = some token) :
    tokens = tokens.take i ++ token :: tokens.drop (i + 1) := by
  obtain ⟨bound, rfl⟩ := List.getElem?_eq_some_iff.mp listed
  rw [← List.drop_eq_getElem_cons bound, List.take_append_drop]

/-- Tokens that are written one after the other stand apart. -/
theorem stringsApart_tokenBytes (clean : ∀ token ∈ tokens, nul ∉ token) :
    StringsApart (tokenBytes tokens) (tokenOffsets tokens) tokens := by
  refine ⟨length_tokenOffsets tokens, ?_, ?_⟩
  · intro i offset token place listed
    obtain ⟨-, rfl⟩ := getElem?_tokenOffsets place
    refine ⟨clean token (List.mem_of_getElem? listed), tokenBytes (tokens.drop (i + 1)), ?_⟩
    have bytes : tokenBytes tokens = tokenBytes (tokens.take i) ++
        (token ++ [nul] ++ tokenBytes (tokens.drop (i + 1))) := by
      conv_lhs => rw [split_at_token listed, tokenBytes_append]
      rfl
    rw [bytes, List.drop_left' rfl]
  · intro i j offset offset' token earlier place listed place'
    obtain ⟨-, rfl⟩ := getElem?_tokenOffsets place
    obtain ⟨-, rfl⟩ := getElem?_tokenOffsets place'
    -- the later token starts behind all of those in front of it
    have upTo : (tokens.take j).take (i + 1) = tokens.take i ++ [token] := by
      rw [List.take_take, Nat.min_eq_left earlier, List.take_add_one, listed]
      rfl
    have bytes := congrArg List.length (tokenBytes_append (tokens.take i ++ [token])
      ((tokens.take j).drop (i + 1)))
    rw [← upTo, List.take_append_drop, upTo, tokenBytes_concat] at bytes
    simp only [List.length_append, List.length_singleton] at bytes
    omega

end Layout

/-!
### The list model along the scan

The functions on lists, cut where the scanner's loop goes round, so that each round has an
equation of its own.
-/

section Continuation

variable (ignoreQuotes : Bool) (room : Nat) (argv : List CString) (current : CString)

/-- What the list model goes on with behind a quoted string, of which `current` has been copied before. -/
def afterQuoted : Option (CString × Option (List Char)) → Option (List CString)
  | none => none
  | some (token, none) => some (argv ++ [current ++ token])
  | some (token, some text) => tokenize ignoreQuotes room (argv ++ [current ++ token]) text

/-- The same behind a regular token. -/
def afterRegular : Option (CString × List Char) → Option (List CString)
  | none => none
  | some (token, text) =>
      if text.head? = some nul then some (argv ++ [current ++ token])
      else tokenize ignoreQuotes room (argv ++ [current ++ token]) text

/-- The same behind the inner loop. -/
def afterBlanks : Option TokenStart → Option (List CString)
  | none => none
  | some .parsed => some argv
  | some (.ready text) =>
      if ignoreQuotes = false ∧ text.head? = some '"' then
        afterQuoted ignoreQuotes room argv [] (copyQuoted text.tail)
      else afterRegular ignoreQuotes room argv [] (copyRegular ignoreQuotes text)

/-- A round of the outer loop skips the blanks and takes one token. -/
theorem tokenize_succ (text : List Char) : tokenize ignoreQuotes (room + 1) argv text =
    afterBlanks ignoreQuotes room argv (skipBlanks text) := by
  rw [tokenize]
  cases skipBlanks text with
  | none => rfl
  | some start =>
      cases start with
      | parsed => rfl
      | ready text =>
          dsimp only [afterBlanks]
          split
          · cases copyQuoted text.tail with
            | none => rfl
            | some copied => rcases copied with ⟨token, _ | rest⟩ <;> rfl
          · cases copyRegular ignoreQuotes text with
            | none => rfl
            | some copied => rfl

theorem afterQuoted_cons (c : Char) (copied : Option (CString × Option (List Char))) :
    afterQuoted ignoreQuotes room argv current (copied.map fun copied => (c :: copied.1, copied.2)) =
      afterQuoted ignoreQuotes room argv (current ++ [c]) copied := by
  have together (token : CString) : current ++ [c] ++ token = current ++ c :: token := by simp
  rcases copied with _ | ⟨token, _ | rest⟩
  · rfl
  all_goals
    rw [Option.map_some, afterQuoted, afterQuoted, together]

theorem afterRegular_cons (c : Char) (copied : Option (CString × List Char)) :
    afterRegular ignoreQuotes room argv current (copied.map fun copied => (c :: copied.1, copied.2)) =
      afterRegular ignoreQuotes room argv (current ++ [c]) copied := by
  have together (token : CString) : current ++ [c] ++ token = current ++ c :: token := by simp
  rcases copied with _ | ⟨token, rest⟩
  · rfl
  · rw [Option.map_some, afterRegular, afterRegular, together]

end Continuation

/-- Where the scanner is between the tokens it has written and the text it has
not read, seen from the list model, which makes `result` of it all. -/
inductive Parses (ignoreQuotes : Bool) (result tokens : List CString) (argv : List Nat) :
    ScanPhase → CString → List Char → Prop where
  | outer {room : Nat} {rest : List Char} (offsets : argv = tokenOffsets tokens)
      (free : tokens.length + room = maxStringTokens)
      (parses : tokenize ignoreQuotes room tokens rest = some result) :
      Parses ignoreQuotes result tokens argv .outer [] rest
  | blanks {room : Nat} {rest : List Char} (offsets : argv = tokenOffsets tokens)
      (free : tokens.length + (room + 1) = maxStringTokens)
      (parses : afterBlanks ignoreQuotes room tokens (skipBlanks rest) = some result) :
      Parses ignoreQuotes result tokens argv .blanks [] rest
  | comment {room : Nat} {rest : List Char} (offsets : argv = tokenOffsets tokens)
      (free : tokens.length + (room + 1) = maxStringTokens)
      (parses : afterBlanks ignoreQuotes room tokens (skipComment rest) = some result) :
      Parses ignoreQuotes result tokens argv .comment [] rest
  | quoted {room : Nat} {current : CString} {rest : List Char}
      (offsets : argv = tokenOffsets (tokens ++ [current]))
      (free : tokens.length + (room + 1) = maxStringTokens)
      (parses : afterQuoted ignoreQuotes room tokens current (copyQuoted rest) = some result) :
      Parses ignoreQuotes result tokens argv .quoted current rest
  | regular {room : Nat} {current : CString} {rest : List Char}
      (offsets : argv = tokenOffsets (tokens ++ [current]))
      (free : tokens.length + (room + 1) = maxStringTokens)
      (parses : afterRegular ignoreQuotes room tokens current (copyRegular ignoreQuotes rest) =
        some result) :
      Parses ignoreQuotes result tokens argv .regular current rest
  | returned {rest : List Char} (offsets : argv = tokenOffsets tokens)
      (bounded : tokens.length ≤ maxStringTokens) (parsed : tokens = result) :
      Parses ignoreQuotes result tokens argv .returned [] rest

/-- `text` points to `rest`, in front of the terminator or at it. -/
structure InFrontOf (cmd : List Char) (text : Nat) (rest : List Char) : Prop where
  here : cmd.drop text = rest
  terminated : nul ∈ rest
  clean : nul ∉ cmd.take text

/-- The bytes of the tokens and of the one that is being copied; there is a byte
of the text for each of them, but for the terminators. -/
structure HasWritten (bytes : List Char) (text : Nat) (tokens : List CString) (current : CString) :
    Prop where
  laidOut : bytes = tokenBytes tokens ++ current
  clean : ∀ token ∈ tokens, nul ∉ token
  current : nul ∉ current
  room : bytes.length ≤ text + tokens.length

/-- The invariant of the scan. -/
def Scan.Sound (cmd : List Char) (ignoreQuotes : Bool) (result : List CString) (s : Scan) : Prop :=
  ∃ rest tokens current, InFrontOf cmd s.text rest ∧ (∀ i ∈ s.reads, InText cmd i) ∧
    HasWritten s.cmdTokenized s.text tokens current ∧
    Parses ignoreQuotes result tokens s.cmdArgv s.phase current rest

/-!
### One round

One lemma for each phase: the scanner moves on by one character or changes the
phase, the reads stay in the text, and the rest of the list model's result is
still to come.
-/

namespace Scan

def rank : ScanPhase → Nat
  | .returned => 0
  | .comment => 1
  | .blanks => 2
  | .outer => 3
  | .quoted | .regular => 4

/-- A round takes a character, or begins a token, or gets to a loop that does
one of these. -/
def measure (cmd : List Char) (s : Scan) : Nat :=
  5 * (cmd.length - s.text) + 5 * (maxStringTokens - s.cmdArgv.length) + rank s.phase

/-- The round is made, keeps the invariant, and is one of finitely many. -/
def Goes (cmd : List Char) (ignoreQuotes : Bool) (result : List CString) (s : Scan)
    (next : Option Scan) : Prop :=
  ∃ t, next = some t ∧ t.Sound cmd ignoreQuotes result ∧ t.measure cmd < s.measure cmd

end Scan

section Rounds

variable {cmd : List Char} {ignoreQuotes : Bool} {result tokens : List CString} {s : Scan}
  {text : Nat} {c d : Char} {rest : List Char} {current : CString} {room : Nat}

theorem InFrontOf.lt_length (front : InFrontOf cmd text rest) : text < cmd.length := by
  by_contra behind
  have nothing := front.here
  rw [List.drop_of_length_le (Nat.le_of_not_lt behind)] at nothing
  have terminated := front.terminated
  rw [← nothing] at terminated
  cases terminated

theorem InFrontOf.inText (front : InFrontOf cmd text rest) : InText cmd text :=
  ⟨front.lt_length, front.clean⟩

/-- One character on, the text in front is shorter by this character. -/
theorem InFrontOf.next (front : InFrontOf cmd text (c :: rest)) (notNul : c ≠ nul) :
    InFrontOf cmd (text + 1) rest := by
  have here : cmd[text]? = some c := by
    rw [← List.head?_drop, front.here]
    rfl
  refine ⟨?_, (List.mem_cons.mp front.terminated).resolve_left (Ne.symm notNul), ?_⟩
  · rw [← List.tail_drop, front.here]
    rfl
  · rw [List.take_add_one, here]
    intro found
    rcases List.mem_append.mp found with before | last
    · exact front.clean before
    · exact notNul (List.mem_singleton.mp last).symm

/-- The character under the pointer is the first one in front. -/
theorem peek_head (front : InFrontOf cmd s.text (c :: rest)) : s.peek cmd 0 = some (c, s.note 0) := by
  rw [Scan.peek, Nat.add_zero, ← List.head?_drop, front.here]
  rfl

/-- The character behind it is the second one, if the first is no terminator. -/
theorem peek_next (front : InFrontOf cmd s.text (c :: d :: rest)) (notNul : c ≠ nul) :
    (s.note 0).peek cmd 1 = some (d, (s.note 0).note 1) := by
  have following : cmd[(s.note 0).text + 1]? = some d := by
    rw [← List.head?_drop]
    exact congrArg List.head? (front.next notNul).here
  rw [Scan.peek, following]
  rfl

theorem reads_head (front : InFrontOf cmd s.text rest) (reads : ∀ i ∈ s.reads, InText cmd i) :
    ∀ i ∈ (s.note 0).reads, InText cmd i := by
  intro i listed
  rcases List.mem_cons.mp listed with rfl | earlier
  · exact front.inText
  · exact reads i earlier

theorem reads_next (front : InFrontOf cmd s.text (c :: rest)) (notNul : c ≠ nul)
    (reads : ∀ i ∈ s.reads, InText cmd i) : ∀ i ∈ ((s.note 0).note 1).reads, InText cmd i := by
  intro i listed
  rcases List.mem_cons.mp listed with rfl | earlier
  · exact (front.next notNul).inText
  · exact reads_head front reads i earlier

theorem HasWritten.advance {bytes : List Char} (written : HasWritten bytes text tokens current)
    (num : Nat) : HasWritten bytes (text + num) tokens current :=
  ⟨written.laidOut, written.clean, written.current, by have room := written.room; omega⟩

/-- A character of the token is copied. -/
theorem HasWritten.copy {bytes : List Char} (written : HasWritten bytes text tokens current)
    (notNul : c ≠ nul) : HasWritten (bytes ++ [c]) (text + 1) tokens (current ++ [c]) := by
  refine ⟨?_, written.clean, ?_, ?_⟩
  · rw [written.laidOut, List.append_assoc]
  · intro found
    rcases List.mem_append.mp found with before | last
    · exact written.current before
    · exact notNul (List.mem_singleton.mp last).symm
  · have room := written.room
    rw [List.length_append, List.length_singleton]
    omega

/-- The token is terminated. -/
theorem HasWritten.close {bytes : List Char} (written : HasWritten bytes text tokens current) :
    HasWritten (bytes ++ [nul]) text (tokens ++ [current]) [] := by
  refine ⟨?_, ?_, List.not_mem_nil, ?_⟩
  · rw [written.laidOut, tokenBytes_concat, List.append_nil]
  · intro token listed
    rcases List.mem_append.mp listed with before | last
    · exact written.clean token before
    · rw [List.mem_singleton.mp last]
      exact written.current
  · have room := written.room
    rw [List.length_append, List.length_append, List.length_singleton, List.length_singleton]
    omega

theorem rank_le (phase : ScanPhase) : Scan.rank phase ≤ 4 := by cases phase <;> decide

/-- A character that has been passed outweighs the loop. -/
theorem measure_lt {t : Scan} (passed : s.text < t.text) (inside : s.text < cmd.length)
    (argc : s.cmdArgv.length ≤ t.cmdArgv.length) : t.measure cmd < s.measure cmd := by
  have rank := rank_le t.phase
  simp only [Scan.measure]
  omega

/-- The scanner passes a character and stays in its loop. -/
theorem advance_goes (front : InFrontOf cmd s.text (c :: rest)) (notNul : c ≠ nul)
    (reads : ∀ i ∈ s.reads, InText cmd i) (written : HasWritten s.cmdTokenized s.text tokens current)
    (parses : Parses ignoreQuotes result tokens s.cmdArgv s.phase current rest) :
    s.Goes cmd ignoreQuotes result (some (s.advance 1)) := by
  refine ⟨_, rfl, ⟨rest, tokens, current, front.next notNul, reads, written.advance 1, parses⟩, ?_⟩
  exact measure_lt (Nat.lt_succ_self _) front.lt_length (Nat.le_refl _)

/-- The scanner returns with the tokens it has. -/
theorem returns_goes (phase : s.phase ≠ .returned) (front : InFrontOf cmd s.text rest)
    (reads : ∀ i ∈ s.reads, InText cmd i) (written : HasWritten s.cmdTokenized s.text tokens [])
    (offsets : s.cmdArgv = tokenOffsets tokens) (bounded : tokens.length ≤ maxStringTokens)
    (parsed : tokens = result) : s.Goes cmd ignoreQuotes result (some (s.goto .returned)) := by
  refine ⟨_, rfl, ⟨rest, tokens, [], front, reads, written, .returned offsets bounded parsed⟩, ?_⟩
  have positive : 0 < Scan.rank s.phase := by
    cases kind : s.phase
    case returned => exact absurd kind phase
    all_goals decide
  have none_ : Scan.rank .returned = 0 := rfl
  simp only [Scan.measure, Scan.goto]
  omega

/-- At the first character behind the blanks a token begins, quoted or bare. -/
theorem ready_goes (phase : s.phase = .blanks) (front : InFrontOf cmd s.text (c :: rest))
    (reads : ∀ i ∈ s.reads, InText cmd i) (written : HasWritten s.cmdTokenized s.text tokens [])
    (offsets : s.cmdArgv = tokenOffsets tokens) (free : tokens.length + (room + 1) = maxStringTokens)
    (notNul : c ≠ nul)
    (parses : afterBlanks ignoreQuotes room tokens (some (.ready (c :: rest))) = some result) :
    s.Goes cmd ignoreQuotes result (s.ready ignoreQuotes c) := by
  have argc : s.cmdArgv.length = tokens.length := by rw [offsets, length_tokenOffsets]
  have begun : s.beginToken = some { s with cmdArgv := tokenOffsets (tokens ++ [[]]) } := by
    rw [Scan.beginToken, if_pos (by omega), tokenOffsets_concat, ← offsets, written.laidOut,
      List.append_nil]
  have argc' : (tokenOffsets (tokens ++ [[]])).length = tokens.length + 1 := by
    rw [length_tokenOffsets, List.length_append, List.length_singleton]
  have inside := front.lt_length
  by_cases quote : ignoreQuotes = false ∧ c = '"'
  · rw [afterBlanks, if_pos ⟨quote.1, congrArg some quote.2⟩] at parses
    rw [Scan.ready, if_pos quote, begun]
    refine ⟨_, rfl, ⟨rest, tokens, [], front.next notNul, reads, written.advance 1,
      .quoted rfl free parses⟩, ?_⟩
    simp only [Scan.measure, Scan.goto, Scan.advance, Scan.rank, argc, argc', phase]
    omega
  · have noQuote : ¬ (ignoreQuotes = false ∧ (c :: rest).head? = some '"') := by
      rintro ⟨quotes, same⟩
      exact quote ⟨quotes, Option.some.inj same⟩
    rw [afterBlanks, if_neg noQuote] at parses
    rw [Scan.ready, if_neg quote, begun]
    refine ⟨_, rfl, ⟨c :: rest, tokens, [], front, reads, written, .regular rfl free parses⟩, ?_⟩
    simp only [Scan.measure, Scan.goto, Scan.rank, argc, argc', phase]
    omega

/-- A slash in front of a token, with the character behind it read: a comment,
or a token that starts with the slash. -/
theorem slash_goes (phase : s.phase = .blanks) (front : InFrontOf cmd s.text ('/' :: d :: rest))
    (reads : ∀ i ∈ s.reads, InText cmd i) (written : HasWritten s.cmdTokenized s.text tokens [])
    (offsets : s.cmdArgv = tokenOffsets tokens) (free : tokens.length + (room + 1) = maxStringTokens)
    (parses : afterBlanks ignoreQuotes room tokens (skipBlanks ('/' :: d :: rest)) = some result) :
    s.Goes cmd ignoreQuotes result
      (if d = '/' then some (s.goto .returned)
      else if d = '*' then some (s.goto .comment)
      else s.ready ignoreQuotes '/') := by
  have running : s.phase ≠ .returned := by
    rw [phase]
    decide
  rw [skipBlanks, if_neg (by decide), if_neg (by decide), List.head?_cons] at parses
  by_cases line : d = '/'
  · rw [if_pos ⟨rfl, congrArg some line⟩] at parses
    rw [if_pos line]
    exact returns_goes running front reads written offsets (by omega) (Option.some.inj parses)
  rw [if_neg (fun both => line (Option.some.inj both.2))] at parses
  rw [if_neg line]
  by_cases star : d = '*'
  · rw [if_pos ⟨rfl, congrArg some star⟩] at parses
    rw [if_pos star]
    have toStar : skipComment ('/' :: d :: rest) = skipComment (d :: rest) := by
      rw [skipComment, if_neg (by decide), if_neg (fun both => absurd both.1 (by decide))]
    refine ⟨_, rfl, ⟨_, tokens, [], front, reads, written,
      .comment offsets free (by rwa [toStar])⟩, ?_⟩
    simp only [Scan.measure, Scan.goto, Scan.rank, phase]
    omega
  · rw [if_neg (fun both => star (Option.some.inj both.2))] at parses
    rw [if_neg star]
    exact ready_goes phase front reads written offsets free (by decide) parses

/-- A blank is skipped; anything else ends the phase. -/
theorem blanks_goes (phase : s.phase = .blanks) (front : InFrontOf cmd s.text rest)
    (reads : ∀ i ∈ s.reads, InText cmd i) (written : HasWritten s.cmdTokenized s.text tokens [])
    (offsets : s.cmdArgv = tokenOffsets tokens) (free : tokens.length + (room + 1) = maxStringTokens)
    (parses : afterBlanks ignoreQuotes room tokens (skipBlanks rest) = some result) :
    s.Goes cmd ignoreQuotes result (s.blanks cmd ignoreQuotes) := by
  cases rest with
  | nil => cases front.terminated
  | cons c rest =>
      have readsHead := reads_head front reads
      rw [Scan.blanks, peek_head front]
      dsimp only [Option.bind_eq_bind, Option.bind_some]
      by_cases ends : c = nul
      · have running : s.phase ≠ .returned := by
          rw [phase]
          decide
        rw [skipBlanks, if_pos ends] at parses
        rw [if_pos ends]
        have returns : (s.note 0).Goes cmd ignoreQuotes result _ :=
          returns_goes running front readsHead written offsets (by omega) (Option.some.inj parses)
        exact returns
      rw [if_neg ends]
      by_cases blank : signedChar c ≤ 32
      · rw [skipBlanks, if_neg ends, if_pos blank] at parses
        rw [if_pos blank]
        have stays : Parses ignoreQuotes result tokens s.cmdArgv s.phase [] rest := by
          rw [phase]
          exact .blanks offsets free parses
        have passes : (s.note 0).Goes cmd ignoreQuotes result _ :=
          advance_goes front ends readsHead written stays
        exact passes
      rw [if_neg blank]
      by_cases slash : c = '/'
      · subst slash
        rw [if_pos rfl]
        cases rest with
        | nil => exact absurd ((front.next ends).terminated) List.not_mem_nil
        | cons d rest =>
            rw [peek_next front ends]
            have goes : ((s.note 0).note 1).Goes cmd ignoreQuotes result _ :=
              slash_goes phase front (reads_next front ends reads) written offsets free parses
            exact goes
      · rw [skipBlanks, if_neg ends, if_neg blank, if_neg (fun both => slash both.1),
          if_neg (fun both => slash both.1)] at parses
        rw [if_neg slash]
        have begins : (s.note 0).Goes cmd ignoreQuotes result _ :=
          ready_goes phase front readsHead written offsets free ends parses
        exact begins

/-- A block comment is skipped up to its end. -/
theorem comment_goes (phase : s.phase = .comment) (front : InFrontOf cmd s.text rest)
    (reads : ∀ i ∈ s.reads, InText cmd i) (written : HasWritten s.cmdTokenized s.text tokens [])
    (offsets : s.cmdArgv = tokenOffsets tokens) (free : tokens.length + (room + 1) = maxStringTokens)
    (parses : afterBlanks ignoreQuotes room tokens (skipComment rest) = some result) :
    s.Goes cmd ignoreQuotes result (s.comment cmd) := by
  have inside := front.lt_length
  have running : s.phase ≠ .returned := by
    rw [phase]
    decide
  cases rest with
  | nil => cases front.terminated
  | cons c rest =>
      have readsHead := reads_head front reads
      rw [Scan.comment, peek_head front]
      dsimp only [Option.bind_eq_bind, Option.bind_some]
      by_cases ends : c = nul
      · have parsed : skipComment (c :: rest) = some .parsed := by
          cases rest <;> rw [skipComment, if_pos ends]
        rw [parsed] at parses
        rw [if_pos ends]
        have returns : (s.note 0).Goes cmd ignoreQuotes result _ :=
          returns_goes running front readsHead written offsets (by omega) (Option.some.inj parses)
        exact returns
      rw [if_neg ends]
      cases rest with
      | nil => exact absurd ((front.next ends).terminated) List.not_mem_nil
      | cons d rest =>
          have readsNext := reads_next front ends reads
          have stays (behind : skipComment (c :: d :: rest) = skipComment (d :: rest)) :
              Parses ignoreQuotes result tokens s.cmdArgv s.phase [] (d :: rest) := by
            rw [behind] at parses
            rw [phase]
            exact .comment offsets free parses
          by_cases star : c = '*'
          · rw [if_pos star, peek_next front ends]
            dsimp only [Option.bind_some]
            by_cases closes : d = '/'
            · rw [skipComment, if_neg ends, if_pos ⟨star, closes⟩] at parses
              rw [if_pos closes]
              have notNul : d ≠ nul := by
                rw [closes]
                decide
              refine ⟨_, rfl, ⟨rest, tokens, [], (front.next ends).next notNul, readsNext,
                written.advance 2, .blanks offsets free parses⟩, ?_⟩
              exact measure_lt (Nat.lt_add_of_pos_right (by decide)) inside (Nat.le_refl _)
            · rw [if_neg closes]
              have behind : skipComment (c :: d :: rest) = skipComment (d :: rest) := by
                rw [skipComment, if_neg ends, if_neg (fun both => closes both.2)]
              have passes : ((s.note 0).note 1).Goes cmd ignoreQuotes result _ :=
                advance_goes front ends readsNext written (stays behind)
              exact passes
          · rw [if_neg star]
            have behind : skipComment (c :: d :: rest) = skipComment (d :: rest) := by
              rw [skipComment, if_neg ends, if_neg (fun both => star both.1)]
            have passes : (s.note 0).Goes cmd ignoreQuotes result _ :=
              advance_goes front ends readsHead written (stays behind)
            exact passes

/-- `put` finds room: there are fewer tokens than entries, and a byte of the
text for each byte in front. -/
theorem put_eq {c : Char} (size : cmd.length = cmdCmdSize) (front : InFrontOf cmd s.text rest)
    (written : HasWritten s.cmdTokenized s.text tokens current)
    (free : tokens.length + (room + 1) = maxStringTokens) :
    s.put c = some { s with cmdTokenized := s.cmdTokenized ++ [c] } := by
  have inside := front.lt_length
  have bound := written.room
  exact if_pos (by rw [cmdTokenizedSize]; omega)

/-- A character of a token is copied. -/
theorem copy_goes (size : cmd.length = cmdCmdSize) (front : InFrontOf cmd s.text (c :: rest))
    (notNul : c ≠ nul) (reads : ∀ i ∈ s.reads, InText cmd i)
    (written : HasWritten s.cmdTokenized s.text tokens current)
    (free : tokens.length + (room + 1) = maxStringTokens)
    (parses : Parses ignoreQuotes result tokens s.cmdArgv s.phase (current ++ [c]) rest) :
    s.Goes cmd ignoreQuotes result ((s.put c).map fun s => s.advance 1) := by
  rw [put_eq size front written free]
  refine ⟨_, rfl, ⟨rest, tokens, current ++ [c], front.next notNul, reads, written.copy notNul,
    parses⟩, ?_⟩
  exact measure_lt (Nat.lt_succ_self _) front.lt_length (Nat.le_refl _)

/-- The token is terminated, and the scanner returns. -/
theorem close_returns_goes (size : cmd.length = cmdCmdSize) (front : InFrontOf cmd s.text rest)
    (phase : s.phase = .quoted ∨ s.phase = .regular) (reads : ∀ i ∈ s.reads, InText cmd i)
    (written : HasWritten s.cmdTokenized s.text tokens current)
    (offsets : s.cmdArgv = tokenOffsets (tokens ++ [current]))
    (free : tokens.length + (room + 1) = maxStringTokens) (parsed : tokens ++ [current] = result) :
    s.Goes cmd ignoreQuotes result ((s.put nul).map fun s => s.goto .returned) := by
  have bounded : (tokens ++ [current]).length ≤ maxStringTokens := by
    rw [List.length_append, List.length_singleton]
    omega
  rw [put_eq size front written free]
  refine ⟨_, rfl, ⟨rest, tokens ++ [current], [], front, reads, written.close,
    .returned offsets bounded parsed⟩, ?_⟩
  rcases phase with phase | phase <;>
    simp only [Scan.measure, Scan.goto, Scan.rank, phase] <;> omega

/-- The token is terminated, and the outer loop goes on behind `num` more
characters. -/
theorem close_goes {behind : List Char} {num : Nat} (size : cmd.length = cmdCmdSize)
    (front : InFrontOf cmd s.text rest) (ahead : InFrontOf cmd (s.text + num) behind)
    (phase : s.phase = .quoted ∨ s.phase = .regular) (reads : ∀ i ∈ s.reads, InText cmd i)
    (written : HasWritten s.cmdTokenized s.text tokens current)
    (offsets : s.cmdArgv = tokenOffsets (tokens ++ [current]))
    (free : tokens.length + (room + 1) = maxStringTokens)
    (parses : tokenize ignoreQuotes room (tokens ++ [current]) behind = some result) :
    s.Goes cmd ignoreQuotes result ((s.put nul).map fun s => (s.advance num).goto .outer) := by
  have bounded : (tokens ++ [current]).length + room = maxStringTokens := by
    rw [List.length_append, List.length_singleton]
    omega
  rw [put_eq size front written free]
  refine ⟨_, rfl, ⟨behind, tokens ++ [current], [], ahead, reads, written.close.advance num,
    .outer offsets bounded parses⟩, ?_⟩
  rcases phase with phase | phase <;>
    simp only [Scan.measure, Scan.goto, Scan.advance, Scan.rank, phase] <;> omega

/-- A quoted token takes the character, or ends at the quote or the terminator. -/
theorem quoted_goes (size : cmd.length = cmdCmdSize) (phase : s.phase = .quoted)
    (front : InFrontOf cmd s.text rest) (reads : ∀ i ∈ s.reads, InText cmd i)
    (written : HasWritten s.cmdTokenized s.text tokens current)
    (offsets : s.cmdArgv = tokenOffsets (tokens ++ [current]))
    (free : tokens.length + (room + 1) = maxStringTokens)
    (parses : afterQuoted ignoreQuotes room tokens current (copyQuoted rest) = some result) :
    s.Goes cmd ignoreQuotes result (s.quoted cmd) := by
  cases rest with
  | nil => cases front.terminated
  | cons c rest =>
      have readsHead := reads_head front reads
      rw [Scan.quoted, peek_head front]
      rw [copyQuoted] at parses
      dsimp only [Option.bind_eq_bind, Option.bind_some]
      by_cases ends : c = nul
      · rw [if_pos ends, afterQuoted, List.append_nil] at parses
        rw [if_pos ends]
        have returns : (s.note 0).Goes cmd ignoreQuotes result _ :=
          close_returns_goes size front (.inl phase) readsHead written offsets free
            (Option.some.inj parses)
        exact returns
      rw [if_neg ends] at parses ⊢
      by_cases quote : c = '"'
      · rw [if_pos quote, afterQuoted, List.append_nil] at parses
        rw [if_pos quote]
        have closes : (s.note 0).Goes cmd ignoreQuotes result _ :=
          close_goes size front (front.next ends) (.inl phase) readsHead written offsets free parses
        exact closes
      · rw [if_neg quote, afterQuoted_cons] at parses
        rw [if_neg quote]
        have longer : Parses ignoreQuotes result tokens s.cmdArgv s.phase (current ++ [c]) rest := by
          rw [phase]
          refine .quoted ?_ free parses
          rw [offsets, tokenOffsets_concat, tokenOffsets_concat]
        have copies : (s.note 0).Goes cmd ignoreQuotes result _ :=
          copy_goes size front ends readsHead written free longer
        exact copies

/-- A regular token ends in front of a character that is not the terminator. -/
theorem regular_ends (size : cmd.length = cmdCmdSize) (phase : s.phase = .regular)
    (front : InFrontOf cmd s.text (c :: rest)) (notNul : c ≠ nul) (reads : ∀ i ∈ s.reads, InText cmd i)
    (written : HasWritten s.cmdTokenized s.text tokens current)
    (offsets : s.cmdArgv = tokenOffsets (tokens ++ [current]))
    (free : tokens.length + (room + 1) = maxStringTokens)
    (parses : afterRegular ignoreQuotes room tokens current (some ([], c :: rest)) = some result) :
    s.Goes cmd ignoreQuotes result ((s.put nul).map fun s => s.goto .outer) := by
  rw [afterRegular, List.head?_cons, if_neg (fun same => notNul (Option.some.inj same)),
    List.append_nil] at parses
  have here : InFrontOf cmd (s.text + 0) (c :: rest) := front
  exact close_goes size front here (.inr phase) reads written offsets free parses

/-- A character of a regular token. -/
theorem regular_copies (size : cmd.length = cmdCmdSize) (phase : s.phase = .regular)
    (front : InFrontOf cmd s.text (c :: rest)) (notNul : c ≠ nul) (reads : ∀ i ∈ s.reads, InText cmd i)
    (written : HasWritten s.cmdTokenized s.text tokens current)
    (offsets : s.cmdArgv = tokenOffsets (tokens ++ [current]))
    (free : tokens.length + (room + 1) = maxStringTokens)
    (parses : afterRegular ignoreQuotes room tokens current
      ((copyRegular ignoreQuotes rest).map fun copied => (c :: copied.1, copied.2)) = some result) :
    s.Goes cmd ignoreQuotes result ((s.put c).map fun s => s.advance 1) := by
  rw [afterRegular_cons] at parses
  have longer : Parses ignoreQuotes result tokens s.cmdArgv s.phase (current ++ [c]) rest := by
    rw [phase]
    refine .regular ?_ free parses
    rw [offsets, tokenOffsets_concat, tokenOffsets_concat]
  exact copy_goes size front notNul reads written free longer

/-- A slash in a regular token, with the character behind it read: a comment, or a character of the
token. -/
theorem regular_slash (size : cmd.length = cmdCmdSize) (phase : s.phase = .regular)
    (front : InFrontOf cmd s.text ('/' :: d :: rest)) (reads : ∀ i ∈ s.reads, InText cmd i)
    (written : HasWritten s.cmdTokenized s.text tokens current)
    (offsets : s.cmdArgv = tokenOffsets (tokens ++ [current]))
    (free : tokens.length + (room + 1) = maxStringTokens)
    (parses : afterRegular ignoreQuotes room tokens current
      (copyRegular ignoreQuotes ('/' :: d :: rest)) = some result) :
    s.Goes cmd ignoreQuotes result
      (if d = '/' ∨ d = '*' then (s.put nul).map fun s => s.goto .outer
      else (s.put '/').map fun s => s.advance 1) := by
  rw [copyRegular, List.head?_cons] at parses
  by_cases comment : d = '/' ∨ d = '*'
  · rw [if_neg (fun all => all.2.2 ⟨rfl, by simpa using comment⟩)] at parses
    rw [if_pos comment]
    exact regular_ends size phase front (by decide) reads written offsets free parses
  · have solid : signedChar '/' > 32 := by decide
    have noQuote : ¬ (ignoreQuotes = false ∧ '/' = '"') := fun both => absurd both.2 (by decide)
    rw [if_pos ⟨solid, noQuote, fun both => comment (by simpa using both.2)⟩] at parses
    rw [if_neg comment]
    exact regular_copies size phase front (by decide) reads written offsets free parses

/-- A bare token takes the character, or ends at a blank, a comment or the
terminator. -/
theorem regular_goes (size : cmd.length = cmdCmdSize) (phase : s.phase = .regular)
    (front : InFrontOf cmd s.text rest) (reads : ∀ i ∈ s.reads, InText cmd i)
    (written : HasWritten s.cmdTokenized s.text tokens current)
    (offsets : s.cmdArgv = tokenOffsets (tokens ++ [current]))
    (free : tokens.length + (room + 1) = maxStringTokens)
    (parses : afterRegular ignoreQuotes room tokens current (copyRegular ignoreQuotes rest) =
      some result) : s.Goes cmd ignoreQuotes result (s.regular cmd ignoreQuotes) := by
  cases rest with
  | nil => cases front.terminated
  | cons c rest =>
      have readsHead := reads_head front reads
      rw [Scan.regular, peek_head front]
      dsimp only [Option.bind_eq_bind, Option.bind_some]
      by_cases ends : c = nul
      · have small : ¬ signedChar c > 32 := by
          rw [ends]
          decide
        rw [copyRegular, if_neg (fun all => small all.1), afterRegular, List.head?_cons,
          if_pos (congrArg some ends),
          List.append_nil] at parses
        rw [if_pos ends]
        have returns : (s.note 0).Goes cmd ignoreQuotes result _ :=
          close_returns_goes size front (.inr phase) readsHead written offsets free
            (Option.some.inj parses)
        exact returns
      rw [if_neg ends]
      have stops (stop : ¬ (signedChar c > 32 ∧ ¬ (ignoreQuotes = false ∧ c = '"') ∧
          ¬ (c = '/' ∧ (rest.head? = some '/' ∨ rest.head? = some '*')))) :
          (s.note 0).Goes cmd ignoreQuotes result (((s.note 0).put nul).map fun s => s.goto .outer) := by
        rw [copyRegular, if_neg stop] at parses
        exact regular_ends size phase front ends readsHead written offsets free parses
      by_cases blank : signedChar c ≤ 32
      · rw [if_pos blank]
        have closes := stops (fun all => Int.not_lt.mpr blank all.1)
        exact closes
      rw [if_neg blank]
      by_cases quote : ignoreQuotes = false ∧ c = '"'
      · rw [if_pos quote]
        have closes := stops (fun all => all.2.1 quote)
        exact closes
      rw [if_neg quote]
      by_cases slash : c = '/'
      · subst slash
        rw [if_pos rfl]
        cases rest with
        | nil => exact absurd ((front.next ends).terminated) List.not_mem_nil
        | cons d rest =>
            rw [peek_next front ends]
            have goes : ((s.note 0).note 1).Goes cmd ignoreQuotes result _ :=
              regular_slash size phase front (reads_next front ends reads) written offsets free parses
            exact goes
      · rw [if_neg slash]
        rw [copyRegular, if_pos ⟨Int.not_le.mp blank, quote, fun both => slash both.1⟩] at parses
        have copies : (s.note 0).Goes cmd ignoreQuotes result _ :=
          regular_copies size phase front ends readsHead written offsets free parses
        exact copies

/-- The outer loop ends when the tokens are used up, and otherwise goes on to the
blanks. -/
theorem outer_goes (phase : s.phase = .outer) (front : InFrontOf cmd s.text rest)
    (reads : ∀ i ∈ s.reads, InText cmd i) (written : HasWritten s.cmdTokenized s.text tokens [])
    (offsets : s.cmdArgv = tokenOffsets tokens) (free : tokens.length + room = maxStringTokens)
    (parses : tokenize ignoreQuotes room tokens rest = some result) :
    s.Goes cmd ignoreQuotes result s.outer := by
  have argc : s.cmdArgv.length = tokens.length := by rw [offsets, length_tokenOffsets]
  cases room with
  | zero =>
      have running : s.phase ≠ .returned := by
        rw [phase]
        decide
      rw [Scan.outer, if_pos (argc.trans free)]
      exact returns_goes running front reads written offsets (Nat.le_of_eq free) (Option.some.inj parses)
  | succ room =>
      rw [tokenize_succ] at parses
      rw [Scan.outer, if_neg (by omega)]
      refine ⟨_, rfl, ⟨rest, tokens, [], front, reads, written, .blanks offsets free parses⟩, ?_⟩
      simp only [Scan.measure, Scan.goto, Scan.rank, phase]
      omega

/-- As long as the scanner has not returned it goes on. -/
theorem step_goes (size : cmd.length = cmdCmdSize) (sound : s.Sound cmd ignoreQuotes result)
    (running : s.phase ≠ .returned) : s.Goes cmd ignoreQuotes result (s.step cmd ignoreQuotes) := by
  obtain ⟨phase, text, cmdTokenized, cmdArgv, reads⟩ := s
  obtain ⟨rest, tokens, current, front, readsIn, written, parses⟩ := sound
  cases parses with
  | outer offsets free parses => exact outer_goes rfl front readsIn written offsets free parses
  | blanks offsets free parses => exact blanks_goes rfl front readsIn written offsets free parses
  | comment offsets free parses => exact comment_goes rfl front readsIn written offsets free parses
  | quoted offsets free parses => exact quoted_goes size rfl front readsIn written offsets free parses
  | regular offsets free parses => exact regular_goes size rfl front readsIn written offsets free parses
  | returned => exact absurd rfl running

end Rounds

/-!
### A whole scan

A measure that falls in every round ends the scan. For a text that fits
`cmd_cmd` all accesses are inside, and otherwise the copy lacks its terminator.
-/

section WholeScan

variable {src : CString} {ignoreQuotes : Bool} {result : List CString}

theorem length_cmdCmd (src : CString) : (strncpy src cmdCmdSize).length = cmdCmdSize := length_strncpy

/-- A terminated copy is scanned to the tokens of the list model. -/
theorem scan_reaches (terminated : nul ∈ strncpy src cmdCmdSize)
    (parses : tokenize ignoreQuotes maxStringTokens [] (strncpy src cmdCmdSize) = some result) :
    ∃ s, Scan.Reaches (strncpy src cmdCmdSize) ignoreQuotes .start s ∧ s.phase = .returned ∧
      s.Sound (strncpy src cmdCmdSize) ignoreQuotes result := by
  have sound : Scan.start.Sound (strncpy src cmdCmdSize) ignoreQuotes result := by
    refine ⟨_, [], [], ⟨rfl, terminated, List.not_mem_nil⟩, ?_,
      ⟨rfl, ?_, List.not_mem_nil, Nat.le_refl _⟩,
      .outer rfl (Nat.zero_add _) parses⟩
    · intro i listed
      cases listed
    · intro token listed
      cases listed
  apply reaches_final_of_measure (Scan.measure (strncpy src cmdCmdSize)) _ sound
  intro s kept running
  exact step_goes (length_cmdCmd src) kept running

/-- What the invariant says of a scanner that has returned. -/
theorem Scan.Sound.returned {cmd : List Char} {s : Scan} (sound : s.Sound cmd ignoreQuotes result)
    (size : cmd.length = cmdCmdSize) (returned : s.phase = .returned) :
    (∀ i ∈ s.reads, InText cmd i) ∧ s.cmdTokenized.length ≤ cmdTokenizedSize ∧
      s.cmdArgv.length ≤ maxStringTokens ∧ StringsApart s.cmdTokenized s.cmdArgv result := by
  obtain ⟨rest, tokens, current, front, reads, written, parses⟩ := sound
  rw [returned] at parses
  cases parses with
  | returned offsets bounded parsed =>
      subst parsed
      have inside := front.lt_length
      have room := written.room
      refine ⟨reads, ?_, ?_, ?_⟩
      · rw [cmdTokenizedSize]
        omega
      · rwa [offsets, length_tokenOffsets]
      · rw [offsets, written.laidOut, List.append_nil]
        exact stringsApart_tokenBytes written.clean

/-- Where the source is terminated, the scanner leaves the strings of the list
model. -/
theorem scan_agrees {tokenizer : StringTokenizer} (terminated : nul ∈ strncpy src cmdCmdSize)
    (made : StringTokenizer.new src ignoreQuotes = some tokenizer) :
    ∃ s, Scan.Reaches (strncpy src cmdCmdSize) ignoreQuotes .start s ∧ s.phase = .returned ∧
      (∀ i ∈ s.reads, InText (strncpy src cmdCmdSize) i) ∧
        s.cmdTokenized.length ≤ cmdTokenizedSize ∧
      s.cmdArgv.length ≤ maxStringTokens ∧
      StringsApart s.cmdTokenized s.cmdArgv tokenizer.cmdArgv := by
  obtain ⟨result, parses, rfl⟩ := Option.map_eq_some_iff.mp made
  obtain ⟨s, reached, returned, sound⟩ := scan_reaches terminated parses
  exact ⟨s, reached, returned, sound.returned (length_cmdCmd _) returned⟩

/-- The scanner stays in its buffers exactly if the source is shorter than the
first one. -/
theorem staysInBuffers_iff (src : CText) (ignoreQuotes : Bool) :
    StaysInBuffers src.val ignoreQuotes ↔ src.val.length < cmdCmdSize := by
  constructor
  · rintro ⟨terminated, -⟩
    exact (nul_mem_strncpy_iff src.property).mp terminated
  · intro fits
    obtain ⟨tokenizer, made⟩ := Option.isSome_iff_exists.mp (@new_isSome_of_fits ignoreQuotes _ fits)
    have terminated := (nul_mem_strncpy_iff src.property).mpr fits
    obtain ⟨s, scanned⟩ := scan_agrees terminated made
    exact ⟨terminated, s, tokenizer.cmdArgv, scanned⟩

end WholeScan

/-- Of letters, one token is copied up to any of them. -/
theorem letters_scanned {n k : Nat} (ignoreQuotes : Bool) (some_ : 0 < n) (fits : n ≤ cmdTokenizedSize)
    (upTo : k ≤ n) : ∃ reads, Scan.Reaches (List.replicate n 'a') ignoreQuotes .start
      { phase := .regular, text := k, cmdTokenized := List.replicate k 'a', cmdArgv := [0], reads } := by
  have peeked (s : Scan) (inside : s.text < n) :
      s.peek (List.replicate n 'a') 0 = some ('a', s.note 0) := by
    rw [Scan.peek, Nat.add_zero, List.getElem?_replicate, if_pos inside]
    rfl
  have noNul : 'a' ≠ nul := by decide
  have solid : ¬ signedChar 'a' ≤ 32 := by decide
  have noSlash : 'a' ≠ '/' := by decide
  have noQuote : ¬ (ignoreQuotes = false ∧ 'a' = '"') := fun both => absurd both.2 (by decide)
  induction k with
  | zero =>
      refine ⟨[0], .head rfl (.head ?_ .refl)⟩
      change (Scan.start.goto .blanks).blanks _ _ = _
      rw [Scan.blanks, peeked _ some_]
      dsimp only [Option.bind_eq_bind, Option.bind_some]
      rw [if_neg noNul, if_neg solid, if_neg noSlash, Scan.ready, if_neg noQuote]
      rfl
  | succ k inductionHypothesis =>
      obtain ⟨reads, reached⟩ := inductionHypothesis (Nat.le_of_succ_le upTo)
      refine ⟨k :: reads, reached.tail ?_⟩
      have room : (List.replicate k 'a').length < cmdTokenizedSize := by
        rw [List.length_replicate]
        omega
      change Scan.regular _ _ _ = _
      rw [Scan.regular, peeked _ (Nat.lt_of_succ_le upTo)]
      dsimp only [Option.bind_eq_bind, Option.bind_some]
      rw [if_neg noNul, if_neg solid, if_neg noQuote, if_neg noSlash, Scan.put, Scan.note, if_pos room,
        List.replicate_succ']
      rfl

/-- A source of as many letters as the copy has bytes is read behind it: the scanner gets to its end and
does not stop. -/
theorem letters_leave_buffer (ignoreQuotes : Bool) :
    ¬ StaysInBuffers (fullInfo cmdCmdSize).val ignoreQuotes ∧
      ∃ s, Scan.Reaches (strncpy (fullInfo cmdCmdSize).val cmdCmdSize) ignoreQuotes .start s ∧
        s.phase = .regular ∧ s.text = cmdCmdSize ∧
        s.step (strncpy (fullInfo cmdCmdSize).val cmdCmdSize) ignoreQuotes = none := by
  have whole (n : Nat) : strncpy (fullInfo n).val n = List.replicate n 'a' := by
    rw [strncpy, List.take_append_of_le_length (Nat.le_of_eq (length_fullInfo n).symm),
      List.take_of_length_le (Nat.le_of_eq (length_fullInfo n))]
    rfl
  have unterminated (n : Nat) : nul ∉ strncpy (fullInfo n).val n := by
    rw [nul_mem_strncpy_iff (fullInfo n).property, length_fullInfo]
    exact Nat.lt_irrefl n
  constructor
  · rintro ⟨terminated, -⟩
    exact unterminated cmdCmdSize terminated
  · rw [whole]
    obtain ⟨reads, reached⟩ := letters_scanned ignoreQuotes (by decide)
      (Nat.le_add_right cmdCmdSize maxStringTokens) (Nat.le_refl cmdCmdSize)
    refine ⟨_, reached, rfl, rfl, ?_⟩
    change Scan.regular _ _ _ = none
    rw [Scan.regular, Scan.peek, Nat.add_zero, List.getElem?_replicate, if_neg (Nat.lt_irrefl _)]
    rfl

/-- The same with the flag that all callers pass. -/
theorem letters_read_behind :
    ¬ StaysInBuffers (fullInfo cmdCmdSize).val false ∧
      ∃ s, Scan.Reaches (strncpy (fullInfo cmdCmdSize).val cmdCmdSize) false .start s ∧
        s.phase = .regular ∧ s.text = cmdCmdSize ∧
        s.step (strncpy (fullInfo cmdCmdSize).val cmdCmdSize) false = none :=
  letters_leave_buffer false

end Q3df.Client
