/-
Module: Q3df.Client.TokenizerQuoting
Layer: Client
Purpose: The tokenizer as the inverse of writing tokens down: each one in quotes, or bare where its
  characters allow it, with blanks between them.
Imports: Q3df.Client.UserBuffers
Trusted boundary: none
Main exports: TokenRendering, Separator, Rendering, StringTokenizer.argvAt, tokenize_rendering,
  rendering_tokenized
Open obligations: none
-/
import Q3df.Client.UserBuffers

namespace Q3df.Client

/-- `Argv` for an `int`, which is compared as an unsigned number. -/
def StringTokenizer.argvAt (tokenizer : StringTokenizer) (index : BitVec 32) : CString :=
  tokenizer.argv index.toNat

/-- The ways to write a token: in quotes, or bare if nothing in it ends a token
or starts a comment. -/
inductive TokenRendering (token : CString) : List Char → Prop where
  | quoted : TokenRendering token ('"' :: token ++ ['"'])
  | bare (nonEmpty : token ≠ []) (printable : ∀ c ∈ token, '!' ≤ c ∧ c ≤ '~')
      (noComment : ¬ ['/', '/'] <:+: token ∧ ¬ ['/', '*'] <:+: token) : TokenRendering token token

/-- One or more characters from 1 to 32. -/
def Separator (text : List Char) : Prop := text ≠ [] ∧ ∀ c ∈ text, 1 ≤ c.toNat ∧ c.toNat ≤ 32

instance (text : List Char) : Decidable (Separator text) :=
  @instDecidableAnd (text ≠ []) (∀ c ∈ text, 1 ≤ c.toNat ∧ c.toNat ≤ 32) inferInstance
    (List.decidableBAll _ _)

/-- The tokens written one after the other, with separators between them. -/
inductive Rendering : List CString → List Char → Prop where
  | nil : Rendering [] []
  | single {token : CString} {text : List Char} (renders : TokenRendering token text) :
      Rendering [token] text
  | cons {token next : CString} {tokens : List CString} {text between rest : List Char}
      (renders : TokenRendering token text) (separator : Separator between)
      (later : Rendering (next :: tokens) rest) :
      Rendering (token :: next :: tokens) (text ++ between ++ rest)

/-- What stands behind a token: a blank or the terminator. -/
def AtBoundary (rest : List Char) : Prop := ∃ c later, rest = c :: later ∧ signedChar c ≤ 32

section Characters

variable {c : Char} {text rest : List Char}

/-- The characters up to the space are blanks for the scanner. -/
theorem signedChar_blank (blank : 1 ≤ c.toNat ∧ c.toNat ≤ 32) : c ≠ nul ∧ signedChar c ≤ 32 := by
  constructor
  · rintro rfl
    exact absurd blank.1 (by decide)
  · rw [signedChar, if_pos (by omega)]
    omega

theorem signedChar_printable (printable : '!' ≤ c ∧ c ≤ '~') : signedChar c > 32 := by
  have low : 33 ≤ c.toNat := printable.1
  have high : c.toNat ≤ 126 := printable.2
  rw [signedChar, if_pos (by omega)]
  omega

/-- A blank at the boundary is no character of a comment. -/
theorem AtBoundary.head?_ne (boundary : AtBoundary rest) {d : Char} (solid : signedChar d > 32) :
    rest.head? ≠ some d := by
  obtain ⟨c, later, rfl, small⟩ := boundary
  intro same
  rw [Option.some.inj same] at small
  exact absurd solid (Int.not_lt.mpr small)

/-- A token in front of a separator ends there. -/
theorem Separator.atBoundary (separator : Separator text) : AtBoundary (text ++ rest) := by
  obtain ⟨nonEmpty, blanks⟩ := separator
  cases text with
  | nil => exact absurd rfl nonEmpty
  | cons c text => exact ⟨c, text ++ rest, rfl, (signedChar_blank (blanks c List.mem_cons_self)).2⟩

theorem atBoundary_nul (rest : List Char) : AtBoundary (nul :: rest) := ⟨nul, rest, rfl, by decide⟩

end Characters

/-!
### The loops

Each loop on the text it is meant for: separators, quoted tokens, bare tokens.
By induction on that text.
-/

section Loops

variable {token text rest : List Char} {argv : List CString} {room : Nat}

/-- The inner loop skips a separator. -/
theorem skipBlanks_separator (blanks : ∀ c ∈ text, 1 ≤ c.toNat ∧ c.toNat ≤ 32) :
    skipBlanks (text ++ rest) = skipBlanks rest := by
  induction text with
  | nil => rfl
  | cons c text inductionHypothesis =>
      obtain ⟨notNul, small⟩ := signedChar_blank (blanks c List.mem_cons_self)
      rw [List.cons_append, skipBlanks, if_neg notNul, if_pos small]
      apply inductionHypothesis
      intro d listed
      exact blanks d (List.mem_cons_of_mem c listed)

/-- The copy loop of a quoted string takes the token and its closing quote. -/
theorem copyQuoted_token (clean : nul ∉ token ∧ '"' ∉ token) :
    copyQuoted (token ++ '"' :: rest) = some (token, some rest) := by
  induction token with
  | nil => rw [List.nil_append, copyQuoted, if_neg (by decide), if_pos rfl]
  | cons c token inductionHypothesis =>
      obtain ⟨notNul, inner⟩ := List.ne_and_not_mem_of_not_mem_cons clean.1
      obtain ⟨noQuote, innerQuote⟩ := List.ne_and_not_mem_of_not_mem_cons clean.2
      rw [List.cons_append, copyQuoted, if_neg (Ne.symm notNul), if_neg (Ne.symm noQuote),
        inductionHypothesis ⟨inner, innerQuote⟩]
      rfl

/-- No comment starts in a bare token, and none where it ends. -/
theorem bare_no_comment {c : Char}
    (noComment : ¬ ['/', '/'] <:+: c :: token ∧ ¬ ['/', '*'] <:+: c :: token)
    (boundary : AtBoundary rest) :
    ¬ (c = '/' ∧ ((token ++ rest).head? = some '/' ∨ (token ++ rest).head? = some '*')) := by
  rintro ⟨rfl, second⟩
  cases token with
  | nil =>
      rcases second with slash | star
      · exact boundary.head?_ne (by decide) slash
      · exact boundary.head?_ne (by decide) star
  | cons d token =>
      rcases second with slash | star
      · cases slash
        exact noComment.1 ⟨[], token, rfl⟩
      · cases star
        exact noComment.2 ⟨[], token, rfl⟩

/-- The copy loop of a regular token takes a bare token up to the boundary. -/
theorem copyRegular_token (noQuote : '"' ∉ token) (printable : ∀ c ∈ token, '!' ≤ c ∧ c ≤ '~')
    (noComment : ¬ ['/', '/'] <:+: token ∧ ¬ ['/', '*'] <:+: token) (boundary : AtBoundary rest) :
    copyRegular false (token ++ rest) = some (token, rest) := by
  induction token with
  | nil =>
      obtain ⟨c, later, rfl, small⟩ := boundary
      rw [List.nil_append, copyRegular, if_neg (fun all => Int.not_lt.mpr small all.1)]
  | cons c token inductionHypothesis =>
      obtain ⟨other, innerQuote⟩ := List.ne_and_not_mem_of_not_mem_cons noQuote
      have large := signedChar_printable (printable c List.mem_cons_self)
      have inner : copyRegular false (token ++ rest) = some (token, rest) := by
        apply inductionHypothesis innerQuote
        · intro d listed
          exact printable d (List.mem_cons_of_mem c listed)
        · exact ⟨fun found => noComment.1 (List.infix_cons found),
            fun found => noComment.2 (List.infix_cons found)⟩
      rw [List.cons_append, copyRegular, if_pos ⟨large, fun both => other both.2.symm,
        bare_no_comment noComment boundary⟩, inner]
      rfl

/-- In front of a bare token the inner loop ends. -/
theorem skipBlanks_token {c : Char} (printable : '!' ≤ c ∧ c ≤ '~')
    (noComment : ¬ ['/', '/'] <:+: c :: token ∧ ¬ ['/', '*'] <:+: c :: token)
    (boundary : AtBoundary rest) :
    skipBlanks (c :: (token ++ rest)) = some (.ready (c :: (token ++ rest))) := by
  have large := signedChar_printable printable
  have apart := bare_no_comment noComment boundary
  have notNul : c ≠ nul := by
    rintro rfl
    exact absurd large (by decide)
  rw [skipBlanks, if_neg notNul, if_neg (Int.not_le.mpr large),
    if_neg (fun both => apart ⟨both.1, .inl both.2⟩),
      if_neg (fun both => apart ⟨both.1, .inr both.2⟩)]

/-- At the terminator there is nothing left to parse. -/
theorem tokenize_nul (room : Nat) (argv : List CString) :
    tokenize false room argv (nul :: rest) = some argv := by
  cases room with
  | zero => rfl
  | succ room => rw [tokenize, skipBlanks, if_pos rfl]

/-- A separator is skipped, whether there is room for a token or not. -/
theorem tokenize_separator (separator : Separator text) :
    tokenize false room argv (text ++ rest) = tokenize false room argv rest := by
  cases room with
  | zero => rfl
  | succ room => rw [tokenize, skipBlanks_separator separator.2, tokenize]

/-- A token is parsed whichever way it is written. -/
theorem tokenize_token (clean : nul ∉ token ∧ '"' ∉ token) (renders : TokenRendering token text)
    (boundary : AtBoundary rest) :
    tokenize false (room + 1) argv (text ++ rest) = tokenize false room (argv ++ [token]) rest := by
  cases renders with
  | quoted =>
      have start : skipBlanks ('"' :: (token ++ ['"'] ++ rest)) =
          some (.ready ('"' :: (token ++ ['"'] ++ rest))) := by
        rw [skipBlanks, if_neg (by decide), if_neg (by decide),
          if_neg (fun both => absurd both.1 (by decide)), if_neg (fun both => absurd both.1 (by decide))]
      rw [List.cons_append, List.cons_append, tokenize, start]
      dsimp only
      rw [if_pos ⟨rfl, rfl⟩, List.tail_cons, List.append_assoc, List.singleton_append,
        copyQuoted_token clean]
  | bare nonEmpty printable noComment =>
      cases token with
      | nil => exact absurd rfl nonEmpty
      | cons c token =>
          have start := skipBlanks_token (printable c List.mem_cons_self) noComment boundary
          have copied := copyRegular_token clean.2 printable noComment boundary
          have noQuote : ¬ (false = false ∧ (c :: (token ++ rest)).head? = some '"') := by
            rintro ⟨-, same⟩
            cases same
            exact clean.2 List.mem_cons_self
          rw [List.cons_append] at copied
          rw [List.cons_append, tokenize, start]
          dsimp only
          rw [if_neg noQuote, copied]
          dsimp only
          split
          case isTrue atEnd =>
            obtain ⟨later, rfl⟩ := List.head?_eq_some_iff.mp atEnd
            rw [tokenize_nul]
          case isFalse => rfl

/-- The outer loop parses the tokens of a rendering, by induction on it. -/
theorem tokenize_rendering {tokens : List CString} (renders : Rendering tokens text)
    (clean : ∀ token ∈ tokens, nul ∉ token ∧ '"' ∉ token) (fits : tokens.length ≤ room) :
    tokenize false room argv (text ++ nul :: rest) = some (argv ++ tokens) := by
  induction renders generalizing argv room with
  | nil => rw [List.nil_append, tokenize_nul, List.append_nil]
  | single renders =>
      obtain ⟨room, rfl⟩ := Nat.exists_eq_succ_of_ne_zero (Nat.ne_of_gt fits)
      rw [tokenize_token (clean _ List.mem_cons_self) renders (atBoundary_nul rest), tokenize_nul]
  | @cons token next tokens text between later renders separator _ inductionHypothesis =>
      obtain ⟨room, rfl⟩ := Nat.exists_eq_succ_of_ne_zero (Nat.ne_of_gt (Nat.zero_lt_of_lt fits))
      have cleanLater : ∀ token ∈ next :: tokens, nul ∉ token ∧ '"' ∉ token :=
        fun token listed => clean token (List.mem_cons_of_mem _ listed)
      rw [List.append_assoc, List.append_assoc,
        tokenize_token (clean _ List.mem_cons_self) renders separator.atBoundary,
        tokenize_separator separator, inductionHypothesis cleanLater (Nat.le_of_succ_le_succ fits),
        List.append_assoc, List.singleton_append]

end Loops

/-!
### A whole text

A rendering that fits the buffer is tokenized to the tokens it renders.
-/

/-- A text that fits the copy is tokenized from its characters on. -/
theorem strncpy_of_fits {src : CString} {num : Nat} (fits : src.length < num) :
    ∃ rest, strncpy src num = src ++ nul :: rest := by
  obtain ⟨k, size⟩ := Nat.exists_eq_add_of_lt fits
  refine ⟨List.replicate k nul, ?_⟩
  rw [strncpy, List.take_append, List.take_of_length_le (Nat.le_of_lt fits), List.take_replicate,
    Nat.min_eq_left (by omega), ← List.replicate_succ]
  apply congrArg
  apply congrArg (List.replicate · nul)
  omega

/-- Where there are few tokens, an index is in the range as a signed number if it is as an unsigned one. -/
theorem argvAt_of_fits {tokenizer : StringTokenizer} (bounded : tokenizer.argc ≤ maxStringTokens)
    (index : BitVec 32) : tokenizer.argvAt index =
      if 0 ≤ index.toInt ∧ index.toInt < tokenizer.argc then
        tokenizer.cmdArgv.getD index.toInt.toNat []
      else [] := by
  have signed := BitVec.toInt_eq_toNat_cond index
  have small : maxStringTokens < 2147483648 := by decide
  rw [StringTokenizer.argvAt, StringTokenizer.argv]
  by_cases low : 2 * index.toNat < 4294967296
  · rw [if_pos low] at signed
    rw [signed, Int.toNat_natCast]
    by_cases inRange : index.toNat < tokenizer.argc
    · rw [if_neg (by omega), if_pos (by omega)]
    · rw [if_pos (by omega), if_neg (by omega)]
  · rw [if_neg low] at signed
    have range := index.isLt
    rw [if_pos (by omega), if_neg (by omega)]

/-- The tokenizer undoes the rendering: as many tokens, each the one that was written, and the empty string
for every other index. -/
theorem rendering_tokenized {tokens : List CString} {text : List Char} (renders : Rendering tokens text)
    (clean : ∀ token ∈ tokens, nul ∉ token ∧ '"' ∉ token) (room : tokens.length ≤ maxStringTokens)
    (fits : text.length < cmdCmdSize) :
    ∃ tokenizer, StringTokenizer.new text false = some tokenizer ∧ tokenizer.argc = tokens.length ∧
      ∀ index : BitVec 32, tokenizer.argvAt index =
        if 0 ≤ index.toInt ∧ index.toInt < tokens.length then tokens.getD index.toInt.toNat []
        else [] := by
  obtain ⟨rest, copied⟩ := strncpy_of_fits fits
  have parsed : StringTokenizer.new text false = some { cmdArgv := tokens } := by
    rw [StringTokenizer.new, copied, tokenize_rendering renders clean room]
    rfl
  exact ⟨_, parsed, rfl, argvAt_of_fits room⟩

/-- Four tokens, one empty, one with the characters of a comment in quotes, one
that ends in a slash. -/
theorem four_tokens_tokenized :
    ∃ tokenizer, StringTokenizer.new "say \"\"\t\"a // b\" x/".toList false = some tokenizer ∧
      tokenizer.argc = 4 ∧ ∀ index : BitVec 32, tokenizer.argvAt index =
        if 0 ≤ index.toInt ∧ index.toInt < 4 then
          ["say".toList, [], "a // b".toList, "x/".toList].getD index.toInt.toNat []
        else [] := by
  have bare (token : CString) (nonEmpty : token ≠ [])
      (printable : token.all (fun c => decide ('!' ≤ c ∧ c ≤ '~')) = true)
      (noComment : ¬ ['/', '/'] <:+: token ∧ ¬ ['/', '*'] <:+: token) : TokenRendering token token :=
    .bare nonEmpty (fun c member => of_decide_eq_true (List.all_eq_true.mp printable c member)) noComment
  have renders : Rendering ["say".toList, [], "a // b".toList, "x/".toList]
      ("say".toList ++ " ".toList ++ ("\"\"".toList ++ "\t".toList ++
        ("\"a // b\"".toList ++ " ".toList ++ "x/".toList))) := by
    refine .cons (bare _ (by decide) (by decide) (by decide)) (by decide) (.cons .quoted ?_
      (.cons .quoted ?_ (.single (bare _ (by decide) (by decide) (by decide)))))
    all_goals decide
  exact rendering_tokenized renders (by decide) (by decide) (by decide)

end Q3df.Client
