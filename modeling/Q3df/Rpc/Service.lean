/-
Module: Q3df.Rpc.Service
Layer: Rpc
Purpose: Names of services and methods. `CamelCase` gives a name in which every word starts with a
  capital letter, and changes no such name any more; joined names are converted part by part, unless
  the part behind the dot starts with an underscore. So the name under which a method is registered
  is found by itself.
Imports: Q3df.Rpc.Wire
Trusted boundary: human-reviewed transcription of CamelCase and the names of
  tools/protobuf/src/google/protobuf/rpc/rpc_service.cc; allocations do not fail
Main exports: camelCase, CamelCased, camelCased_camelCase, camelCase_eq_self_iff,
  camelCase_idempotent, camelCase_join_iff, ServiceDescriptor, MethodDescriptor, getServiceName,
  getServiceMethodName, camelCase_getServiceMethodName, Service
Open obligations: none
-/
import Q3df.Rpc.Wire

namespace Q3df.Rpc

/-!
### Characters

`islower` and `isdigit` of the C locale.
-/

def isLower (c : Byte) : Bool := 97 ≤ c.toNat && c.toNat ≤ 122

def isDigit (c : Byte) : Bool := 48 ≤ c.toNat && c.toNat ≤ 57

/-- `'_'`. -/
def underscore : Byte := 95#8

/-- `'.'`. -/
def dot : Byte := 46#8

/-- `i+1 < s.size() && islower(s[i+1])`, for the characters behind the current
one. -/
def nextLower : StdString → Bool
  | [] => false
  | c :: _ => isLower c

/-- The loop of `CamelCase`. `accepting` stands for its inner loop, which takes
the lower case letters that follow a letter as they are. -/
def camelLoop : Bool → StdString → StdString
  | _, [] => []
  | accepting, c :: rest =>
      if accepting && isLower c then c :: camelLoop true rest
      else if c == underscore && nextLower rest then camelLoop false rest
      else if isDigit c || c == dot then c :: camelLoop false rest
      else (if isLower c then c ^^^ 32#8 else c) :: camelLoop true rest

/-- `CamelCase`. -/
def camelCase : StdString → StdString
  | [] => []
  | c :: rest => if c = underscore then 88#8 :: camelLoop false rest else camelLoop false (c :: rest)

/-!
### Services

Descriptors of services and methods, and the names under which they are registered.
-/

/-- `ServiceDescriptor`, its name and the names of its methods. -/
structure ServiceDescriptor where
  name : StdString
  methods : List StdString

/-- `MethodDescriptor`, its name and the name of its service. -/
structure MethodDescriptor where
  service : StdString
  name : StdString
deriving DecidableEq

/-- `method(i)`, one after the other. -/
def ServiceDescriptor.methodDescriptors (service : ServiceDescriptor) : List MethodDescriptor :=
  service.methods.map fun name => { service := service.name, name := name }

/-- `GetServiceName`. -/
def getServiceName (service : ServiceDescriptor) : StdString := camelCase service.name

/-- `GetServiceMethodName`. -/
def getServiceMethodName (method : MethodDescriptor) : StdString :=
  camelCase method.service ++ dot :: camelCase method.name

/-- `Service`, over the messages `μ` and what the services of a program share. A
call gives an error, the contents of the response, and what is shared
afterwards. -/
structure Service (σ μ : Type) where
  descriptor : ServiceDescriptor
  requestPrototype : MethodDescriptor → MessageType μ
  responsePrototype : MethodDescriptor → MessageType μ
  callMethod : MethodDescriptor → μ → σ → Error × μ × σ

/-!
### Names that do not change any more

What the function leaves of a name is described by a condition on its
characters. Names that meet it are those that the function leaves alone.
-/

/-- Lower case letters stand behind a letter, and no underscore stands in front
of one. -/
def Camel : Bool → StdString → Prop
  | _, [] => True
  | accepting, c :: rest =>
      (isLower c = true → accepting = true) ∧ ¬(c = underscore ∧ nextLower rest = true) ∧
        Camel (!(isDigit c || c == dot)) rest

/-- The same for a whole name, which does not start with an underscore either. -/
def CamelCased (s : StdString) : Prop := s.head? ≠ some underscore ∧ Camel false s

variable {s rest : StdString} {c : Byte}

/-- A capital made of a lower case letter is no lower case letter, digit, dot or
underscore. -/
theorem isLower_capital : ∀ c : Byte, isLower c = true →
    isLower (c ^^^ 32#8) = false ∧ isDigit (c ^^^ 32#8) = false ∧ c ^^^ 32#8 ≠ dot ∧
      c ^^^ 32#8 ≠ underscore := by
  decide +kernel

theorem not_isDigit_of_isLower : ∀ c : Byte, isLower c = true → isDigit c = false ∧ c ≠ dot ∧
    c ≠ underscore := by
  decide +kernel

/-- Outside a word the first character that comes out is not a lower case
letter, nor an underscore unless one came in. -/
theorem nextLower_camelLoop (s : StdString) : nextLower (camelLoop false s) = false := by
  induction s with
  | nil => rfl
  | cons c rest inductionHypothesis =>
      simp only [camelLoop, Bool.false_and, Bool.false_eq_true, if_false]
      by_cases skipped : (c == underscore && nextLower rest) = true
      · rw [if_pos skipped]
        exact inductionHypothesis
      · rw [if_neg skipped]
        by_cases lower : isLower c = true
        · obtain ⟨noDigit, noDot, _⟩ := not_isDigit_of_isLower c lower
          simp [noDigit, noDot, lower, nextLower, (isLower_capital c lower).1]
        · rw [Bool.not_eq_true] at lower
          by_cases copied : (isDigit c || c == dot) = true <;> simp [copied, lower, nextLower]

theorem nextLower_camelLoop_of (noLower : nextLower s = false) : nextLower (camelLoop true s) = false := by
  cases s with
  | nil => rfl
  | cons c rest =>
      have lower : isLower c = false := noLower
      have same : camelLoop true (c :: rest) = camelLoop false (c :: rest) := by
        simp [camelLoop, lower]
      rw [same]
      exact nextLower_camelLoop _

/-- What comes out of the loop. -/
theorem camel_camelLoop (accepting : Bool) (s : StdString) : Camel accepting (camelLoop accepting s) := by
  induction s generalizing accepting with
  | nil => trivial
  | cons c rest inductionHypothesis =>
      rw [camelLoop]
      by_cases taken : (accepting && isLower c) = true
      · obtain ⟨inWord, lower⟩ := Bool.and_eq_true_iff.mp taken
        obtain ⟨noDigit, noDot, noUnderscore⟩ := not_isDigit_of_isLower c lower
        have others := inductionHypothesis true
        rw [if_pos taken]
        refine ⟨fun _ => inWord, fun both => noUnderscore both.1, ?_⟩
        simp only [noDigit, beq_eq_false_iff_ne.mpr noDot, Bool.or_false, Bool.not_false]
        exact others
      · rw [if_neg taken]
        by_cases skipped : (c == underscore && nextLower rest) = true
        · rw [if_pos skipped]
          have others := inductionHypothesis false
          have first := nextLower_camelLoop rest
          cases looped : camelLoop false rest with
          | nil => trivial
          | cons d after =>
              rw [looped] at others first
              have noLower : isLower d = false := first
              refine ⟨fun lower => ?_, others.2⟩
              rw [noLower] at lower
              cases lower
        · rw [if_neg skipped]
          by_cases copied : (isDigit c || c == dot) = true
          · rw [if_pos copied]
            have facts : ∀ c : Byte, (isDigit c || c == dot) = true → isLower c = false ∧
                c ≠ underscore := by
              decide +kernel
            obtain ⟨noLower, noUnderscore⟩ := facts c copied
            refine ⟨fun lower => ?_, fun both => noUnderscore both.1, ?_⟩
            · rw [noLower] at lower
              cases lower
            · rw [copied]
              exact inductionHypothesis false
          · rw [if_neg copied]
            by_cases lower : isLower c = true
            · obtain ⟨noLower, noDigit, noDot, noUnderscore⟩ := isLower_capital c lower
              rw [if_pos lower]
              refine ⟨fun still => ?_, fun both => noUnderscore both.1, ?_⟩
              · rw [noLower] at still
                cases still
              · simp only [noDigit, beq_eq_false_iff_ne.mpr noDot, Bool.or_false, Bool.not_false]
                exact inductionHypothesis true
            · rw [if_neg lower]
              refine ⟨fun still => absurd still lower, ?_, ?_⟩
              · rintro ⟨isUnderscore, behind⟩
                apply skipped
                cases next : nextLower rest with
                | true => simp [isUnderscore]
                | false =>
                    rw [nextLower_camelLoop_of next] at behind
                    cases behind
              · rw [Bool.not_eq_true] at copied
                rw [copied]
                exact inductionHypothesis true

/-- What has that form stays as it is. -/
theorem camelLoop_of_camel {accepting : Bool} (camel : Camel accepting s) : camelLoop accepting s = s := by
  induction s generalizing accepting with
  | nil => rfl
  | cons c rest inductionHypothesis =>
      obtain ⟨inWord, noSkip, others⟩ := camel
      have later := inductionHypothesis others
      by_cases lower : isLower c = true
      · obtain ⟨noDigit, noDot, _⟩ := not_isDigit_of_isLower c lower
        simp only [noDigit, beq_eq_false_iff_ne.mpr noDot, Bool.or_false, Bool.not_false] at later
        rw [camelLoop, inWord lower, lower]
        simp [later]
      · rw [Bool.not_eq_true] at lower
        have notSkipped : (c == underscore && nextLower rest) = false := by
          rw [Bool.and_eq_false_iff, beq_eq_false_iff_ne]
          rcases not_and_or.mp noSkip with other | none_
          · exact Or.inl other
          · exact Or.inr ((Bool.not_eq_true _).mp none_)
        rw [camelLoop, lower, notSkipped]
        cases copied : (isDigit c || c == dot) with
        | true =>
            rw [copied] at later
            simpa [copied] using later
        | false =>
            rw [copied] at later
            simpa [copied] using later

/-- A loop that does not start at an underscore puts none in front. -/
theorem head_camelLoop (noUnderscore : c ≠ underscore) :
    (camelLoop false (c :: rest)).head? ≠ some underscore := by
  have notSkipped : (c == underscore && nextLower rest) = false := by
    rw [beq_eq_false_iff_ne.mpr noUnderscore, Bool.false_and]
  simp only [camelLoop, Bool.false_and, notSkipped, Bool.false_eq_true, if_false]
  split_ifs with copied lower
  · simpa using noUnderscore
  · simpa using (isLower_capital c lower).2.2.2
  · simpa using noUnderscore

/-- Every name that comes out is in camel case. -/
theorem camelCased_camelCase (s : StdString) : CamelCased (camelCase s) := by
  cases s with
  | nil => exact ⟨by simp [camelCase], trivial⟩
  | cons c rest =>
      rw [camelCase]
      split_ifs with isUnderscore
      · have others := camel_camelLoop false rest
        have first := nextLower_camelLoop rest
        refine ⟨by simp [underscore], fun lower => absurd lower (by decide), ?_, ?_⟩
        · rintro ⟨other, _⟩
          exact absurd other (by decide)
        · show Camel true (camelLoop false rest)
          cases looped : camelLoop false rest with
          | nil => trivial
          | cons d after =>
              rw [looped] at others first
              exact ⟨fun _ => rfl, others.2⟩
      · exact ⟨head_camelLoop isUnderscore, camel_camelLoop false _⟩

/-- `CamelCase` leaves exactly the names in camel case alone. -/
theorem camelCase_eq_self_iff : camelCase s = s ↔ CamelCased s := by
  constructor
  · intro same
    rw [← same]
    exact camelCased_camelCase s
  · rintro ⟨first, camel⟩
    cases s with
    | nil => rfl
    | cons c rest =>
        have noUnderscore : c ≠ underscore := fun isUnderscore =>
            first (by rw [isUnderscore, List.head?_cons])
        rw [camelCase, if_neg noUnderscore]
        exact camelLoop_of_camel camel

/-- A name in camel case stays as it is. -/
theorem camelCase_idempotent (s : StdString) : camelCase (camelCase s) = camelCase s :=
  camelCase_eq_self_iff.mpr (camelCased_camelCase s)

/-!
### Joined names

A method is registered under its service's name, a dot and its own name. The
function works on the two sides of the dot separately, unless an underscore
stands behind it.
-/

/-- Behind a dot the loop starts afresh. -/
theorem camelLoop_join (accepting : Bool) (a b : StdString) :
    camelLoop accepting (a ++ dot :: b) = camelLoop accepting a ++ dot :: camelLoop false b := by
  induction a generalizing accepting with
  | nil =>
      have facts : isLower dot = false ∧ (dot == underscore) = false := by decide
      simp [camelLoop, facts.1, facts.2]
  | cons c rest inductionHypothesis =>
      have next : nextLower (rest ++ dot :: b) = nextLower rest := by
        cases rest <;> rfl
      simp only [List.cons_append, camelLoop, next, inductionHypothesis]
      split_ifs <;> rfl

theorem camelCase_join_loop (a b : StdString) : camelCase (a ++ dot :: b) = camelCase a ++ dot ::
    camelLoop false b := by
  cases a with
  | nil =>
      have joined := camelLoop_join false [] b
      have noUnderscore : dot ≠ underscore := by decide
      simp only [List.nil_append, camelCase, if_neg noUnderscore]
      exact joined
  | cons c rest =>
      have joined := camelLoop_join false (c :: rest) b
      have behind := camelLoop_join false rest b
      rw [List.cons_append, camelCase, camelCase]
      split_ifs
      · rw [behind, List.cons_append]
      · exact joined

/-- A name behind a dot is converted like one that stands alone, exactly if it
does not start with an underscore: alone, that would become an `X`. -/
theorem camelCase_join_iff {a b : StdString} :
    camelCase (a ++ dot :: b) = camelCase a ++ dot :: camelCase b ↔ b.head? ≠ some underscore := by
  rw [camelCase_join_loop]
  simp only [List.append_cancel_left_eq, List.cons.injEq, true_and]
  cases b with
  | nil => simp [camelCase, camelLoop]
  | cons c rest =>
      rw [camelCase]
      by_cases isUnderscore : c = underscore
      · rw [if_pos isUnderscore, isUnderscore]
        simp only [List.head?_cons, ne_eq, not_true_eq_false, iff_false]
        have facts : isLower underscore = false ∧ isDigit underscore = false ∧
            (underscore == dot) = false := by decide
        cases next : nextLower rest with
        | true =>
            simp only [camelLoop, Bool.false_and, beq_self_eq_true, next, Bool.and_self, Bool.false_eq_true,
              if_false, if_true]
            intro same
            have lengths := congrArg List.length same
            rw [List.length_cons] at lengths
            omega
        | false =>
            have kept : camelLoop false (underscore :: rest) = underscore :: camelLoop true rest := by
              simp [camelLoop, next, facts]
            rw [kept]
            intro same
            exact absurd (List.cons.inj same).1 (by decide)
      · rw [if_neg isUnderscore]
        simpa using isUnderscore

/-- The name under which a method is registered is in camel case, so a caller
that uses it finds it. -/
theorem camelCase_getServiceMethodName (method : MethodDescriptor) :
    camelCase (getServiceMethodName method) = getServiceMethodName method := by
  rw [getServiceMethodName, camelCase_join_iff.mpr (camelCased_camelCase method.name).1, camelCase_idempotent,
    camelCase_idempotent]

end Q3df.Rpc
