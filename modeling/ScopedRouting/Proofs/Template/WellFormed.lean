import ScopedRouting.Proofs.Template.Segments

/-!
# Dynamic segments that compile

What is written of a dynamic segment compiles if there is a name behind its indicator, if a choice
of words for a truth value has two, if an expression can be read, and if a default can be converted.
The segment is then put together from these parts, each on its own. Otherwise the first part at
fault decides the error: the words, then the name, then the expression, then the default.
-/
namespace ScopedRouting.Template

open Dialect

variable {regexes : RegexReader}

namespace Args

/-- The words for true and false. -/
def truthWords : Args → String × String
  | .choice [trueWord, falseWord] => (trueWord, falseWord)
  | _ => ("true", "false")

/-- Whether an expression, if the arguments are one, can be read. -/
def Compiles (regexes : RegexReader) (args : Args) : Prop :=
  ∀ pattern, args = .regex pattern → (regexes pattern).isSome = true

/-- The constraint that the arguments put on a token. -/
def validator (regexes : RegexReader) : Args → Option Validator
  | .absent => none
  | .range min max => some (.range min max)
  | .regex pattern => regexes pattern
  | .choice words => some (.choice words)

variable {args : Args}

theorem Compiles.create (compiles : args.Compiles regexes) :
    (ValidatorFactory.reading regexes).create args = .ok (args.validator regexes) := by
  cases args with
  | absent => rfl
  | range min max => rfl
  | choice words => rfl
  | regex pattern =>
    obtain ⟨regex, read⟩ := Option.isSome_iff_exists.mp (compiles pattern rfl)
    simp only [ValidatorFactory.reading, validator, read]

theorem create_regex {pattern : String} (broken : regexes pattern = none) :
    (ValidatorFactory.reading regexes).create (.regex pattern) =
      .error (.invalidRegex pattern) := by
  simp only [ValidatorFactory.reading, broken]

theorem booleanOf_of_pair (name : String)
    (pair : ∀ words, args = .choice words → words.length = 2) :
    Converter.booleanOf name args = .ok (.boolean args.truthWords.1 args.truthWords.2) := by
  cases args with
  | absent => rfl
  | range min max => rfl
  | regex pattern => rfl
  | choice words =>
    obtain ⟨trueWord, falseWord, rfl⟩ := List.length_eq_two.mp (pair words rfl)
    rfl

theorem booleanOf_of_other (name : String) {words : List String} (other : words.length ≠ 2) :
    Converter.booleanOf name (.choice words) = .error (.booleanArity name words.length) := by
  match words with
  | [] => rfl
  | [_] => rfl
  | [_, _] => exact absurd rfl other
  | _ :: _ :: _ :: _ => rfl

end Args

namespace Clause

/-- The name behind the indicator, if there is one. -/
def bareName (clause : Clause) : String :=
  match clause.name.toList with
  | [] => ""
  | first :: bare =>
    if first = '$' ∨ first = '+' ∨ first = '!' then String.ofList bare else clause.name

/-- The converter that the indicator stands for. -/
def converter (clause : Clause) : Converter :=
  if clause.name.toList.head? = some '+' then .number
  else if clause.name.toList.head? = some '!' then
    .boolean clause.args.truthWords.1 clause.args.truthWords.2
  else .text

/-- Whether a choice of words for a truth value has two of them. -/
def Paired (clause : Clause) : Prop :=
  clause.name.toList.head? = some '!' → ∀ words, clause.args = .choice words → words.length = 2

/-- Whether a default, if there is one, can be converted. -/
def Convertible (clause : Clause) : Prop :=
  ∀ literal, clause.presence = .defaulted literal → clause.converter.accepts literal = true

/-- Whether a dynamic segment can be compiled. -/
structure WellFormed (regexes : RegexReader) (clause : Clause) : Prop where
  paired : clause.Paired
  named : clause.bareName ≠ ""
  compiles : clause.args.Compiles regexes
  convertible : clause.Convertible

/-- The value of the default. -/
def default? (clause : Clause) : Option Value :=
  match clause.presence with
  | .defaulted literal => clause.converter.read? literal
  | _ => none

/-- The segment that is meant, part by part. -/
def segment (regexes : RegexReader) (clause : Clause) : ValueSegment where
  name := clause.bareName
  optional := clause.presence ≠ .required
  default := clause.default?
  converter := clause.converter
  validator := clause.args.validator regexes

/-- What is wrong with a dynamic segment: the first part at fault counts. -/
inductive Fault (regexes : RegexReader) (clause : Clause) : Error → Prop
  | unpaired {words : List String} (boolean : clause.name.toList.head? = some '!')
      (choice : clause.args = .choice words) (other : words.length ≠ 2) :
      Fault regexes clause (.booleanArity clause.bareName words.length)
  | unnamed (paired : clause.Paired) (nameless : clause.bareName = "") :
      Fault regexes clause (.missingName (":" ++ clause.name))
  | broken {pattern : String} (named : clause.bareName ≠ "") (regex : clause.args = .regex pattern)
      (broken : regexes pattern = none) : Fault regexes clause (.invalidRegex pattern)
  | inconvertible {literal : String} (paired : clause.Paired) (named : clause.bareName ≠ "")
      (compiles : clause.args.Compiles regexes) (default : clause.presence = .defaulted literal)
      (refused : clause.converter.accepts literal = false) :
      Fault regexes clause (.invalidDefault clause.bareName literal)

/-- The parts are looked at in the order of their faults. -/
theorem wellFormed_or_fault (regexes : RegexReader) (clause : Clause) :
    clause.WellFormed regexes ∨ ∃ fault, clause.Fault regexes fault := by
  by_cases paired : clause.Paired
  · by_cases named : clause.bareName ≠ ""
    · by_cases compiles : clause.args.Compiles regexes
      · by_cases convertible : clause.Convertible
        · exact .inl ⟨paired, named, compiles, convertible⟩
        · simp only [Convertible, not_forall, Bool.not_eq_true] at convertible
          obtain ⟨literal, default, refused⟩ := convertible
          exact .inr ⟨_, .inconvertible paired named compiles default refused⟩
      · simp only [Args.Compiles, not_forall, Option.not_isSome_iff_eq_none] at compiles
        obtain ⟨pattern, regex, broken⟩ := compiles
        exact .inr ⟨_, .broken named regex broken⟩
    · exact .inr ⟨_, .unnamed paired (not_not.mp named)⟩
  · simp only [Paired, not_forall] at paired
    obtain ⟨boolean, words, choice, other⟩ := paired
    exact .inr ⟨_, .unpaired boolean choice other⟩

variable {clause : Clause}

/-- The indicator is taken off, and the converter is the one it stands for. -/
theorem Paired.converterOf (paired : clause.Paired) (regexes : RegexReader) :
    (reading regexes).converterOf clause =
      if clause.bareName = "" then .error (.missingName (":" ++ clause.name))
      else .ok (clause.bareName, clause.converter) := by
  unfold Dialect.converterOf bareName converter
  cases chars : clause.name.toList with
  | nil =>
    have nameless : clause.name = "" := String.toList_eq_nil_iff.mp chars
    rw [nameless, if_pos rfl]
    rfl
  | cons first bare =>
    by_cases text : first = '$'
    · subst text
      rfl
    by_cases number : first = '+'
    · subst number
      rfl
    by_cases boolean : first = '!'
    · subst boolean
      have created := Args.booleanOf_of_pair (String.ofList bare) (paired (by rw [chars]; rfl))
      simp only [reading, ConverterFactory.standard, created]
      rfl
    · simp only [reading, ConverterFactory.standard, text, number, boolean, List.head?_cons,
        Option.some.injEq, or_self, if_false]
      rfl

theorem converterOf_of_unpaired {words : List String}
    (boolean : clause.name.toList.head? = some '!') (choice : clause.args = .choice words)
    (other : words.length ≠ 2) :
    (reading regexes).converterOf clause = .error (.booleanArity clause.bareName words.length) := by
  obtain ⟨bare, chars⟩ := List.head?_eq_some_iff.mp boolean
  unfold Dialect.converterOf bareName
  simp only [reading, ConverterFactory.standard, chars, choice, Args.booleanOf_of_other _ other]
  rfl

/-- A name that is left leads on to the arguments and the default. -/
theorem compileValue_of_named (paired : clause.Paired) (named : clause.bareName ≠ "") :
    (reading regexes).compileValue clause = do
      let validator ← (ValidatorFactory.reading regexes).create clause.args
      let default ← defaultOf clause.bareName clause.converter clause.presence
      return { clause.segment regexes with validator, default } := by
  have picked := paired.converterOf regexes
  rw [if_neg named] at picked
  rw [Dialect.compileValue, picked]
  rfl

theorem faithful_converter (clause : Clause) : clause.converter.Faithful := by
  unfold converter
  split
  · exact Converter.faithful_number
  · split
    · exact Converter.faithful_boolean _ _
    · exact Converter.faithful_text

theorem Convertible.defaultOf (convertible : clause.Convertible) :
    defaultOf clause.bareName clause.converter clause.presence = .ok clause.default? := by
  unfold Dialect.defaultOf default?
  cases presence : clause.presence with
  | required => rfl
  | optional => rfl
  | defaulted literal =>
    have accepted := convertible literal presence
    obtain ⟨value, read⟩ :=
      Option.isSome_iff_exists.mp (clause.faithful_converter literal accepted)
    simp only [accepted, if_true, read]

theorem WellFormed.compileValue (wellFormed : clause.WellFormed regexes) :
    (reading regexes).compileValue clause = .ok (clause.segment regexes) := by
  rw [compileValue_of_named wellFormed.paired wellFormed.named, wellFormed.compiles.create,
    wellFormed.convertible.defaultOf]
  rfl

theorem Fault.compileValue {fault : Error} (faulty : clause.Fault regexes fault) :
    (reading regexes).compileValue clause = .error fault := by
  cases faulty with
  | unpaired boolean choice other =>
    rw [Dialect.compileValue, converterOf_of_unpaired boolean choice other]
    rfl
  | unnamed paired nameless =>
    have picked := paired.converterOf regexes
    rw [if_pos nameless] at picked
    rw [Dialect.compileValue, picked]
    rfl
  | broken named regex broken =>
    have paired : clause.Paired := by
      intro _ words choice
      cases regex.symm.trans choice
    rw [compileValue_of_named paired named, regex, Args.create_regex broken]
    rfl
  | inconvertible paired named compiles default refused =>
    rw [compileValue_of_named paired named, compiles.create, default, Dialect.defaultOf, refused]
    rfl

/-- What compiles is well-formed, and to nothing but what is meant. -/
theorem compileValue_eq_ok_iff {segment : ValueSegment} :
    (reading regexes).compileValue clause = .ok segment ↔
      clause.WellFormed regexes ∧ segment = clause.segment regexes := by
  constructor
  · intro h
    rcases clause.wellFormed_or_fault regexes with wellFormed | ⟨fault, faulty⟩
    · exact ⟨wellFormed, Except.ok.inj (h.symm.trans wellFormed.compileValue)⟩
    · cases h.symm.trans faulty.compileValue
  · rintro ⟨wellFormed, rfl⟩
    exact wellFormed.compileValue

end Clause

/-- A dynamic segment for texts has the text converter, and the rest of what its clause says. -/
theorem Dialect.text_of_compileValue {clause : Clause} {segment : ValueSegment}
    (no_number : clause.name.toList.head? ≠ some '+')
    (no_boolean : clause.name.toList.head? ≠ some '!')
    (h : (reading regexes).compileValue clause = .ok segment) :
    segment.converter = .text ∧
      (ValidatorFactory.reading regexes).create clause.args = .ok segment.validator ∧
      defaultOf segment.name .text clause.presence = .ok segment.default ∧
      segment.optional = decide (clause.presence ≠ .required) := by
  obtain ⟨wellFormed, rfl⟩ := Clause.compileValue_eq_ok_iff.mp h
  have text : clause.converter = .text := by
    rw [Clause.converter, if_neg no_number, if_neg no_boolean]
  refine ⟨text, wellFormed.compiles.create, ?_, rfl⟩
  rw [← text]
  exact wellFormed.convertible.defaultOf

end ScopedRouting.Template
