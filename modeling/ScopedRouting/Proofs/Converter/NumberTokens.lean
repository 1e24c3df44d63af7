import ScopedRouting.Proofs.Number.Prefixes
import ScopedRouting.Proofs.Template.WellFormed

/-!
# Tokens that are numbers

A token is a number if, behind blanks and a sign, it begins with the word for infinity, with an
ASCII digit or with a point and an ASCII digit. What follows does not matter, with one exception: a
digit of another script that continues the numeral.
-/
namespace ScopedRouting

namespace Binary64

/-- What a number begins with behind its sign. -/
inductive Begins : List Char → Prop
  | word (more : List Char) : Begins ("Infinity".toList ++ more)
  | digit {first : Char} (more : List Char) : first.isDigit = true → Begins (first :: more)
  | point {first : Char} (more : List Char) : first.isDigit = true → Begins ('.' :: first :: more)

/-- Whether the longest numeral that a text begins with, if there is one, has ASCII digits only. -/
def HasPlainNumeral (text : List Char) : Prop :=
  ∀ part, LongestNumeral text part → ∀ c ∈ part, Unicode.isDecimalDigit c = true → c.isDigit = true

variable {sign rest : List Char}

/-- Behind its blanks and its sign a number has neither. -/
theorem Begins.head? (begins : Begins rest) :
    ∃ c more, rest = c :: more ∧ Blank.isBlank c = false ∧ c ≠ '+' ∧ c ≠ '-' := by
  cases begins with
  | word more => exact ⟨'I', "nfinity".toList ++ more, rfl, by decide, by decide, by decide⟩
  | digit more digit =>
    obtain ⟨_, visible, minus, plus, _⟩ := digit_spec digit
    exact ⟨_, more, rfl, visible, plus, minus⟩
  | point more _ => exact ⟨'.', _, rfl, by decide, by decide, by decide⟩

theorem LongestNumeral.unique {text part other : List Char} (one : LongestNumeral text part)
    (two : LongestNumeral text other) : part = other :=
  (two.longest part one.starts one.numeral).eq_of_length_le
    (one.longest other two.starts two.numeral).length_le

/-- A text that begins with a numeral begins with a digit or with a point and a digit. -/
theorem begins_of_numeral {part : List Char} (numeral : Numeral Char.isDigit part)
    (starts : part <+: rest) : Begins rest := by
  obtain ⟨more, rfl⟩ := starts
  obtain ⟨first, others, digit, rfl | rfl⟩ := numeral.begins
  · exact .digit _ digit
  · exact .point _ digit

/-- No numeral begins with a letter of the word. -/
theorem not_numeral_of_word {part : List Char} (starts : part <+: "Infinity".toList ++ rest) :
    ¬ Numeral Unicode.isDecimalDigit part := by
  refine not_numeral_of_stops ?_ (fun _ other => by cases other) starts
  intro c first
  cases first
  decide

/-- A number that is no word is a numeral of digits of some script. -/
theorem Begins.numeral (begins : Begins rest) (other : ¬ "Infinity".toList <+: rest) :
    ∃ part, part <+: rest ∧ Numeral Unicode.isDecimalDigit part := by
  cases begins with
  | word more => exact absurd (List.prefix_append _ more) other
  | @digit first more digit =>
    have one : ∀ c ∈ [first], Unicode.isDecimalDigit c = true :=
      List.forall_mem_singleton.mpr (digit_spec digit).1
    exact ⟨[first], ⟨more, rfl⟩, .whole (by simp) one .absent⟩
  | @point first more digit =>
    have one : ∀ c ∈ [] ++ [first], Unicode.isDecimalDigit c = true :=
      List.forall_mem_singleton.mpr (digit_spec digit).1
    exact ⟨['.', first], ⟨more, rfl⟩, .point (by simp) one .absent⟩

/-- The digits that are found are read exactly if they are ASCII digits. -/
theorem readNumeral?_numericPart_iff (negative : Bool) (other : ¬ "Infinity".toList <+: rest) :
    (readNumeral? negative (numericPart rest)).isSome = true ↔
      Begins rest ∧ HasPlainNumeral rest := by
  rw [readNumeral?_isSome_iff]
  rcases longestNumeral_or_none rest with longest | ⟨nothing, no_numeral⟩
  · constructor
    · intro numeral
      refine ⟨begins_of_numeral numeral longest.starts, fun part another c member decimal => ?_⟩
      rw [another.unique longest] at member
      refine (numeral.mem member).resolve_right fun mark => ?_
      rw [sparesMarks_isDecimalDigit c mark] at decimal
      cases decimal
    · rintro ⟨_, plain⟩
      exact longest.numeral.mono (plain _ longest)
  · rw [nothing]
    constructor
    · intro numeral
      have none := no_numeral [] List.nil_prefix
      exact absurd (numeral.mono fun c member => absurd member List.not_mem_nil) none
    · rintro ⟨begins, _⟩
      obtain ⟨part, starts, numeral⟩ := begins.numeral other
      exact absurd numeral (no_numeral part starts)

theorem leading?_isSome_iff (token : String) :
    (leading? token).isSome = true ↔
      Begins (takeSign (Blank.trimStart token.toList)).2 ∧
        HasPlainNumeral (takeSign (Blank.trimStart token.toList)).2 := by
  unfold leading?
  generalize takeSign (Blank.trimStart token.toList) = read
  obtain ⟨negative, rest⟩ := read
  dsimp only
  split
  · rename_i word
    obtain ⟨more, rfl⟩ := List.isPrefixOf_iff_prefix.mp word
    refine iff_of_true rfl ⟨.word more, fun part longest => ?_⟩
    exact absurd longest.numeral (not_numeral_of_word longest.starts)
  · rename_i other
    exact readNumeral?_numericPart_iff negative (mt List.isPrefixOf_iff_prefix.mpr other)

/-- Whether a token, behind blanks and a sign, begins with a number whose numeral no digit of
another script continues. -/
def IsNumberToken (token : String) : Prop :=
  ∃ blanks sign rest, token.toList = blanks ++ (sign ++ rest) ∧
    (∀ c ∈ blanks, Blank.isBlank c = true) ∧ IsSign sign ∧ Begins rest ∧ HasPlainNumeral rest

/-- There is one way only to take blanks and a sign off a number. -/
theorem takeSign_trimStart {blanks : List Char} (blank : ∀ c ∈ blanks, Blank.isBlank c = true)
    (signed : IsSign sign) (begins : Begins rest) :
    (takeSign (Blank.trimStart (blanks ++ (sign ++ rest)))).2 = rest := by
  obtain ⟨c, more, rfl, visible, plus, minus⟩ := begins.head?
  have stopped : (sign ++ c :: more).dropWhile Blank.isBlank = sign ++ c :: more := by
    rcases signed with rfl | rfl | rfl
    · exact List.dropWhile_cons_of_neg (by simp [visible])
    · exact List.dropWhile_cons_of_neg (by decide)
    · exact List.dropWhile_cons_of_neg (by decide)
  rw [Blank.trimStart, List.dropWhile_append_of_pos blank, stopped]
  refine takeSign_append signed fun d first => ?_
  cases first
  exact ⟨plus, minus⟩

theorem isNumberToken_iff (token : String) :
    (leading? token).isSome = true ↔ IsNumberToken token := by
  rw [leading?_isSome_iff]
  constructor
  · rintro ⟨begins, plain⟩
    rw [takeSign_snd] at begins plain
    refine ⟨token.toList.takeWhile Blank.isBlank, signPart (Blank.trimStart token.toList), _, ?_,
      fun c => List.mem_takeWhile_imp, isSign_signPart _, begins, plain⟩
    rw [signPart_append_drop, Blank.trimStart, List.takeWhile_append_dropWhile]
  · rintro ⟨blanks, sign, rest, split, blank, signed, begins, plain⟩
    rw [split, takeSign_trimStart blank signed begins]
    exact ⟨begins, plain⟩

end Binary64

open Template

/-- Which tokens are numbers. A number is read from a token exactly if the token, behind blanks and
a sign, begins with the word for infinity, with an ASCII digit or with a point and an ASCII digit,
and no digit of another script is in the longest numeral there. A segment for numbers without
arguments accepts exactly these tokens. -/
theorem number_tokens_iff (token : String) :
    ((Binary64.leading? token).isSome = true ↔ Binary64.IsNumberToken token) ∧
      ∀ regexes clause segment, clause.name.toList.head? = some '+' → clause.args = .absent →
        (Dialect.reading regexes).compileValue clause = .ok segment →
          (segment.accepts (some token) = true ↔ Binary64.IsNumberToken token) := by
  refine ⟨Binary64.isNumberToken_iff token, fun regexes clause segment number absent compiled => ?_⟩
  obtain ⟨_, rfl⟩ := Clause.compileValue_eq_ok_iff.mp compiled
  have accepted : (clause.segment regexes).accepts (some token) =
      (Binary64.leading? token).isSome := by
    simp [ValueSegment.accepts, Clause.segment, Clause.converter, number, absent, Args.validator,
      Converter.number]
  rw [accepted, Binary64.isNumberToken_iff]

theorem number_tokens_iff_length :
    Binary64.IsNumberToken " -.5em" ∧
      ∃ segment, Dialect.standard.compileValue ⟨"+size", .absent, .required⟩ = .ok segment ∧
        segment.accepts (some " -.5em") = true := by
  have leads : (Binary64.leading? " -.5em").isSome = true := by decide
  have compiled : ∃ segment,
      Dialect.standard.compileValue ⟨"+size", .absent, .required⟩ = .ok segment :=
    ⟨_, rfl⟩
  obtain ⟨segment, built⟩ := compiled
  obtain ⟨number, accepted⟩ := number_tokens_iff " -.5em"
  have token := number.mp leads
  exact ⟨token, segment, built, (accepted .standard _ _ rfl rfl built).mpr token⟩

/-- A digit of another script makes a token that begins with a digit no number. -/
theorem number_refused_before_other_script :
    Binary64.Begins "1٢".toList ∧ Binary64.leading? "1٢" = none ∧ ¬ Binary64.IsNumberToken "1٢" ∧
      ∃ segment, Dialect.standard.compileValue ⟨"+size", .absent, .required⟩ = .ok segment ∧
        segment.accepts (some "1٢") = false := by
  have none : Binary64.leading? "1٢" = none := by decide
  refine ⟨.digit _ (by decide), none, ?_, _, rfl, ?_⟩
  · rw [← Binary64.isNumberToken_iff, none]
    exact Bool.false_ne_true
  · have refused : Converter.number.accepts "1٢" = false := by decide
    exact congrArg (· && true) refused

end ScopedRouting
