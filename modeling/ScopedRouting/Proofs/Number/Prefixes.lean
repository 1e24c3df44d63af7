import ScopedRouting.Proofs.Number.Numerals
import ScopedRouting.Proofs.Template.WellFormed

/-!
# Numbers at the start of tokens

A numeral is digits with a point among them or at an end, and an exponent behind. The numeric part
of a text is the longest numeral that it begins with, where digits of every script count. A numeral
has a value only if its digits are ASCII digits. So a token that begins with an ASCII digit is no
number where a digit of another script continues its numeral.
-/
namespace ScopedRouting.Binary64

/-- What may stand before a number. -/
def IsSign (text : List Char) : Prop :=
  text = [] ∨ text = ['+'] ∨ text = ['-']

section Grammar

/-- An exponent, which is nothing at all or a mark, a sign and digits of a class. -/
inductive IsExponent (isDigit : Char → Bool) : List Char → Prop
  | absent : IsExponent isDigit []
  | given {mark : Char} {sign digits : List Char} (marked : mark = 'e' ∨ mark = 'E')
      (signed : IsSign sign) (some_digit : digits ≠ []) (all : ∀ c ∈ digits, isDigit c = true) :
      IsExponent isDigit (mark :: (sign ++ digits))

/-- A numeral without a sign, in digits of a class. One digit before or behind the point is
enough. -/
inductive Numeral (isDigit : Char → Bool) : List Char → Prop
  | whole {digits exponent : List Char} (some_digit : digits ≠ [])
      (all : ∀ c ∈ digits, isDigit c = true) (counted : IsExponent isDigit exponent) :
      Numeral isDigit (digits ++ exponent)
  | point {digits fraction exponent : List Char} (some_digit : digits ++ fraction ≠ [])
      (all : ∀ c ∈ digits ++ fraction, isDigit c = true) (counted : IsExponent isDigit exponent) :
      Numeral isDigit (digits ++ '.' :: (fraction ++ exponent))

variable {isDigit other : Char → Bool} {text exponent digits : List Char}

theorem IsExponent.mono (within : ∀ c ∈ exponent, isDigit c = true → other c = true)
    (counted : IsExponent isDigit exponent) : IsExponent other exponent := by
  cases counted with
  | absent => exact .absent
  | @given mark sign digits marked signed some_digit all =>
    refine .given marked signed some_digit fun c member => within c ?_ (all c member)
    exact List.mem_cons_of_mem mark (List.mem_append_right sign member)

/-- A numeral in digits of one class is one of another class that has these digits. -/
theorem Numeral.mono (within : ∀ c ∈ text, isDigit c = true → other c = true)
    (numeral : Numeral isDigit text) : Numeral other text := by
  cases numeral with
  | whole some_digit all counted =>
    obtain ⟨front, behind⟩ := List.forall_mem_append.mp within
    exact .whole some_digit (fun c member => front c member (all c member)) (counted.mono behind)
  | @point digits fraction exponent some_digit all counted =>
    obtain ⟨front, behind⟩ := List.forall_mem_append.mp within
    obtain ⟨_, behind⟩ := List.forall_mem_cons.mp behind
    obtain ⟨middle, behind⟩ := List.forall_mem_append.mp behind
    refine .point some_digit (fun c member => ?_) (counted.mono behind)
    rcases List.mem_append.mp member with before | after
    · exact front c before (all c member)
    · exact middle c after (all c member)

theorem IsSign.mem {sign : List Char} (signed : IsSign sign) {c : Char} (member : c ∈ sign) :
    c = '+' ∨ c = '-' := by
  rcases signed with rfl | rfl | rfl
  · cases member
  · exact .inl (List.mem_singleton.mp member)
  · exact .inr (List.mem_singleton.mp member)

/-- A numeral begins with a digit, or with a point and a digit. -/
theorem Numeral.begins (numeral : Numeral isDigit text) :
    ∃ c more, isDigit c = true ∧ (text = c :: more ∨ text = '.' :: c :: more) := by
  cases numeral with
  | whole some_digit all _ =>
    obtain ⟨first, others, rfl⟩ := List.exists_cons_of_ne_nil some_digit
    exact ⟨first, _, all first List.mem_cons_self, .inl rfl⟩
  | @point digits fraction _ some_digit all _ =>
    cases digits with
    | nil =>
      obtain ⟨first, others, rfl⟩ := List.exists_cons_of_ne_nil some_digit
      exact ⟨first, _, all first List.mem_cons_self, .inr rfl⟩
    | cons first others => exact ⟨first, _, all first List.mem_cons_self, .inl rfl⟩

/-- Numerals are made of digits, points, marks and signs. -/
theorem Numeral.mem (numeral : Numeral isDigit text) {c : Char} (member : c ∈ text) :
    isDigit c = true ∨ c ∈ ['.', 'e', 'E', '+', '-'] := by
  have behind : ∀ {exponent}, IsExponent isDigit exponent → c ∈ exponent →
      isDigit c = true ∨ c ∈ ['.', 'e', 'E', '+', '-'] := by
    intro exponent counted member
    cases counted with
    | absent => cases member
    | given marked signed _ all =>
      rcases List.mem_cons.mp member with rfl | member
      · rcases marked with rfl | rfl <;> simp
      · rcases List.mem_append.mp member with member | member
        · rcases signed.mem member with rfl | rfl <;> simp
        · exact .inl (all c member)
  cases numeral with
  | whole _ all counted =>
    rcases List.mem_append.mp member with member | member
    · exact .inl (all c member)
    · exact behind counted member
  | point _ all counted =>
    rcases List.mem_append.mp member with member | member
    · exact .inl (all c (List.mem_append_left _ member))
    · rcases List.mem_cons.mp member with rfl | member
      · simp
      · rcases List.mem_append.mp member with member | member
        · exact .inl (all c (List.mem_append_right _ member))
        · exact behind counted member

/-- Whether none of the other characters of numerals is a digit of a class. -/
def SparesMarks (isDigit : Char → Bool) : Prop :=
  ∀ c ∈ ['.', 'e', 'E', '+', '-'], isDigit c = false

theorem sparesMarks_of_any (none : ['.', 'e', 'E', '+', '-'].any isDigit = false) :
    SparesMarks isDigit :=
  fun c marked => Bool.eq_false_of_not_eq_true (List.any_eq_false.mp none c marked)

theorem sparesMarks_isDigit : SparesMarks Char.isDigit :=
  sparesMarks_of_any (by decide)

theorem sparesMarks_isDecimalDigit : SparesMarks Unicode.isDecimalDigit :=
  sparesMarks_of_any (by decide)

theorem SparesMarks.mark (spares : SparesMarks isDigit) {mark : Char}
    (marked : mark = 'e' ∨ mark = 'E') : isDigit mark = false := by
  rcases marked with rfl | rfl
  · exact spares 'e' (by decide)
  · exact spares 'E' (by decide)

/-- Digits are no signs. -/
theorem SparesMarks.unsigned (spares : SparesMarks isDigit) {c : Char} (digit : isDigit c = true) :
    c ≠ '+' ∧ c ≠ '-' := by
  constructor
  · rintro rfl
    rw [spares '+' (by decide)] at digit
    cases digit
  · rintro rfl
    rw [spares '-' (by decide)] at digit
    cases digit

/-- Whether a text does not begin with a digit. -/
def Stops (isDigit : Char → Bool) (text : List Char) : Prop :=
  ∀ c ∈ text.head?, isDigit c = false

theorem IsExponent.stops (spares : SparesMarks isDigit) (counted : IsExponent isDigit exponent) :
    Stops isDigit exponent := by
  cases counted with
  | absent => exact nofun
  | given marked _ _ _ =>
    intro c first
    cases first
    exact spares.mark marked

theorem stops_dropWhile (isDigit : Char → Bool) (text : List Char) :
    Stops isDigit (text.dropWhile isDigit) := by
  intro c first
  have stopped := List.head?_dropWhile_not isDigit text
  rw [Option.mem_def.mp first] at stopped
  exact stopped

variable {rest : List Char}

/-- Digits end where a text does not go on with one. -/
theorem Stops.span (stops : Stops isDigit rest) (all : ∀ c ∈ digits, isDigit c = true) :
    (digits ++ rest).takeWhile isDigit = digits ∧ (digits ++ rest).dropWhile isDigit = rest := by
  rw [List.takeWhile_append_of_pos all, List.dropWhile_append_of_pos all]
  cases rest with
  | nil => simp
  | cons c more => simp [stops c rfl]

/-- Where digits and what does not go on with one begin another such text, there are fewer digits
and nothing behind them, or the same digits. -/
theorem Stops.starts_cases {whole : List Char} (stops : Stops isDigit rest)
    (ends : Stops isDigit text) (all : ∀ c ∈ digits, isDigit c = true)
    (every : ∀ c ∈ whole, isDigit c = true) (starts : digits ++ text <+: whole ++ rest) :
    text = [] ∧ digits <+: whole ∨ digits = whole ∧ text <+: rest := by
  induction digits generalizing whole with
  | nil =>
    cases whole with
    | nil => exact .inr ⟨rfl, starts⟩
    | cons d others =>
      cases text with
      | nil => exact .inl ⟨rfl, List.nil_prefix⟩
      | cons c more =>
        obtain ⟨rfl, _⟩ := List.cons_prefix_cons.mp starts
        have digit := every _ List.mem_cons_self
        rw [ends c rfl] at digit
        cases digit
  | cons d others ih =>
    obtain ⟨first, later⟩ := List.forall_mem_cons.mp all
    cases whole with
    | nil =>
      obtain ⟨more, rfl⟩ := starts
      rw [stops d rfl] at first
      cases first
    | cons w front =>
      obtain ⟨rfl, behind⟩ := List.cons_prefix_cons.mp starts
      rcases ih later (List.forall_mem_cons.mp every).2 behind with ⟨nothing, within⟩ | ⟨rfl, here⟩
      · exact .inl ⟨nothing, List.cons_prefix_cons.mpr ⟨rfl, within⟩⟩
      · exact .inr ⟨rfl, here⟩

/-- Every text is digits and what does not go on with one. -/
theorem exists_span (isDigit : Char → Bool) (text : List Char) :
    ∃ digits rest, (∀ c ∈ digits, isDigit c = true) ∧ Stops isDigit rest ∧ text = digits ++ rest :=
  ⟨_, _, fun _ => List.mem_takeWhile_imp, stops_dropWhile isDigit text,
    List.takeWhile_append_dropWhile.symm⟩

end Grammar

section Longest

/-- The sign at the start of a text, if there is one. -/
def signPart (text : List Char) : List Char :=
  (text.take 1).filter fun c => c == '+' || c == '-'

theorem isSign_signPart (text : List Char) : IsSign (signPart text) := by
  cases text with
  | nil => exact .inl rfl
  | cons c more =>
    by_cases plus : c = '+'
    · exact .inr (.inl (by simp [signPart, plus]))
    · by_cases minus : c = '-'
      · exact .inr (.inr (by simp [signPart, minus]))
      · exact .inl (by simp [signPart, plus, minus])

theorem signPart_append_drop (text : List Char) :
    signPart text ++ text.drop (signPart text).length = text := by
  cases text with
  | nil => rfl
  | cons c more =>
    by_cases signed : (c == '+' || c == '-') = true
    · simp [signPart, signed]
    · simp [signPart, signed]

theorem signPart_append {sign text : List Char} (signed : IsSign sign)
    (unsigned : ∀ c ∈ text.head?, c ≠ '+' ∧ c ≠ '-') : signPart (sign ++ text) = sign := by
  rcases signed with rfl | rfl | rfl
  · cases text with
    | nil => rfl
    | cons c more =>
      obtain ⟨plus, minus⟩ := unsigned c rfl
      simp [signPart, plus, minus]
  · rfl
  · rfl

variable (isDigit : Char → Bool)

/-- The exponent at the start of a text, nothing if it is not complete. -/
def exponentPart : List Char → List Char
  | [] => []
  | mark :: tail =>
    let digits := (tail.drop (signPart tail).length).takeWhile isDigit
    if (mark = 'e' ∨ mark = 'E') ∧ digits ≠ [] then mark :: (signPart tail ++ digits) else []

variable {isDigit} {text rest digits fraction exponent : List Char}

theorem isExponent_exponentPart (rest : List Char) :
    IsExponent isDigit (exponentPart isDigit rest) := by
  cases rest with
  | nil => exact .absent
  | cons mark tail =>
    dsimp only [exponentPart]
    split
    · rename_i complete
      exact .given complete.1 (isSign_signPart tail) complete.2 fun c member =>
        List.mem_takeWhile_imp member
    · exact .absent

theorem exponentPart_starts (rest : List Char) : exponentPart isDigit rest <+: rest := by
  cases rest with
  | nil => exact List.prefix_rfl
  | cons mark tail =>
    dsimp only [exponentPart]
    split
    · have digits := List.takeWhile_prefix isDigit (l := tail.drop (signPart tail).length)
      have behind := (List.prefix_append_right_inj (signPart tail)).mpr digits
      rw [signPart_append_drop] at behind
      exact (List.prefix_cons_inj mark).mpr behind
    · exact List.nil_prefix

/-- No longer exponent begins a text. -/
theorem IsExponent.prefix_exponentPart (spares : SparesMarks isDigit)
    (counted : IsExponent isDigit exponent) (starts : exponent <+: rest) :
    exponent <+: exponentPart isDigit rest := by
  cases counted with
  | absent => exact List.nil_prefix
  | @given mark sign digits marked signed some_digit all =>
    obtain ⟨more, rfl⟩ := starts
    have unsigned : ∀ c ∈ (digits ++ more).head?, c ≠ '+' ∧ c ≠ '-' := by
      intro c first
      obtain ⟨d, others, rfl⟩ := List.exists_cons_of_ne_nil some_digit
      cases first
      exact spares.unsigned (all _ List.mem_cons_self)
    have left : digits ++ more.takeWhile isDigit ≠ [] := by simp [some_digit]
    rw [List.cons_append, exponentPart, List.append_assoc, signPart_append signed unsigned]
    simp only [List.drop_left, List.takeWhile_append_of_pos all, marked, true_and, if_pos left]
    simp

/-- A text of digits and an exponent reaches no further than the digits at the start of a text and
the exponent behind them. -/
theorem counted_starts (spares : SparesMarks isDigit) {whole : List Char}
    (all : ∀ c ∈ digits, isDigit c = true) (counted : IsExponent isDigit exponent)
    (every : ∀ c ∈ whole, isDigit c = true) (stops : Stops isDigit rest)
    (starts : digits ++ exponent <+: whole ++ rest) :
    digits ++ exponent <+: whole ++ exponentPart isDigit rest := by
  rcases stops.starts_cases (counted.stops spares) all every starts with
    ⟨rfl, within⟩ | ⟨rfl, here⟩
  · rw [List.append_nil]
    exact within.trans (List.prefix_append whole _)
  · exact (List.prefix_append_right_inj digits).mpr (counted.prefix_exponentPart spares here)

/-- Digits up to another character are all the digits at the start of a text. -/
theorem eq_of_digits_start {whole more : List Char} {c : Char} (other : isDigit c = false)
    (all : ∀ c ∈ digits, isDigit c = true) (every : ∀ c ∈ whole, isDigit c = true)
    (stops : Stops isDigit rest) (starts : digits ++ c :: more <+: whole ++ rest) :
    digits = whole ∧ c :: more <+: rest := by
  have ends : Stops isDigit (c :: more) := by
    intro d first
    cases first
    exact other
  rcases stops.starts_cases ends all every starts with ⟨nothing, _⟩ | same
  · cases nothing
  · exact same

/-- Whether a text is the longest numeral at the start of another, in digits of every script. -/
structure LongestNumeral (text part : List Char) : Prop where
  starts : part <+: text
  numeral : Numeral Unicode.isDecimalDigit part
  longest : ∀ other, other <+: text → Numeral Unicode.isDecimalDigit other → other <+: part

theorem append_exponentPart (isDigit : Char → Bool) (mantissa : List Char) (mark : Char)
    (tail : List Char) :
    mantissa ++ exponentPart isDigit (mark :: tail) =
      if (mark = 'e' ∨ mark = 'E') ∧
        (tail.drop (signPart tail).length).takeWhile isDigit ≠ [] then
          mantissa ++ mark :: signPart tail ++
            (tail.drop (signPart tail).length).takeWhile isDigit
      else mantissa := by
  dsimp only [exponentPart]
  split
  · simp
  · exact List.append_nil mantissa

/-- Digits that no point follows are taken with the exponent behind them. -/
theorem numericPart_of_digits (all : ∀ c ∈ digits, Unicode.isDecimalDigit c = true)
    (some_digit : digits ≠ []) (stops : Stops Unicode.isDecimalDigit rest)
    (no_point : rest.head? ≠ some '.') :
    numericPart (digits ++ rest) = digits ++ exponentPart Unicode.isDecimalDigit rest := by
  obtain ⟨taken, dropped⟩ := stops.span all
  obtain ⟨first, more, rfl⟩ := List.exists_cons_of_ne_nil some_digit
  unfold numericPart
  simp only [taken, dropped]
  cases rest with
  | nil => simp [exponentPart]
  | cons c tail =>
    rw [append_exponentPart]
    split
    · rename_i point
      exact absurd (congrArg List.head? point) no_point
    · rename_i point
      exact absurd (congrArg List.head? point) no_point
    · rfl

/-- Digits on either side of a point are taken with the exponent behind them. -/
theorem numericPart_of_point (all : ∀ c ∈ digits ++ fraction, Unicode.isDecimalDigit c = true)
    (some_digit : digits ++ fraction ≠ []) (stops : Stops Unicode.isDecimalDigit rest) :
    numericPart (digits ++ '.' :: (fraction ++ rest)) =
      digits ++ '.' :: (fraction ++ exponentPart Unicode.isDecimalDigit rest) := by
  obtain ⟨front, behind⟩ := List.forall_mem_append.mp all
  have point : Unicode.isDecimalDigit '.' = false := sparesMarks_isDecimalDigit '.' (by decide)
  obtain ⟨taken, dropped⟩ := stops.span behind
  unfold numericPart
  simp only [takeWhile_point point front, dropWhile_point point front]
  cases digits with
  | nil =>
    rw [List.nil_append] at some_digit
    simp only [taken, dropped, if_neg some_digit]
    cases rest with
    | nil => simp [exponentPart]
    | cons c tail =>
      exact (append_exponentPart Unicode.isDecimalDigit ('.' :: fraction) c tail).symm
  | cons first more =>
    simp only [taken, dropped]
    cases rest with
    | nil => simp [exponentPart]
    | cons c tail =>
      have joined := append_exponentPart Unicode.isDecimalDigit
        (first :: more ++ '.' :: fraction) c tail
      rw [List.append_assoc] at joined
      exact joined.symm

/-- Nothing is taken where no digit stands at the start or behind a point there. -/
theorem numericPart_of_stops (stops : Stops Unicode.isDecimalDigit text)
    (no_fraction : ∀ tail, text = '.' :: tail → Stops Unicode.isDecimalDigit tail) :
    numericPart text = [] := by
  have none : ∀ c ∈ ([] : List Char), Unicode.isDecimalDigit c = true := nofun
  obtain ⟨taken, dropped⟩ := stops.span none
  rw [List.nil_append] at taken dropped
  unfold numericPart
  simp only [taken, dropped]
  cases text with
  | nil => rfl
  | cons c tail =>
    split
    · rename_i point
      obtain ⟨none_behind, _⟩ := (no_fraction _ point).span none
      rw [List.nil_append] at none_behind
      simp [none_behind]
    · rename_i nothing _
      cases nothing
    · simp

theorem longestNumeral_of_digits (all : ∀ c ∈ digits, Unicode.isDecimalDigit c = true)
    (some_digit : digits ≠ []) (stops : Stops Unicode.isDecimalDigit rest)
    (no_point : rest.head? ≠ some '.') :
    LongestNumeral (digits ++ rest) (digits ++ exponentPart Unicode.isDecimalDigit rest) where
  starts := (List.prefix_append_right_inj digits).mpr (exponentPart_starts rest)
  numeral := .whole some_digit all (isExponent_exponentPart rest)
  longest := by
    have spares := sparesMarks_isDecimalDigit
    intro other starts numeral
    cases numeral with
    | whole _ every counted => exact counted_starts spares every counted all stops starts
    | @point before fraction exponent _ every _ =>
      have front := (List.forall_mem_append.mp every).1
      obtain ⟨_, _, here⟩ := eq_of_digits_start (spares '.' (by decide)) front all stops starts
      rw [← here] at no_point
      exact absurd rfl no_point

theorem longestNumeral_of_point (all : ∀ c ∈ digits ++ fraction, Unicode.isDecimalDigit c = true)
    (some_digit : digits ++ fraction ≠ []) (stops : Stops Unicode.isDecimalDigit rest) :
    LongestNumeral (digits ++ '.' :: (fraction ++ rest))
      (digits ++ '.' :: (fraction ++ exponentPart Unicode.isDecimalDigit rest)) where
  starts := by
    refine (List.prefix_append_right_inj digits).mpr ((List.prefix_cons_inj '.').mpr ?_)
    exact (List.prefix_append_right_inj fraction).mpr (exponentPart_starts rest)
  numeral := .point some_digit all (isExponent_exponentPart rest)
  longest := by
    have spares := sparesMarks_isDecimalDigit
    have point := spares '.' (by decide)
    obtain ⟨front, behind⟩ := List.forall_mem_append.mp all
    have stopped : Stops Unicode.isDecimalDigit ('.' :: (fraction ++ rest)) := by
      intro c first
      cases first
      exact point
    intro other starts numeral
    cases numeral with
    | whole _ every counted =>
      have within := counted_starts spares every counted front stopped starts
      have nothing : exponentPart Unicode.isDecimalDigit ('.' :: (fraction ++ rest)) = [] := by
        simp [exponentPart]
      rw [nothing, List.append_nil] at within
      exact within.trans (List.prefix_append digits _)
    | @point before others exponent _ every counted =>
      obtain ⟨early, late⟩ := List.forall_mem_append.mp every
      obtain ⟨rfl, here⟩ := eq_of_digits_start point early front stopped starts
      have further := (List.cons_prefix_cons.mp here).2
      refine (List.prefix_append_right_inj _).mpr ((List.prefix_cons_inj '.').mpr ?_)
      exact counted_starts spares late counted behind stops further

/-- No numeral is at the start where no digit stands there or behind a point there. -/
theorem not_numeral_of_stops {other : List Char} (stops : Stops isDigit text)
    (no_fraction : ∀ tail, text = '.' :: tail → Stops isDigit tail) (starts : other <+: text) :
    ¬ Numeral isDigit other := by
  obtain ⟨more, rfl⟩ := starts
  intro numeral
  obtain ⟨first, others, digit, rfl | rfl⟩ := numeral.begins
  · rw [stops first rfl] at digit
    cases digit
  · rw [no_fraction _ rfl first rfl] at digit
    cases digit

/-- The numeric part of a text is the longest numeral at its start, nothing if there is none. -/
theorem longestNumeral_or_none (text : List Char) :
    LongestNumeral text (numericPart text) ∨
      numericPart text = [] ∧ ∀ other, other <+: text → ¬ Numeral Unicode.isDecimalDigit other := by
  obtain ⟨whole, rest, every, stops, rfl⟩ := exists_span Unicode.isDecimalDigit text
  by_cases pointed : ∃ tail, rest = '.' :: tail
  · obtain ⟨tail, rfl⟩ := pointed
    obtain ⟨fraction, rest, behind, ends, rfl⟩ := exists_span Unicode.isDecimalDigit tail
    have all := List.forall_mem_append.mpr ⟨every, behind⟩
    by_cases nothing : whole ++ fraction = []
    · obtain ⟨rfl, rfl⟩ := List.append_eq_nil_iff.mp nothing
      have no_fraction : ∀ tail, '.' :: rest = '.' :: tail → Stops Unicode.isDecimalDigit tail := by
        rintro _ ⟨⟩
        exact ends
      exact .inr ⟨numericPart_of_stops stops no_fraction,
        fun _ => not_numeral_of_stops stops no_fraction⟩
    · rw [numericPart_of_point all nothing ends]
      exact .inl (longestNumeral_of_point all nothing ends)
  · have no_point : rest.head? ≠ some '.' := fun first =>
      pointed (List.head?_eq_some_iff.mp first)
    by_cases nothing : whole = []
    · subst nothing
      have no_fraction : ∀ tail, rest = '.' :: tail → Stops Unicode.isDecimalDigit tail :=
        fun tail here => absurd ⟨tail, here⟩ pointed
      exact .inr ⟨numericPart_of_stops stops no_fraction,
        fun _ => not_numeral_of_stops stops no_fraction⟩
    · rw [numericPart_of_digits every nothing stops no_point]
      exact .inl (longestNumeral_of_digits every nothing stops no_point)

end Longest

section Reading

variable {text rest : List Char}

theorem takeSign_snd (text : List Char) : (takeSign text).2 = text.drop (signPart text).length := by
  unfold takeSign
  split
  · rfl
  · rfl
  · rename_i minus plus
    cases text with
    | nil => rfl
    | cons c more =>
      have other : (c == '+' || c == '-') = false := by
        rw [Bool.or_eq_false_iff, beq_eq_false_iff_ne, beq_eq_false_iff_ne]
        exact ⟨fun here => plus more (by rw [here]), fun here => minus more (by rw [here])⟩
      simp [signPart, other]

theorem takeSign_append {sign : List Char} (signed : IsSign sign)
    (unsigned : ∀ c ∈ text.head?, c ≠ '+' ∧ c ≠ '-') : (takeSign (sign ++ text)).2 = text := by
  rw [takeSign_snd, signPart_append signed unsigned, List.drop_left]

/-- Exactly complete exponents in ASCII digits are read. -/
theorem readExponent?_isSome_iff (rest : List Char) :
    (readExponent? rest).isSome = true ↔ IsExponent Char.isDigit rest := by
  cases rest with
  | nil => exact ⟨fun _ => .absent, fun _ => rfl⟩
  | cons mark tail =>
    have split := signPart_append_drop tail
    rw [← takeSign_snd] at split
    dsimp only [readExponent?]
    constructor
    · intro read
      split at read
      · rename_i complete
        obtain ⟨marked, some_digit, all⟩ := complete
        rw [← split]
        exact .given marked (isSign_signPart tail) some_digit (List.all_eq_true.mp all)
      · cases read
    · intro counted
      cases counted with
      | @given _ sign digits marked signed some_digit all =>
        have unsigned : ∀ c ∈ digits.head?, c ≠ '+' ∧ c ≠ '-' := by
          intro c first
          obtain ⟨_, _, minus, plus, _⟩ := digit_spec (all c (List.mem_of_mem_head? first))
          exact ⟨plus, minus⟩
        rw [takeSign_append signed unsigned, if_pos ⟨marked, some_digit, List.all_eq_true.mpr all⟩]
        rfl

theorem takeFraction_point (rest : List Char) :
    takeFraction ('.' :: rest) = (rest.takeWhile Char.isDigit, rest.dropWhile Char.isDigit) :=
  rfl

theorem takeFraction_of_no_point (no_point : ∀ tail, rest ≠ '.' :: tail) :
    takeFraction rest = ([], rest) := by
  unfold takeFraction
  split
  · exact absurd rfl (no_point _)
  · rfl

theorem IsExponent.no_point {isDigit : Char → Bool} (counted : IsExponent isDigit rest) :
    ∀ tail, rest ≠ '.' :: tail := by
  rintro tail rfl
  cases counted with
  | given marked _ _ _ => rcases marked with mark | mark <;> cases mark

/-- Exactly the numerals in ASCII digits are read. -/
theorem readNumeral?_isSome_iff (negative : Bool) (text : List Char) :
    (readNumeral? negative text).isSome = true ↔ Numeral Char.isDigit text := by
  have read : ∀ (mantissa rest : List Char) (number : Int → Binary64),
      (if mantissa = [] then none else (readExponent? rest).map number).isSome = true ↔
        mantissa ≠ [] ∧ IsExponent Char.isDigit rest := by
    intro mantissa rest number
    rw [← readExponent?_isSome_iff]
    split <;> simp [*]
  have spares := sparesMarks_isDigit
  unfold readNumeral?
  dsimp only
  rw [read]
  constructor
  · rintro ⟨some_digit, counted⟩
    obtain ⟨whole, rest, every, stops, rfl⟩ := exists_span Char.isDigit text
    rw [(stops.span every).1, (stops.span every).2] at some_digit
    rw [(stops.span every).2] at counted
    by_cases pointed : ∃ tail, rest = '.' :: tail
    · obtain ⟨tail, rfl⟩ := pointed
      rw [takeFraction_point] at some_digit counted
      have all := List.forall_mem_append.mpr
        ⟨every, fun c => List.mem_takeWhile_imp (p := Char.isDigit) (l := tail)⟩
      have numeral := Numeral.point some_digit all counted
      rwa [List.takeWhile_append_dropWhile] at numeral
    · have whole_only := takeFraction_of_no_point fun tail here => pointed ⟨tail, here⟩
      rw [whole_only, List.append_nil] at some_digit
      rw [whole_only] at counted
      exact .whole some_digit every counted
  · intro numeral
    cases numeral with
    | whole some_digit all counted =>
      obtain ⟨taken, dropped⟩ := (counted.stops spares).span all
      rw [taken, dropped, takeFraction_of_no_point counted.no_point, List.append_nil]
      exact ⟨some_digit, counted⟩
    | point some_digit all counted =>
      obtain ⟨front, behind⟩ := List.forall_mem_append.mp all
      obtain ⟨taken, dropped⟩ := (counted.stops spares).span behind
      have point := spares '.' (by decide)
      rw [takeWhile_point point front, dropWhile_point point front, takeFraction_point, taken,
        dropped]
      exact ⟨some_digit, counted⟩

end Reading

end ScopedRouting.Binary64
