import Mathlib.Data.List.TakeWhile
import ScopedRouting.Template.Clause

/-!
# The form of dynamic segments

A dynamic segment is a name, perhaps with arguments in brackets, perhaps with a question mark and a
default behind it. The name ends at the first opening bracket or question mark, and the arguments
end at the last closing bracket, so that both may hold what would end the other parts. A text has at
most one such form, and what is read from the text is what its form says.
-/
namespace ScopedRouting

namespace Template

/-- The parts that a dynamic segment is written in. A default may be empty. -/
structure Clause.Form where
  name : String
  args : Option String
  default : Option String

namespace Clause.Form

def argsText : Option String → List Char
  | none => []
  | some args => '<' :: args.toList ++ ['>']

def defaultText : Option String → List Char
  | none => []
  | some literal => '?' :: literal.toList

/-- The parts one behind the other. -/
def text (form : Form) : String :=
  String.ofList (form.name.toList ++ (argsText form.args ++ defaultText form.default))

/-- Whether the parts can be told apart. Arguments may hold any characters. -/
structure Sound (form : Form) : Prop where
  name : ∀ c ∈ form.name.toList, c ≠ '<' ∧ c ≠ '>' ∧ c ≠ '?'
  default : form.args ≠ none → ∀ literal ∈ form.default, '>' ∉ literal.toList

/-- What a default says. An empty one only says that the segment is optional. -/
def presence : Option String → Presence
  | none => .required
  | some literal => if literal = "" then .optional else .defaulted literal

/-- What a form says, unless its arguments are at fault. -/
def read (form : Form) : Except Error Clause :=
  match form.args with
  | none => .ok ⟨form.name, .absent, presence form.default⟩
  | some args => (Args.parse args).map fun args => ⟨form.name, args, presence form.default⟩

end Clause.Form

open Clause.Form

theorem splitLast_append {mark : Char} {after : List Char} (before : List Char)
    (absent : mark ∉ after) : splitLast mark (before ++ mark :: after) = some (before, after) := by
  have others : ∀ c ∈ after.reverse, decide (c ≠ mark) = true := by
    intro c member
    refine decide_eq_true fun same => absent ?_
    rw [← same]
    exact List.mem_reverse.mp member
  have backward : (before ++ mark :: after).reverse = after.reverse ++ mark :: before.reverse := by
    simp
  rw [splitLast, backward, List.takeWhile_append_of_pos others,
    List.dropWhile_append_of_pos others]
  simp

theorem splitLast_eq_some_iff {mark : Char} {text before after : List Char} :
    splitLast mark text = some (before, after) ↔
      text = before ++ mark :: after ∧ mark ∉ after := by
  constructor
  · intro h
    by_cases member : mark ∈ text.reverse
    · obtain ⟨last, first, backward, absent⟩ := List.eq_append_cons_of_mem member
      rw [List.reverse_eq_append_iff, List.reverse_cons, List.append_assoc] at backward
      have behind : mark ∉ last.reverse := fun here => absent (List.mem_reverse.mp here)
      rw [backward, List.singleton_append, splitLast_append _ behind] at h
      cases h
      exact ⟨backward, behind⟩
    · have all : text.reverse.dropWhile (· ≠ mark) = [] := by
        rw [List.dropWhile_eq_nil_iff]
        intro c here
        refine decide_eq_true fun same => member ?_
        rw [← same]
        exact here
      rw [splitLast, all] at h
      cases h
  · rintro ⟨rfl, absent⟩
    exact splitLast_append before absent

theorem Presence.read?_eq_some_iff {text : List Char} {presence : Presence} :
    Presence.read? text = some presence ↔
      ∃ default, text = defaultText default ∧ presence = Clause.Form.presence default := by
  constructor
  · intro h
    unfold Presence.read? at h
    split at h
    · cases h
      exact ⟨none, rfl, rfl⟩
    · cases h
      exact ⟨some "", rfl, rfl⟩
    · rename_i literal some_left
      cases h
      refine ⟨some (String.ofList literal), by simp [defaultText], ?_⟩
      have nonempty : String.ofList literal ≠ "" := by
        intro empty
        apply some_left
        simpa using congrArg String.toList empty
      rw [Clause.Form.presence, if_neg nonempty]
    · cases h
  · rintro ⟨default, rfl, rfl⟩
    cases default with
    | none => rfl
    | some literal =>
      by_cases empty : literal = ""
      · rw [empty]
        rfl
      · have some_left : literal.toList ≠ [] := mt String.toList_eq_nil_iff.mp empty
        rw [Clause.Form.presence, if_neg empty, defaultText, Presence.read?, String.ofList_toList]
        exact some_left

theorem Args.fault_of_parse {text : String} {fault : Error}
    (h : Args.parse text = .error fault) : fault = .invalidRange text := by
  unfold Args.parse at h
  dsimp only at h
  split at h
  · cases h
  · split at h
    · cases h
    · split at h
      · split at h
        · cases h
        · exact (Except.error.inj h).symm
      · cases h

namespace Clause

/-- Whether a character belongs to the name where one starts. -/
def isNamePart (c : Char) : Bool :=
  c != '<' && c != '?'

/-- The name is all that is before the first bracket or question mark. -/
theorem takeWhile_isNamePart {name tail : List Char} (inside : ∀ c ∈ name, isNamePart c = true)
    (ends : ∀ c ∈ tail.head?, isNamePart c = false) :
    (name ++ tail).takeWhile isNamePart = name ∧ (name ++ tail).dropWhile isNamePart = tail := by
  rw [List.takeWhile_append_of_pos inside, List.dropWhile_append_of_pos inside]
  cases tail with
  | nil => simp
  | cons c rest => simp [ends c rfl]

namespace Form

variable {form other : Form}

theorem Sound.isNamePart (sound : form.Sound) : ∀ c ∈ form.name.toList, isNamePart c = true := by
  intro c member
  obtain ⟨no_bracket, _, no_mark⟩ := sound.name c member
  simp [Clause.isNamePart, no_bracket, no_mark]

/-- The last closing bracket ends the arguments. -/
theorem Sound.unclosed (sound : form.Sound) {args : String} (written : form.args = some args) :
    '>' ∉ defaultText form.default := by
  cases default : form.default with
  | none => exact List.not_mem_nil
  | some literal =>
    have absent := sound.default (by simp [written]) literal default
    simpa [defaultText] using absent

theorem not_isNamePart_head (form : Form) :
    ∀ c ∈ (argsText form.args ++ defaultText form.default).head?, Clause.isNamePart c = false := by
  intro c head
  cases args : form.args with
  | some text =>
    rw [args] at head
    cases head
    rfl
  | none =>
    rw [args] at head
    cases default : form.default with
    | none =>
      rw [default] at head
      cases head
    | some literal =>
      rw [default] at head
      cases head
      rfl

theorem toList_text (form : Form) :
    form.text.toList = form.name.toList ++ (argsText form.args ++ defaultText form.default) :=
  String.toList_ofList

/-- A text in a form reads as the form says. -/
theorem Sound.parse_text (sound : form.Sound) : Clause.parse form.text = form.read := by
  obtain ⟨name_eq, tail_eq⟩ := takeWhile_isNamePart sound.isNamePart form.not_isNamePart_head
  rw [← toList_text] at name_eq tail_eq
  have balanced : form.name.toList.contains '>' = false := by
    rw [List.contains_eq_mem, decide_eq_false_iff_not]
    exact fun member => (sound.name _ member).2.1 rfl
  have reads : Presence.read? (defaultText form.default) = some (presence form.default) :=
    Presence.read?_eq_some_iff.mpr ⟨form.default, rfl, rfl⟩
  have part : (fun c : Char => c != '<' && c != '?') = Clause.isNamePart := rfl
  simp only [Clause.parse, part, name_eq, tail_eq, balanced, Bool.false_eq_true, if_false]
  cases args : form.args with
  | none =>
    simp only [argsText, List.nil_append, read, args, String.ofList_toList]
    cases default : form.default with
    | none => rfl
    | some literal =>
      rw [default] at reads
      split
      · rename_i bracket
        cases bracket
      · rw [reads]
  | some written =>
    have split := splitLast_append written.toList (sound.unclosed args)
    simp only [argsText, List.cons_append, List.append_assoc, List.nil_append, read, args,
      split, reads, String.ofList_toList]
    rfl

/-- Name and tail of a text make a form if the tail is written as one. -/
theorem exists_form {text : String} {args default : Option String}
    (balanced : '>' ∉ text.toList.takeWhile Clause.isNamePart)
    (tail : text.toList.dropWhile Clause.isNamePart = argsText args ++ defaultText default)
    (unclosed : args ≠ none → ∀ literal ∈ default, '>' ∉ literal.toList) :
    ∃ form : Form, form.Sound ∧ form.text = text := by
  refine ⟨⟨String.ofList (text.toList.takeWhile Clause.isNamePart), args, default⟩,
    ⟨?_, unclosed⟩, ?_⟩
  · intro c member
    rw [String.toList_ofList] at member
    have inside := List.mem_takeWhile_imp member
    simp only [Clause.isNamePart, Bool.and_eq_true, bne_iff_ne, ne_eq] at inside
    refine ⟨inside.1, ?_, inside.2⟩
    rintro rfl
    exact balanced member
  · apply String.toList_injective
    rw [toList_text, String.toList_ofList, ← tail]
    exact List.takeWhile_append_dropWhile

/-- What a text that cannot be read is refused for: its brackets, or what is behind or between
them. -/
def Refused (text : String) (fault : Error) : Prop :=
  fault = .unbalancedArgs text ∨ fault = .unterminatedArgs text ∨
    fault = .trailingCharacters text ∨ ∃ args, fault = .invalidRange args

/-- A text has a form or is refused. -/
theorem form_or_refused {text : String} {result : Except Error Clause}
    (h : Clause.parse text = result) :
    (∃ form : Form, form.Sound ∧ form.text = text) ∨
      ∃ fault, result = .error fault ∧ Refused text fault := by
  have part : (fun c : Char => c != '<' && c != '?') = Clause.isNamePart := rfl
  simp only [Clause.parse, part, List.contains_eq_mem, decide_eq_true_eq] at h
  split at h
  · exact .inr ⟨_, h.symm, .inl rfl⟩
  · rename_i balanced
    split at h
    · rename_i inner tail
      split at h
      · exact .inr ⟨_, h.symm, .inr (.inl rfl)⟩
      · rename_i args rest divided
        obtain ⟨rfl, absent⟩ := splitLast_eq_some_iff.mp divided
        cases reads : Presence.read? rest with
        | none =>
          rw [reads] at h
          cases parsed : Args.parse (String.ofList args) with
          | error fault =>
            rw [parsed] at h
            exact .inr ⟨fault, h.symm, .inr (.inr (.inr ⟨_, Args.fault_of_parse parsed⟩))⟩
          | ok _ =>
            rw [parsed] at h
            exact .inr ⟨_, h.symm, .inr (.inr (.inl rfl))⟩
        | some presence =>
          obtain ⟨default, rfl, _⟩ := Presence.read?_eq_some_iff.mp reads
          have written : text.toList.dropWhile Clause.isNamePart =
              argsText (some (String.ofList args)) ++ defaultText default := by
            simp [argsText, tail]
          refine .inl (exists_form balanced written ?_)
          rintro _ literal rfl
          simpa [defaultText] using absent
    · cases reads : Presence.read? (text.toList.dropWhile Clause.isNamePart) with
      | none =>
        rw [reads] at h
        exact .inr ⟨_, h.symm, .inr (.inr (.inl rfl))⟩
      | some presence =>
        obtain ⟨default, written, _⟩ := Presence.read?_eq_some_iff.mp reads
        have tail : text.toList.dropWhile Clause.isNamePart =
            argsText none ++ defaultText default := written
        exact .inl (exists_form balanced tail nofun)

/-- What is read has a form. -/
theorem exists_form_of_parse {text : String} {clause : Clause}
    (h : Clause.parse text = .ok clause) : ∃ form : Form, form.Sound ∧ form.text = text := by
  rcases form_or_refused h with form | ⟨fault, same, _⟩
  · exact form
  · cases same

theorem refused_of_parse {text : String} {fault : Error}
    (h : Clause.parse text = .error fault) : Refused text fault := by
  rcases form_or_refused h with ⟨form, sound, rfl⟩ | ⟨found, same, refused⟩
  · rw [sound.parse_text, read] at h
    split at h
    · cases h
    · rename_i args _
      cases parsed : Args.parse args with
      | error found =>
        rw [parsed] at h
        cases h
        exact .inr (.inr (.inr ⟨args, Args.fault_of_parse parsed⟩))
      | ok _ =>
        rw [parsed] at h
        cases h
  · cases same
    exact refused

theorem defaultText_injective : Function.Injective defaultText := by
  intro default other same
  cases default with
  | none =>
    cases other with
    | none => rfl
    | some _ => cases same
  | some literal =>
    cases other with
    | none => cases same
    | some word =>
      have chars : literal.toList = word.toList := (List.cons.inj same).2
      rw [String.toList_injective chars]

theorem defaultText_ne_argsText (default : Option String) (args : String) (rest : List Char) :
    defaultText default ≠ argsText (some args) ++ rest := by
  intro same
  cases default with
  | none => cases same
  | some _ => cases (List.cons.inj same).1

/-- What is behind a name has at most one form. -/
theorem Sound.tail_unique (sound : form.Sound) (other_sound : other.Sound)
    (same : argsText form.args ++ defaultText form.default =
      argsText other.args ++ defaultText other.default) :
    form.args = other.args ∧ form.default = other.default := by
  cases args : form.args with
  | none =>
    cases other_args : other.args with
    | none =>
      rw [args, other_args] at same
      exact ⟨rfl, defaultText_injective same⟩
    | some _ =>
      rw [args, other_args] at same
      exact absurd same (defaultText_ne_argsText _ _ _)
  | some written =>
    cases other_args : other.args with
    | none =>
      rw [args, other_args] at same
      exact absurd same.symm (defaultText_ne_argsText _ _ _)
    | some other_written =>
      have split := splitLast_append written.toList (sound.unclosed args)
      have other_split := splitLast_append other_written.toList (other_sound.unclosed other_args)
      rw [args, other_args] at same
      simp only [argsText, List.cons_append, List.append_assoc, List.nil_append,
        List.cons.injEq, true_and] at same
      rw [same, other_split] at split
      simp only [Option.some.injEq, Prod.mk.injEq] at split
      rw [String.toList_injective split.1, defaultText_injective split.2]
      exact ⟨rfl, rfl⟩

theorem Sound.unique (sound : form.Sound) (other_sound : other.Sound)
    (same : form.text = other.text) : form = other := by
  obtain ⟨name, tail⟩ := takeWhile_isNamePart sound.isNamePart form.not_isNamePart_head
  obtain ⟨other_name, other_tail⟩ :=
    takeWhile_isNamePart other_sound.isNamePart other.not_isNamePart_head
  rw [← toList_text] at name tail other_name other_tail
  rw [same] at name tail
  have names := String.toList_injective (name.symm.trans other_name)
  obtain ⟨args, default⟩ := sound.tail_unique other_sound (tail.symm.trans other_tail)
  cases form
  cases other
  cases names
  cases args
  cases default
  rfl

end Form

end Clause

end Template

open Template

/-- What can be read of a dynamic segment is what can be written in a form, whatever stands between
its outer brackets. Its text has no other form, and the segment is what the form says. A text is
refused if it has no form, or if the arguments of its form are at fault. -/
theorem clause_reads_its_form (text : String) :
    (∀ clause, Clause.parse text = .ok clause ↔
      ∃ form : Clause.Form, form.Sound ∧ form.text = text ∧ form.read = .ok clause) ∧
    (∀ form other : Clause.Form, form.Sound → form.text = text → other.Sound → other.text = text →
      form = other) ∧
    ((∃ fault, Clause.parse text = .error fault) ↔
      ∀ form : Clause.Form, form.Sound → form.text = text → ∃ fault, form.read = .error fault) := by
  refine ⟨?_, ?_, ?_⟩
  · intro clause
    constructor
    · intro h
      obtain ⟨form, sound, rfl⟩ := Clause.Form.exists_form_of_parse h
      exact ⟨form, sound, rfl, sound.parse_text.symm.trans h⟩
    · rintro ⟨form, sound, rfl, denotes⟩
      exact sound.parse_text.trans denotes
  · rintro form other sound rfl other_sound same
    exact sound.unique other_sound same.symm
  · constructor
    · rintro ⟨fault, h⟩ form sound rfl
      exact ⟨fault, sound.parse_text.symm.trans h⟩
    · intro faulty
      cases h : Clause.parse text with
      | error fault => exact ⟨fault, rfl⟩
      | ok clause =>
        obtain ⟨form, sound, rfl⟩ := Clause.Form.exists_form_of_parse h
        obtain ⟨fault, denotes⟩ := faulty form sound rfl
        cases (sound.parse_text.symm.trans h).symm.trans denotes

/-- The brackets and question marks of the pattern belong to it. -/
theorem clause_reads_its_form_with_brackets :
    ∃ form : Clause.Form, form.Sound ∧ form.text = "item<^<(a>b)?$>?c<d" ∧
      (∀ other : Clause.Form, other.Sound → other.text = "item<^<(a>b)?$>?c<d" → other = form) ∧
      Clause.parse "item<^<(a>b)?$>?c<d" =
        .ok ⟨"item", .regex "^<(a>b)?$", .defaulted "c<d"⟩ := by
  have parsed : Clause.parse "item<^<(a>b)?$>?c<d" =
      .ok ⟨"item", .regex "^<(a>b)?$", .defaulted "c<d"⟩ := by
    decide
  obtain ⟨reads, unique, _⟩ := clause_reads_its_form "item<^<(a>b)?$>?c<d"
  obtain ⟨form, sound, text, _⟩ := (reads _).mp parsed
  exact ⟨form, sound, text, fun other other_sound same => unique other form other_sound same sound
    text, parsed⟩

end ScopedRouting
