import ScopedRouting.Dictionary

/-!
# Dictionaries of pairs

What a dictionary that is made of a list of pairs has for a key is the last of its pairs. So the
pairs of two lists in a row make the first dictionary with the second laid over it, and laying
dictionaries over each other is associative.
-/
namespace ScopedRouting.Dictionary

variable {α : Type}

theorem get?_foldl_insert (dict : Dictionary α) (pairs : List (String × α)) (key : String) :
    (pairs.foldl (fun dict pair => dict.insert pair.1 pair.2) dict).get? key =
      (pairs.reverse.lookup key).or (dict.get? key) := by
  induction pairs generalizing dict with
  | nil => rfl
  | cons first rest ih =>
    obtain ⟨name, value⟩ := first
    by_cases same : name = key
    · simp [ih, List.lookup_append, same]
    · have other : (key == name) = false := beq_eq_false_iff_ne.mpr (Ne.symm same)
      simp [ih, List.lookup_append, List.lookup_cons, same, other]

/-- The last pair with a key decides. -/
@[simp]
theorem get?_ofList (pairs : List (String × α)) (key : String) :
    (ofList pairs).get? key = pairs.reverse.lookup key := by
  simp [ofList, get?_foldl_insert]

theorem ofList_append (a b : List (String × α)) :
    ofList (a ++ b) = (ofList a).overlay (ofList b) := by
  apply ext_get?
  intro key
  simp [List.lookup_append]

@[simp]
theorem empty_overlay (dict : Dictionary α) : empty.overlay dict = dict := by
  apply ext_get?
  simp

@[simp]
theorem overlay_empty (dict : Dictionary α) : dict.overlay empty = dict :=
  rfl

theorem overlay_assoc (a b c : Dictionary α) :
    (a.overlay b).overlay c = a.overlay (b.overlay c) := by
  apply ext_get?
  simp [Option.or_assoc]

/-- A dictionary is made of its entries. -/
theorem ofList_entries (dict : Dictionary α) : ofList dict.entries = dict :=
  empty_overlay dict

end ScopedRouting.Dictionary
