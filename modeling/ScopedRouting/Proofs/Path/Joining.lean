import Mathlib.Data.List.Induction
import ScopedRouting.Path

/-!
# Joined paths

Joining is a homomorphism: the text of two lists of segments is the text of the first with that of
the second behind it, less the separator where they meet. Nothing is assumed of the segments; one
that is trimmed to nothing leaves no trace in either text.
-/
namespace ScopedRouting.Path

/-- What one segment adds to a joined path. -/
def written (separator : Char) (segment : String) : List Char :=
  match trimSeparator separator segment.toList with
  | [] => []
  | trimmed => trimmed ++ [separator]

@[simp]
theorem toList_joinWith (separator : Char) (segments : List String) :
    (joinWith separator segments).toList = separator :: segments.flatMap (written separator) :=
  String.toList_ofList

theorem toList_below (root joined : String) :
    (below root joined).toList = root.toList ++ stripLeading pathSeparator joined.toList := by
  rw [below, String.toList_append, String.toList_ofList]

theorem stripLeading_join (segments : List String) :
    stripLeading pathSeparator (join segments).toList =
      segments.flatMap (written pathSeparator) := by
  rw [join, toList_joinWith]
  rfl

theorem join_append (before after : List String) :
    join (before ++ after) = below (join before) (join after) := by
  apply String.toList_injective
  rw [toList_below, stripLeading_join]
  simp [join]

/-- The text of a prefix continued by the text of what follows it, up to a later place. -/
theorem below_join_slice (tokens : List String) {start stop : Nat} (order : start ≤ stop) :
    below (join (tokens.take start)) (join ((tokens.take stop).drop start)) =
      join (tokens.take stop) := by
  have shorter : tokens.take start = (tokens.take stop).take start := by
    rw [List.take_take, Nat.min_eq_left order]
  rw [shorter, ← join_append, List.take_append_drop]

theorem below_join_drop (tokens : List String) (stop : Nat) :
    below (join (tokens.take stop)) (join (tokens.drop stop)) = join tokens := by
  rw [← join_append, List.take_append_drop]

/-- Whether a text begins and ends with the separator. -/
def Enclosed (text : String) : Prop :=
  text.toList.head? = some pathSeparator ∧ text.toList.getLast? = some pathSeparator

theorem getLast?_written {separator : Char} {segment : String}
    (some_left : written separator segment ≠ []) :
    (written separator segment).getLast? = some separator := by
  unfold written at some_left ⊢
  split
  · rename_i nothing
    rw [nothing] at some_left
    exact False.elim (some_left rfl)
  · exact List.getLast?_concat

theorem getLast?_flatMap_written (separator : Char) (segments : List String) :
    (separator :: segments.flatMap (written separator)).getLast? = some separator := by
  induction segments using List.reverseRecOn with
  | nil => rfl
  | append_singleton front last ih =>
    rw [List.flatMap_append, List.flatMap_singleton, ← List.cons_append]
    by_cases nothing : written separator last = []
    · rw [nothing, List.append_nil]
      exact ih
    · rw [List.getLast?_append, getLast?_written nothing]
      rfl

theorem enclosed_join (segments : List String) : Enclosed (join segments) := by
  rw [Enclosed, join, toList_joinWith]
  exact ⟨rfl, getLast?_flatMap_written pathSeparator segments⟩

end ScopedRouting.Path
