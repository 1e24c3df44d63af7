import ScopedRouting.Proofs.Text.Utf8
import ScopedRouting.Text.Percent

/-!
# Decoding shrinks

Every escape that is decoded makes a text two bytes shorter. So decoding never makes a text longer,
and it leaves a text alone if it leaves its length alone.
-/
namespace ScopedRouting

/-- The number of bytes of a text. -/
def byteCount (text : String) : Nat :=
  (Utf8.encode text.toList).length

namespace Percent

theorem length_decodeBytes (bytes : List UInt8) :
    (decodeBytes bytes).length < bytes.length ∨ decodeBytes bytes = bytes := by
  induction bytes using decodeBytes.induct with
  | case1 => exact .inr rfl
  | case2 => exact .inr rfl
  | case3 => exact .inr rfl
  | case4 b c rest byte escape ih =>
    rw [decodeBytes, if_pos rfl, escape]
    dsimp only
    rw [List.length_cons, List.length_cons, List.length_cons, List.length_cons]
    rcases ih with shorter | same
    · exact .inl (by omega)
    · rw [same]
      exact .inl (by omega)
  | case5 b c rest plain ih =>
    rw [decodeBytes, if_pos rfl, plain]
    dsimp only
    rcases ih with shorter | same
    · exact .inl (Nat.succ_lt_succ shorter)
    · rw [same]
      exact .inr rfl
  | case6 a b c rest plain ih =>
    rw [decodeBytes, if_neg plain]
    rcases ih with shorter | same
    · exact .inl (Nat.succ_lt_succ shorter)
    · rw [same]
      exact .inr rfl

theorem decodeBytes_ne_nil {bytes : List UInt8} (nonempty : bytes ≠ []) :
    decodeBytes bytes ≠ [] := by
  unfold decodeBytes
  repeat' split
  · exact absurd rfl nonempty
  all_goals exact List.cons_ne_nil _ _

theorem decodeOrKeep_ne_empty {text : String} (nonempty : text ≠ "") :
    decodeOrKeep text ≠ "" := by
  have some_left : text.toList ≠ [] := mt String.toList_eq_nil_iff.mp nonempty
  rw [decodeOrKeep]
  cases read : decode? text with
  | none => exact nonempty
  | some decoded =>
    obtain ⟨chars, bytes, rfl⟩ := Option.map_eq_some_iff.mp read
    intro empty
    have nothing : chars = [] := String.ofList_eq_empty_iff.mp empty
    subst nothing
    exact decodeBytes_ne_nil (Utf8.encode_ne_nil some_left) (Utf8.eq_nil_of_decode? bytes)

theorem byteCount_decodeOrKeep (text : String) :
    byteCount (decodeOrKeep text) < byteCount text ∨ decodeOrKeep text = text := by
  rw [decodeOrKeep, decode?]
  rcases length_decodeBytes (Utf8.encode text.toList) with shorter | same
  · cases read : Utf8.decode? (decodeBytes (Utf8.encode text.toList)) with
    | none => exact .inr rfl
    | some decoded =>
      refine .inl (Nat.lt_of_le_of_lt ?_ shorter)
      change (Utf8.encode (String.ofList decoded).toList).length ≤ _
      rw [String.toList_ofList]
      exact Utf8.length_encode_le read
  · exact .inr (by simp [same])

end Percent

end ScopedRouting
