import ScopedRouting.Proofs.Path.Rereading
import ScopedRouting.Proofs.Text.Encoding

/-!
# Parsing joined segments

Segments that have neither the separator nor anything to decode are read from their joined text as
they are. Only the relative indicator is taken off, and only if it is first. This holds of every
separator and of every indicator.
-/
namespace ScopedRouting

namespace Path

/-- What a segment has to be like, to be read from a joined text as it is. -/
structure Legible (separator : Char) (segment : String) : Prop where
  nonempty : segment ≠ ""
  closed : separator ∉ segment.toList
  plain : '%' ∉ segment.toList

variable {separator : Char} {indicator : String} {segments : List String}

theorem parse_joinWith_of_legible (legible : ∀ segment ∈ segments, Legible separator segment) :
    parse ⟨separator, indicator⟩ (joinWith separator segments) = ofTokens indicator segments := by
  have decoded : ∀ segment ∈ segments, Percent.decodeOrKeep segment = segment :=
    fun segment member => Percent.decodeOrKeep_of_not_mem (legible segment member).plain
  have found : pieces separator (joinWith separator segments) = segments :=
    pieces_joinWith_of_not_mem (fun segment member => (legible segment member).closed)
      fun segment member => (legible segment member).nonempty
  rw [parse, found, List.map_congr_left decoded, List.map_id']

theorem ofTokens_eq_iff : ofTokens indicator segments = ⟨segments, false⟩ ↔
    segments.head? ≠ some indicator := by
  cases segments with
  | nil => simp [ofTokens]
  | cons first rest =>
    rw [ofTokens]
    split <;> simp_all

theorem ofTokens_indicator : ofTokens indicator (indicator :: segments) = ⟨segments, true⟩ := by
  simp [ofTokens]

end Path

/-- Parsing undoes joining, whatever the separator and the relative indicator are. The segments of a
joined text are those it was joined from, and the path is absolute, exactly if the first of them is
not the indicator. With the indicator in front, the same segments make a relative path. -/
theorem joined_segments_parse {separator : Char} {indicator : String} {segments : List String}
    (legible : ∀ segment ∈ segments, Path.Legible separator segment) :
    (Path.parse ⟨separator, indicator⟩ (Path.joinWith separator segments) = ⟨segments, false⟩ ↔
      segments.head? ≠ some indicator) ∧
    (Path.Legible separator indicator →
      Path.parse ⟨separator, indicator⟩ (Path.joinWith separator (indicator :: segments)) =
        ⟨segments, true⟩) := by
  constructor
  · rw [Path.parse_joinWith_of_legible legible]
    exact Path.ofTokens_eq_iff
  · intro named
    rw [Path.parse_joinWith_of_legible (List.forall_mem_cons.mpr ⟨named, legible⟩)]
    exact Path.ofTokens_indicator

theorem joined_segments_parse_tilde :
    Path.parse ⟨':', "~"⟩ (Path.joinWith ':' ["café", "~"]) = ⟨["café", "~"], false⟩ ∧
    Path.parse ⟨':', "~"⟩ (Path.joinWith ':' ["~", "~", "a/b"]) = ⟨["~", "a/b"], true⟩ := by
  have tilde : Path.Legible ':' "~" := ⟨by decide, by decide, by decide⟩
  have accented : Path.Legible ':' "café" := ⟨by decide, by decide, by decide⟩
  have slashed : Path.Legible ':' "a/b" := ⟨by decide, by decide, by decide⟩
  constructor
  · exact (joined_segments_parse (by simp [accented, tilde])).1.mpr (by decide)
  · exact (joined_segments_parse (by simp [tilde, slashed])).2 tilde

end ScopedRouting
