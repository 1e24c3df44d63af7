import ScopedRouting.Proofs.Path.Rereading

/-!
# Built paths

A path is built of a list of segments, of a text, or of two paths in a row. Each way keeps empty
segments out: given ones are left out, the pieces of a text are not empty and no escape decodes to
nothing, whatever is wrong with it, and two paths in a row have no other segments than they had.
-/
namespace ScopedRouting

namespace Path

/-- How a path is built. -/
inductive Construction where
  | ofSegments (segments : List String) (relative : Bool)
  | parse (options : Options) (text : String)
  | combine (front behind : Construction)

/-- The path that is built. -/
def Construction.path : Construction → Path
  | .ofSegments segments relative => .ofSegments segments relative
  | .parse options text => .parse options text
  | .combine front behind => front.path.combine behind.path

theorem empty_not_mem_ofSegments (segments : List String) (relative : Bool) :
    "" ∉ (ofSegments segments relative).segments := by
  simp [ofSegments]

theorem empty_not_mem_parse (options : Options) (text : String) :
    "" ∉ (parse options text).segments :=
  fun member => nonempty_of_parse "" member rfl

theorem mem_segments_combine {path other : Path} {segment : String} :
    segment ∈ (path.combine other).segments ↔
      segment ∈ path.segments ∨ segment ∈ other.segments :=
  List.mem_append

end Path

/-- A path never holds an empty segment, however it is built: of any list of segments, of any text
with any separator and relative indicator, whatever escapes there are in it, and of any two paths
that have been built in turn. -/
theorem built_path_has_no_empty_segment (construction : Path.Construction) :
    "" ∉ construction.path.segments := by
  induction construction with
  | ofSegments segments relative => exact Path.empty_not_mem_ofSegments segments relative
  | parse options text => exact Path.empty_not_mem_parse options text
  | combine front behind without_front without_behind =>
    intro member
    rcases Path.mem_segments_combine.mp member with first | later
    · exact without_front first
    · exact without_behind later

/-- Escapes that are cut off, have no hexadecimal digits or are no UTF-8 stay as they are. -/
example : (Path.parse {} "./%//%zz/%ff%C3/%2F/%00").segments =
    ["%", "%zz", "%ff%C3", "/", "\x00"] := by
  decide +kernel

end ScopedRouting
