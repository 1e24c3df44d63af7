import ScopedRouting.Url.Reader

/-!
# Names of hosts

A label of ASCII letters is good, since no mark is an ASCII character. So the base that URLs have by
default is read as a URL.
-/
namespace ScopedRouting.Url

open Unicode

/-- Whether ranges of code points begin beyond ASCII. -/
def BeyondAscii (ranges : Ranges) : Prop :=
  ∀ range ∈ ranges, 0x80 ≤ range.1

/-- The ranges of a category, from the characters of their text. -/
theorem beyondAscii_category {short : String} (category : Category) {chars : List Char}
    (other : short ≠ "nd") (found : categories.find? (·.names.contains short) = some category)
    (written : category.ranges = String.ofList chars)
    (each : (((chars.splitOnP fun c => c == ' ' || c == '\n').filter (· ≠ [])).map
      Ranges.readRange).all (0x80 ≤ ·.1) = true) : BeyondAscii (categoryRanges short) := by
  intro range member
  rw [categoryRanges, if_neg other, found] at member
  dsimp only at member
  rw [Ranges.read, written, String.toList_ofList] at member
  exact of_decide_eq_true (List.all_eq_true.mp each range member)

-- The texts are long, and reading them goes as deep as they have characters.
set_option maxRecDepth 20000 in
theorem beyondAscii_marks : BeyondAscii markRanges := by
  have nonspacing : BeyondAscii (categoryRanges "mn") :=
    beyondAscii_category (categories.get ⟨5, by decide⟩) (by decide) rfl rfl (by decide +kernel)
  have spacing : BeyondAscii (categoryRanges "mc") :=
    beyondAscii_category (categories.get ⟨6, by decide⟩) (by decide) rfl rfl (by decide +kernel)
  have enclosing : BeyondAscii (categoryRanges "me") :=
    beyondAscii_category (categories.get ⟨7, by decide⟩) (by decide) rfl rfl (by decide +kernel)
  intro range member
  obtain ⟨short, listed, inside⟩ := List.mem_flatMap.mp member
  simp only [List.mem_cons, List.not_mem_nil, or_false] at listed
  rcases listed with rfl | rfl | rfl
  · exact nonspacing range inside
  · exact spacing range inside
  · exact enclosing range inside

theorem isLabel_of_ascii {label : List Nat} (ascii : ∀ n ∈ label, n < 0x80) :
    isLabel label = true := by
  have good : label.all (fun n => n < 0x80 || !badNameRanges.contains n) = true := by
    refine List.all_eq_true.mpr fun n member => ?_
    simp [ascii n member]
  cases label with
  | nil => rfl
  | cons first rest =>
    have small := ascii first List.mem_cons_self
    have unmarked : markRanges.contains first = false := by
      refine List.any_eq_false.mpr fun range member inside => ?_
      have bound := beyondAscii_marks range member
      simp only [Bool.and_eq_true, decide_eq_true_eq] at inside
      omega
    simp only [isLabel, good, unmarked, Bool.not_false, Bool.and_true]

/-- A label of ASCII characters is good unless it says that it stands for another. -/
theorem isGoodLabel_of_ascii {label : List Char} (ascii : ∀ c ∈ label, c.toNat < 0x80)
    (own : label.take 4 ≠ "xn--".toList) : isGoodLabel label = true := by
  unfold isGoodLabel
  split
  · exact absurd rfl own
  · refine isLabel_of_ascii fun n member => ?_
    obtain ⟨c, listed, rfl⟩ := List.mem_map.mp member
    exact ascii c listed

theorem readName?_of_good {text decoded name : List Char}
    (read : Utf8.decode? (Percent.decodeBytes (Utf8.encode text)) = some decoded)
    (mapped : decoded.flatMap mapNameChar = name) (nonempty : name ≠ [])
    (labels : (name.splitOn '.').all isGoodLabel = true)
    (allowed : name.any isForbiddenInName = false)
    (number : Address.endsInNumber name = false) : readName? text = some name := by
  simp only [readName?, read, Option.bind_eq_bind, Option.bind_some, mapped]
  rw [if_pos]
  refine ⟨nonempty, labels, by rw [allowed]; rfl, fun ends => ?_⟩
  rw [number] at ends
  cases ends

theorem skipAuthority?_of_host {text host rest name : List Char}
    (credentials : skipCredentials? true text = some (false, text))
    (split : takeHost true false text = (host, '/' :: rest)) (nonempty : host ≠ [])
    (read : readHost? true host = some name) : skipAuthority? true text = some ('/' :: rest) := by
  simp only [skipAuthority?, credentials, split, read, Option.bind_eq_bind, Option.bind_some]
  rw [if_neg fun empty => nonempty empty.1]
  rfl

theorem readHost?_localhost : readHost? true "localhost".toList = some "localhost".toList := by
  have read : Utf8.decode? (Percent.decodeBytes (Utf8.encode "localhost".toList)) =
      some "localhost".toList := by
    decide +kernel
  have labels : ("localhost".toList.splitOn '.').all isGoodLabel = true := by
    have single : "localhost".toList.splitOn '.' = ["localhost".toList] := by
      decide
    have ascii : "localhost".toList.all (·.toNat < 0x80) = true := by
      decide
    have good : isGoodLabel "localhost".toList = true :=
      isGoodLabel_of_ascii (fun c member => of_decide_eq_true (List.all_eq_true.mp ascii c member))
        (by decide)
    rw [single, List.all_cons, good]
    rfl
  have name : readName? "localhost".toList = some "localhost".toList :=
    readName?_of_good read (by decide) (by decide) labels (by decide)
      (by decide)
  have first : "localhost".toList.head? = some 'l' := by decide
  unfold readHost?
  split
  · rename_i same
    rw [same] at first
    cases first
  · rw [if_pos rfl, name]

/-- A URL at the local host is read from the slash behind the host. -/
theorem readAbsolute?_localhost {text : String} {rest : List Char}
    (scheme : splitScheme? (clean text) =
      some ("http", '/' :: '/' :: ("localhost".toList ++ '/' :: rest))) :
    readAbsolute? (clean text) =
      some (some (ofPath "http" (pathAfterHost .special ('/' :: rest)))) := by
  have credentials : skipCredentials? true ("localhost".toList ++ '/' :: rest) =
      some (false, "localhost".toList ++ '/' :: rest) := rfl
  have host : takeHost true false ("localhost".toList ++ '/' :: rest) =
      ("localhost".toList, '/' :: rest) := rfl
  have authority : skipAuthority? true ("localhost".toList ++ '/' :: rest) = some ('/' :: rest) :=
    skipAuthority?_of_host credentials host (by decide) readHost?_localhost
  have kind : SchemeKind.ofScheme "http" = .special := by decide
  have slashes : ('/' :: '/' :: ("localhost".toList ++ '/' :: rest)).dropWhile isSlash =
      "localhost".toList ++ '/' :: rest := rfl
  have special : SchemeKind.special.isSpecial = true := rfl
  rw [readAbsolute?, scheme, Option.map_some]
  simp only [kind, readAfterSlashes?, slashes, special, authority, Option.bind_eq_bind,
    Option.bind_some]
  rfl

/-- The base of URLs without a host is read as one. -/
theorem readAbsolute?_default :
    readAbsolute? (clean "http://localhost/") = some (some ⟨"http", true, ['/'], none⟩) := by
  have scheme : splitScheme? (clean "http://localhost/") =
      some ("http", '/' :: '/' :: ("localhost".toList ++ ['/'])) := by
    decide
  have path : ofPath "http" (pathAfterHost .special ['/']) = ⟨"http", true, ['/'], none⟩ := by
    rfl
  rw [readAbsolute?_localhost scheme, path]

end ScopedRouting.Url
