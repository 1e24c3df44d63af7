/-!
# Dictionaries

Finite maps from text keys, as entries in code point order of the keys without a key twice. Two
dictionaries with the same entries are equal, and listing one gives its entries in key order.
-/
namespace ScopedRouting

/-- A finite map with text keys. -/
structure Dictionary (α : Type) where
  entries : List (String × α)
  sorted : entries.Pairwise (·.1 < ·.1)

namespace Dictionary

variable {α : Type}

instance [DecidableEq α] : DecidableEq (Dictionary α) := fun a b =>
  decidable_of_iff (a.entries = b.entries)
    ⟨fun h => by cases a; cases b; simp_all, fun h => h ▸ rfl⟩

def empty : Dictionary α :=
  ⟨[], .nil⟩

instance : Inhabited (Dictionary α) :=
  ⟨empty⟩

/-- The entries with one key set, in key order if they were. -/
def insertEntry (key : String) (value : α) : List (String × α) → List (String × α)
  | [] => [(key, value)]
  | entry :: rest =>
    if key < entry.1 then (key, value) :: entry :: rest
    else if key = entry.1 then (key, value) :: rest
    else entry :: insertEntry key value rest

theorem mem_insertEntry {key : String} {value : α} {entries : List (String × α)}
    {e : String × α} (h : e ∈ insertEntry key value entries) :
    e = (key, value) ∨ e ∈ entries := by
  induction entries with
  | nil => simpa [insertEntry] using h
  | cons entry rest ih =>
    simp only [insertEntry] at h
    split at h
    · simpa using h
    · split at h
      · rcases List.mem_cons.1 h with h | h
        · exact .inl h
        · exact .inr (List.mem_cons_of_mem _ h)
      · rcases List.mem_cons.1 h with h | h
        · exact .inr (h ▸ List.mem_cons_self)
        · rcases ih h with h | h
          · exact .inl h
          · exact .inr (List.mem_cons_of_mem _ h)

theorem pairwise_insertEntry (key : String) (value : α) {entries : List (String × α)}
    (h : entries.Pairwise (·.1 < ·.1)) :
    (insertEntry key value entries).Pairwise (·.1 < ·.1) := by
  induction entries with
  | nil => simp [insertEntry]
  | cons entry rest ih =>
    have ⟨first, others⟩ := List.pairwise_cons.1 h
    simp only [insertEntry]
    split
    · rename_i below
      exact List.pairwise_cons.2 ⟨fun e he => by
        rcases List.mem_cons.1 he with rfl | he
        · exact below
        · exact String.lt_trans below (first e he), h⟩
    · split
      · rename_i same
        subst same
        exact List.pairwise_cons.2 ⟨first, others⟩
      · rename_i notBelow different
        refine List.pairwise_cons.2 ⟨fun e he => ?_, ih others⟩
        rcases mem_insertEntry he with rfl | he
        · exact Decidable.byContradiction fun notAbove =>
            different (String.le_antisymm notAbove notBelow)
        · exact first e he

def insert (dict : Dictionary α) (key : String) (value : α) : Dictionary α :=
  ⟨insertEntry key value dict.entries, pairwise_insertEntry key value dict.sorted⟩

def erase (dict : Dictionary α) (key : String) : Dictionary α :=
  ⟨dict.entries.filter (·.1 ≠ key), dict.sorted.filter _⟩

def get? (dict : Dictionary α) (key : String) : Option α :=
  (dict.entries.find? (·.1 = key)).map (·.2)

/-- The map of a list of pairs, the last pair with a key winning. -/
def ofList (pairs : List (String × α)) : Dictionary α :=
  pairs.foldl (fun dict pair => dict.insert pair.1 pair.2) empty

/-- Both maps together. Where both have a key, the second wins. -/
def overlay (dict other : Dictionary α) : Dictionary α :=
  other.entries.foldl (fun dict entry => dict.insert entry.1 entry.2) dict

def size (dict : Dictionary α) : Nat :=
  dict.entries.length

def isEmpty (dict : Dictionary α) : Bool :=
  dict.entries.isEmpty

@[simp, grind =]
theorem get?_empty (key : String) : (empty : Dictionary α).get? key = none :=
  rfl

theorem find?_insertEntry (key other : String) (value : α) (entries : List (String × α)) :
    (insertEntry key value entries).find? (·.1 = other) =
      if key = other then some (key, value) else entries.find? (·.1 = other) := by
  induction entries with
  | nil => by_cases h : key = other <;> simp [insertEntry, h]
  | cons entry rest ih =>
    simp only [insertEntry]
    split
    · grind
    · split <;> grind

@[simp, grind =]
theorem get?_insert (dict : Dictionary α) (key other : String) (value : α) :
    (dict.insert key value).get? other =
      if key = other then some value else dict.get? other := by
  simp only [get?, insert, find?_insertEntry]
  split <;> rfl

@[simp, grind =]
theorem get?_erase (dict : Dictionary α) (key other : String) :
    (dict.erase key).get? other = if key = other then none else dict.get? other := by
  simp only [get?, erase, List.find?_filter]
  grind

/-- The second map wins on every key that it has. -/
@[simp, grind =]
theorem get?_overlay (dict other : Dictionary α) (key : String) :
    (dict.overlay other).get? key = (other.get? key).or (dict.get? key) := by
  obtain ⟨entries, sorted⟩ := other
  unfold overlay
  dsimp only
  induction entries generalizing dict with
  | nil => rfl
  | cons entry rest ih =>
    have ⟨first, others⟩ := List.pairwise_cons.1 sorted
    rw [List.foldl_cons, ih _ others, get?_insert]
    by_cases h : entry.1 = key
    · subst h
      have absent : rest.find? (·.1 = entry.1) = none := by
        rw [List.find?_eq_none]
        intro e member same
        exact String.lt_irrefl entry.1 (of_decide_eq_true same ▸ first e member)
      simp [get?, absent]
    · simp [get?, h]

theorem mem_entries_iff (dict : Dictionary α) (key : String) (value : α) :
    (key, value) ∈ dict.entries ↔ dict.get? key = some value := by
  obtain ⟨entries, sorted⟩ := dict
  simp only [get?]
  induction entries with
  | nil => simp
  | cons entry rest ih =>
    have ⟨first, others⟩ := List.pairwise_cons.1 sorted
    by_cases h : entry.1 = key
    · subst h
      have absent : (entry.1, value) ∉ rest := fun member =>
        String.lt_irrefl entry.1 (first (entry.1, value) member)
      simp [absent, Prod.ext_iff, eq_comm]
    · have different : (key, value) ≠ entry := fun same => h (same ▸ rfl)
      simpa [h, different] using ih others

theorem nodup_of_sorted {entries : List (String × α)} (h : entries.Pairwise (·.1 < ·.1)) :
    entries.Nodup :=
  h.imp fun {d e} (below : d.1 < e.1) (same : d = e) => String.lt_irrefl e.1 (same ▸ below)

/-- A dictionary is the map that it represents. -/
theorem ext_get? {a b : Dictionary α} (h : ∀ key, a.get? key = b.get? key) : a = b := by
  obtain ⟨entriesA, sortedA⟩ := a
  obtain ⟨entriesB, sortedB⟩ := b
  have same : ∀ e, e ∈ entriesA ↔ e ∈ entriesB := fun ⟨key, value⟩ => by
    rw [mem_entries_iff ⟨entriesA, sortedA⟩, mem_entries_iff ⟨entriesB, sortedB⟩, h]
  have perm : entriesA.Perm entriesB :=
    (List.perm_ext_iff_of_nodup (nodup_of_sorted sortedA)
      (nodup_of_sorted sortedB)).2 same
  congr 1
  exact perm.eq_of_pairwise (fun _ _ _ _ up down => (String.lt_asymm up down).elim) sortedA sortedB

end Dictionary

end ScopedRouting
