import Mathlib.Order.Lattice
import Mathlib.Data.List.Basic

/-!
Finite maps as sorted lists of entries, one for each key. A map is determined by
what it gives for the keys, so that maps built in different ways are compared by
their lookups alone.
-/
namespace InviteSystem.SortedMaps
universe u v

section
variable {κ : Type u} {ν : Type v} [LinearOrder κ]

variable (κ ν) in
structure SortedMap where
  entries : List (κ × ν)
  sorted : entries.Pairwise (fun first second => first.1 < second.1)

/-- The entry goes to its place, or takes that of the entry with its key. -/
def insertEntry (key : κ) (value : ν) : List (κ × ν) → List (κ × ν)
  | [] => [(key, value)]
  | entry :: rest =>
    if key < entry.1 then (key, value) :: entry :: rest
    else if key = entry.1 then (key, value) :: rest
    else entry :: insertEntry key value rest

theorem mem_insertEntry {key : κ} {value : ν} {entries : List (κ × ν)} {entry : κ × ν}
    (member : entry ∈ insertEntry key value entries) : entry = (key, value) ∨ entry ∈ entries := by
  induction entries with
  | nil => exact .inl (List.mem_singleton.mp member)
  | cons head rest ih =>
    unfold insertEntry at member
    split at member
    · rcases List.mem_cons.mp member with same | old
      · exact .inl same
      · exact .inr old
    · split at member
      · rcases List.mem_cons.mp member with same | old
        · exact .inl same
        · exact .inr (List.mem_cons_of_mem _ old)
      · rcases List.mem_cons.mp member with rfl | later
        · exact .inr List.mem_cons_self
        · rcases ih later with same | old
          · exact .inl same
          · exact .inr (List.mem_cons_of_mem _ old)

theorem insertEntry_sorted (key : κ) (value : ν) {entries : List (κ × ν)}
    (sorted : entries.Pairwise (fun first second => first.1 < second.1)) :
    (insertEntry key value entries).Pairwise (fun first second => first.1 < second.1) := by
  induction entries with
  | nil => exact List.pairwise_singleton _ _
  | cons head rest ih =>
    obtain ⟨least, tail⟩ := List.pairwise_cons.mp sorted
    unfold insertEntry
    split
    · next less =>
      refine List.pairwise_cons.mpr ⟨?_, sorted⟩
      intro entry member
      rcases List.mem_cons.mp member with rfl | later
      · exact less
      · exact lt_trans less (least entry later)
    · split
      · next same =>
        refine List.pairwise_cons.mpr ⟨?_, tail⟩
        rw [same]
        exact least
      · next notLess other =>
        refine List.pairwise_cons.mpr ⟨?_, ih tail⟩
        intro entry member
        rcases mem_insertEntry member with rfl | old
        · exact lt_of_le_of_ne (not_lt.mp notLess) (Ne.symm other)
        · exact least entry old

def SortedMap.empty : SortedMap κ ν := ⟨[], List.Pairwise.nil⟩

def SortedMap.insert (map : SortedMap κ ν) (key : κ) (value : ν) : SortedMap κ ν :=
  ⟨insertEntry key value map.entries, insertEntry_sorted key value map.sorted⟩

def SortedMap.get (map : SortedMap κ ν) (key : κ) : Option ν := map.entries.lookup key

/-- The map without the entry of a key. -/
def SortedMap.without (map : SortedMap κ ν) (key : κ) : SortedMap κ ν :=
  ⟨map.entries.filter (fun entry => entry.1 ≠ key), map.sorted.sublist List.filter_sublist⟩

theorem lookup_cons (entry : κ × ν) (rest : List (κ × ν)) (key : κ) :
    (entry :: rest).lookup key = if key = entry.1 then some entry.2 else rest.lookup key := by
  rw [List.lookup_cons]
  by_cases same : key = entry.1
  · simp [same]
  · rw [beq_false_of_ne same, if_neg same]

theorem get_insert (map : SortedMap κ ν) (key other : κ) (value : ν) :
    (map.insert key value).get other = if other = key then some value else map.get other := by
  unfold SortedMap.get SortedMap.insert
  dsimp only
  induction map.entries with
  | nil => exact lookup_cons _ _ _
  | cons entry rest ih =>
    unfold insertEntry
    by_cases less : key < entry.1
    · rw [if_pos less, lookup_cons]
    · by_cases hit : key = entry.1
      · rw [if_neg less, if_pos hit, lookup_cons, lookup_cons, ← hit]
        by_cases same : other = key <;> simp [same]
      · rw [if_neg less, if_neg hit, lookup_cons, lookup_cons, ih]
        by_cases same : other = entry.1
        · simp [same, Ne.symm hit]
        · simp [same]

theorem get_without (map : SortedMap κ ν) (key other : κ) :
    (map.without key).get other = if other = key then none else map.get other := by
  unfold SortedMap.get SortedMap.without
  dsimp only
  induction map.entries with
  | nil => simp
  | cons entry rest ih =>
    rw [List.filter_cons, lookup_cons]
    by_cases dropped : entry.1 = key
    · rw [if_neg (by simp [dropped]), ih, dropped]
      by_cases same : other = key <;> simp [same]
    · rw [if_pos (by simp [dropped]), lookup_cons, ih]
      by_cases same : other = entry.1
      · simp [same, dropped]
      · simp [same]

theorem get_eq_some {map : SortedMap κ ν} {key : κ} {value : ν} :
    map.get key = some value ↔ (key, value) ∈ map.entries := by
  obtain ⟨entries, sorted⟩ := map
  unfold SortedMap.get
  dsimp only
  induction entries with
  | nil => simp
  | cons entry rest ih =>
    obtain ⟨least, tail⟩ := List.pairwise_cons.mp sorted
    rw [lookup_cons, List.mem_cons, Prod.ext_iff]
    by_cases same : key = entry.1
    · have later : (key, value) ∉ rest := by
        intro member
        have less := least _ member
        rw [same] at less
        exact lt_irrefl _ less
      rw [if_pos same]
      constructor
      · rintro ⟨rfl⟩
        exact .inl ⟨same, rfl⟩
      · rintro (⟨_, rfl⟩ | member)
        · rfl
        · exact absurd member later
    · simp [same, ih tail]

/-- Maps that give the same for every key are equal. -/
theorem SortedMap.ext_get {map map' : SortedMap κ ν} (same : ∀ key, map.get key = map'.get key) : map = map' := by
  have distinct (map : SortedMap κ ν) : map.entries.Nodup :=
    map.sorted.imp fun less equal => by rw [equal] at less; exact lt_irrefl _ less
  have perm : map.entries.Perm map'.entries := by
    refine (List.perm_ext_iff_of_nodup (distinct map) (distinct map')).mpr fun entry => ?_
    obtain ⟨key, value⟩ := entry
    rw [← get_eq_some, ← get_eq_some, same]
  have equal : map.entries = map'.entries := by
    refine perm.eq_of_pairwise ?_ map.sorted map'.sorted
    intro entry entry' _ _ less greater
    exact absurd (lt_trans less greater) (lt_irrefl _)
  cases map
  cases map'
  cases equal
  rfl

end
end InviteSystem.SortedMaps
