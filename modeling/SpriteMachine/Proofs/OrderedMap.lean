import Mathlib.Algebra.GroupWithZero.Nat
import Mathlib.Data.List.Flatten
import Mathlib.Data.List.Nodup
import Mathlib.Data.List.Perm.Basic
import SpriteMachine.OrderedMap

/-!
# What a map holds

A map is used through `find?` alone: each operation changes what is found under
the keys it names and nothing else. The entries, keys and values of a map are
those that can be found.

Where every value holds a list of items, one change of the map changes the number of an
item by what the changed value holds. A sum over all values is one value's part and that of
the map without it.
-/

namespace SpriteMachine.OrderedMap

variable {κ β γ : Type} [DecidableEq κ]

/-- Among entries with distinct keys the first one with a key is the only one. -/
theorem find_entry (entries : List (κ × β)) (distinct : (entries.map Prod.fst).Nodup)
    (key : κ) (value : β) :
    (entries.find? fun entry => entry.1 = key).map Prod.snd = some value ↔
      (key, value) ∈ entries := by
  induction entries with
  | nil => simp
  | cons first rest inductionHypothesis =>
    obtain ⟨other, kept⟩ := first
    rw [List.map_cons, List.nodup_cons] at distinct
    by_cases same : other = key
    · subst same
      have absent : (other, value) ∉ rest := fun member =>
        distinct.1 (List.mem_map.mpr ⟨_, member, rfl⟩)
      simp [absent, eq_comm]
    · have different : (key, value) ≠ (other, kept) := fun equal =>
        same (Prod.mk.inj equal).1.symm
      rw [List.find?_cons_of_neg (by simpa using same), List.mem_cons,
        inductionHypothesis distinct.2]
      simp [different]

/-- What is found under a key is exactly what stands there. -/
theorem mem_entries_iff {map : OrderedMap κ β} {key : κ} {value : β} :
    (key, value) ∈ map.entries ↔ map.find? key = some value :=
  (find_entry map.entries map.distinct key value).symm

/-- A map is determined by what is found in it. -/
theorem find_eq_of_iff {left right : Option β}
    (same : ∀ value, left = some value ↔ right = some value) : left = right := by
  cases left with
  | some value => exact ((same value).mp rfl).symm
  | none =>
    cases right with
    | none => rfl
    | some value => exact (same value).mpr rfl

/-- Nothing is found in the empty map. -/
@[simp]
theorem find_empty (key : κ) : (empty : OrderedMap κ β).find? key = none := rfl

/-- A key is set when something is found under it. -/
theorem contains_eq_isSome (map : OrderedMap κ β) (key : κ) :
    map.contains key = (map.find? key).isSome := by
  rw [Bool.eq_iff_iff, contains_eq_true, Option.isSome_iff_exists]
  constructor
  · intro member
    obtain ⟨entry, inside, rfl⟩ := List.mem_map.mp member
    exact ⟨entry.2, mem_entries_iff.mp inside⟩
  · rintro ⟨value, found⟩
    exact List.mem_map.mpr ⟨_, mem_entries_iff.mpr found, rfl⟩

/-- The keys of a map are those under which something is found. -/
theorem mem_keys_iff {map : OrderedMap κ β} {key : κ} :
    key ∈ map.keys ↔ ∃ value, map.find? key = some value := by
  rw [← contains_eq_true, contains_eq_isSome, Option.isSome_iff_exists]

/-- A map in which something is found has an entry. -/
theorem isEmpty_of_find {map : OrderedMap κ β} {key : κ} {value : β}
    (found : map.find? key = some value) : map.isEmpty = false :=
  List.isEmpty_eq_false_iff.mpr (List.ne_nil_of_mem (mem_entries_iff.mpr found))

omit [DecidableEq κ] in
/-- Nothing passes a test where there is nothing. -/
theorem isEmpty_filter {map : OrderedMap κ β} (empty : map.isEmpty = true)
    (keep : κ → β → Bool) : (map.filter keep).isEmpty = true := by
  have none : map.entries = [] := List.isEmpty_iff.mp empty
  simp [isEmpty, filter, none]

/-- The values of a map are those that are found under some key. -/
theorem mem_values_iff {map : OrderedMap κ β} {value : β} :
    value ∈ map.values ↔ ∃ key, map.find? key = some value := by
  constructor
  · intro member
    obtain ⟨entry, inside, rfl⟩ := List.mem_map.mp member
    exact ⟨entry.1, mem_entries_iff.mp inside⟩
  · rintro ⟨key, found⟩
    exact List.mem_map.mpr ⟨_, mem_entries_iff.mpr found, rfl⟩

omit [DecidableEq κ] in
/-- The entries behind a mapping come from entries before it. -/
theorem mem_mapEntries {map : OrderedMap κ β} {f : κ → β → γ} {key : κ} {value : γ} :
    (key, value) ∈ (map.mapEntries f).entries ↔
      ∃ kept, (key, kept) ∈ map.entries ∧ f key kept = value := by
  constructor
  · intro member
    obtain ⟨entry, inside, equal⟩ := List.mem_map.mp member
    obtain ⟨rfl, rfl⟩ := Prod.mk.inj equal
    exact ⟨entry.2, inside, rfl⟩
  · rintro ⟨kept, inside, rfl⟩
    exact List.mem_map.mpr ⟨_, inside, rfl⟩

/-- Changing a value changes what is found under its key only. -/
@[simp]
theorem find_modify (map : OrderedMap κ β) (key other : κ) (change : β → β) :
    (map.modify key change).find? other =
      if other = key then (map.find? other).map change else map.find? other := by
  apply find_eq_of_iff
  intro value
  rw [← mem_entries_iff, modify, mem_mapEntries]
  by_cases same : other = key <;> simp [same, mem_entries_iff]

/-- Setting a key changes what is found under it only. -/
@[simp]
theorem find_insert (map : OrderedMap κ β) (key other : κ) (value : β) :
    (map.insert key value).find? other =
      if other = key then some value else map.find? other := by
  apply find_eq_of_iff
  intro found
  rw [← mem_entries_iff, insert]
  split
  case isTrue present =>
    rw [contains_eq_isSome, Option.isSome_iff_exists] at present
    obtain ⟨kept, present⟩ := present
    rw [mem_mapEntries]
    by_cases same : other = key
    · simp [same, mem_entries_iff, present]
    · simp [same, mem_entries_iff]
  case isFalse absent =>
    rw [contains_eq_isSome] at absent
    have absent : map.find? key = none := by simpa using absent
    rw [List.mem_append, mem_entries_iff]
    by_cases same : other = key
    · simp [same, absent, eq_comm]
    · simp [same]

/-- Filtering keeps what passes and finds nothing else. -/
@[simp]
theorem find_filter (map : OrderedMap κ β) (keep : κ → β → Bool) (key : κ) :
    (map.filter keep).find? key = (map.find? key).filter (keep key) := by
  apply find_eq_of_iff
  intro value
  rw [← mem_entries_iff, filter, List.mem_filter, mem_entries_iff, Option.filter_eq_some_iff]

/-- Behind an erasure nothing is found under the key, and all else as before. -/
@[simp]
theorem find_erase (map : OrderedMap κ β) (key other : κ) :
    (map.erase key).find? other = if other = key then none else map.find? other := by
  rw [erase, find_filter]
  by_cases same : other = key <;> cases map.find? other <;> simp [same]

/-- Setting further entries leaves other keys alone. -/
theorem find_insertAll_of_not_mem (entries : List (κ × β)) (map : OrderedMap κ β) (key : κ)
    (absent : key ∉ entries.map Prod.fst) : (map.insertAll entries).find? key = map.find? key := by
  induction entries generalizing map with
  | nil => rfl
  | cons first rest inductionHypothesis =>
    rw [List.map_cons, List.mem_cons, not_or] at absent
    change ((map.insert first.1 first.2).insertAll rest).find? key = map.find? key
    rw [inductionHypothesis _ absent.2, find_insert, if_neg absent.1]

/-- What is found after setting entries is one of them, or was there before under a
key that none of them has. -/
theorem find_insertAll_cases (entries : List (κ × β)) (map : OrderedMap κ β) (key : κ)
    (value : β) (found : (map.insertAll entries).find? key = some value) :
    (key, value) ∈ entries ∨ key ∉ entries.map Prod.fst ∧ map.find? key = some value := by
  induction entries generalizing map with
  | nil => exact Or.inr ⟨List.not_mem_nil, found⟩
  | cons first rest inductionHypothesis =>
    change ((map.insert first.1 first.2).insertAll rest).find? key = some value at found
    rcases inductionHypothesis _ found with member | ⟨absent, kept⟩
    · exact Or.inl (List.mem_cons_of_mem _ member)
    · rw [find_insert] at kept
      split at kept
      case isTrue same =>
        have equal : first.2 = value := Option.some.inj kept
        exact Or.inl (by rw [same, ← equal]; exact List.mem_cons_self)
      case isFalse different =>
        refine Or.inr ⟨?_, kept⟩
        rw [List.map_cons, List.mem_cons, not_or]
        exact ⟨different, absent⟩

/-- Every key that is set one after another is set in the end. -/
theorem contains_insertAll {entries : List (κ × β)} {key : κ} (map : OrderedMap κ β)
    (member : key ∈ entries.map Prod.fst) : (map.insertAll entries).contains key = true := by
  induction entries generalizing map with
  | nil => cases member
  | cons first rest inductionHypothesis =>
    change ((map.insert first.1 first.2).insertAll rest).contains key = true
    by_cases later : key ∈ rest.map Prod.fst
    · exact inductionHypothesis _ later
    · have same : key = first.1 := by
        rw [List.map_cons, List.mem_cons] at member
        exact member.resolve_right later
      rw [contains_eq_isSome, find_insertAll_of_not_mem rest _ key later, find_insert,
        if_pos same, Option.isSome_some]

/-- What was set before stays set. -/
theorem contains_insertAll_of_contains {map : OrderedMap κ β} {key : κ}
    (entries : List (κ × β)) (present : map.contains key = true) :
    (map.insertAll entries).contains key = true := by
  by_cases member : key ∈ entries.map Prod.fst
  · exact contains_insertAll map member
  · rw [contains_eq_isSome, find_insertAll_of_not_mem entries map key member,
      ← contains_eq_isSome]
    exact present

/-- An entry is found when it was set one after another with others of other keys. -/
theorem find_insertAll_of_mem {entries : List (κ × β)} (distinct : (entries.map Prod.fst).Nodup)
    {key : κ} {value : β} (map : OrderedMap κ β) (member : (key, value) ∈ entries) :
    (map.insertAll entries).find? key = some value := by
  have named : key ∈ entries.map Prod.fst := List.mem_map.mpr ⟨_, member, rfl⟩
  have present := contains_insertAll map named
  rw [contains_eq_isSome, Option.isSome_iff_exists] at present
  obtain ⟨other, found⟩ := present
  rcases find_insertAll_cases entries map key other found with inside | ⟨absent, -⟩
  · have first := (find_entry entries distinct key other).mpr inside
    have second := (find_entry entries distinct key value).mpr member
    rw [found, ← first, second]
  · exact absurd named absent

/-- A map of a list with distinct keys has the entries of the list. -/
theorem find_ofList {entries : List (κ × β)} (distinct : (entries.map Prod.fst).Nodup) {key : κ}
    {value : β} : (ofList entries).find? key = some value ↔ (key, value) ∈ entries := by
  refine ⟨fun found => ?_, find_insertAll_of_mem distinct empty⟩
  rcases find_insertAll_cases entries empty key value found with member | ⟨-, none⟩
  · exact member
  · cases none

omit [DecidableEq κ] in
/-- Maps with the same entries are the same. -/
theorem eq_of_entries {left right : OrderedMap κ β} (same : left.entries = right.entries) :
    left = right := by
  cases left
  cases right
  cases same
  rfl

omit [DecidableEq κ] in
/-- Mapping keeps the order of the entries. -/
theorem entries_mapEntries (map : OrderedMap κ β) (f : κ → β → γ) :
    (map.mapEntries f).entries = map.entries.map fun entry => (entry.1, f entry.1 entry.2) := rfl

omit [DecidableEq κ] in
/-- A map of which no value changes stays the same. -/
theorem mapEntries_eq_self {map : OrderedMap κ β} {change : β → β} :
    (map.mapEntries fun _ value => change value) = map ↔
      ∀ value ∈ map.values, change value = value := by
  have same : (map.mapEntries fun _ value => change value) = map ↔
      map.entries.map (fun entry => (entry.1, change entry.2)) = map.entries.map id := by
    rw [List.map_id]
    exact ⟨fun equal => congrArg OrderedMap.entries equal, fun equal => eq_of_entries equal⟩
  rw [same, List.map_inj_left, values, List.forall_mem_map]
  exact forall₂_congr fun entry _ =>
    ⟨fun equal => congrArg Prod.snd equal, fun equal => Prod.ext rfl equal⟩

omit [DecidableEq κ] in
/-- Mapping keeps the keys. -/
@[simp]
theorem keys_mapEntries (map : OrderedMap κ β) (f : κ → β → γ) :
    (map.mapEntries f).keys = map.keys := by
  simp [keys, mapEntries]

/-- Behind a mapping the mapped value is found. -/
theorem find_mapEntries (map : OrderedMap κ β) (f : κ → β → γ) (key : κ) :
    (map.mapEntries f).find? key = (map.find? key).map (f key) := by
  apply find_eq_of_iff
  intro value
  rw [← mem_entries_iff, mem_mapEntries, Option.map_eq_some_iff]
  simp only [mem_entries_iff]

/-- Modifying a value keeps the keys. -/
@[simp]
theorem keys_modify (map : OrderedMap κ β) (key : κ) (change : β → β) :
    (map.modify key change).keys = map.keys :=
  keys_mapEntries map _

/-- Nothing goes where nothing is found. -/
theorem erase_eq_self {map : OrderedMap κ β} {key : κ} (absent : map.find? key = none) :
    map.erase key = map := by
  apply eq_of_entries
  refine List.filter_eq_self.mpr fun entry member => decide_eq_true ?_
  rintro rfl
  rw [mem_entries_iff.mp member] at absent
  cases absent

/-- A key that is not set yet is set behind the others. -/
theorem entries_insert_of_absent {map : OrderedMap κ β} {key : κ} (absent : key ∉ map.keys)
    (value : β) : (map.insert key value).entries = map.entries ++ [(key, value)] := by
  rw [insert, dif_neg fun present => absent (contains_eq_true.mp present)]

/-- A new key comes last. -/
theorem keys_insert_of_absent {map : OrderedMap κ β} {key : κ} (absent : key ∉ map.keys)
    (value : β) : (map.insert key value).keys = map.keys ++ [key] := by
  rw [keys, entries_insert_of_absent absent, List.map_append]
  rfl

/-- A key that is set already keeps its place. -/
theorem keys_insert_of_present {map : OrderedMap κ β} {key : κ} (present : key ∈ map.keys)
    (value : β) : (map.insert key value).keys = map.keys := by
  rw [insert, dif_pos (contains_eq_true.mpr present), keys_mapEntries]

/-- Keys that are all set already keep their places. -/
theorem keys_insertAll_of_present {map : OrderedMap κ β} {entries : List (κ × β)}
    (present : ∀ key ∈ entries.map Prod.fst, key ∈ map.keys) :
    (map.insertAll entries).keys = map.keys := by
  induction entries generalizing map with
  | nil => rfl
  | cons first rest inductionHypothesis =>
    have kept := keys_insert_of_present (present first.1 List.mem_cons_self) first.2
    refine (inductionHypothesis fun key member => ?_).trans kept
    rw [kept]
    exact present key (List.mem_cons_of_mem _ member)

/-- A function of the values follows a change that it can follow. -/
theorem mapEntries_modify {map : OrderedMap κ β} {key : κ} {change : β → β} {f : κ → β → γ}
    (follow : γ → γ)
    (follows : ∀ value, map.find? key = some value → f key (change value) = follow (f key value)) :
    (map.modify key change).mapEntries f = (map.mapEntries f).modify key follow := by
  apply eq_of_entries
  simp only [modify, mapEntries, List.map_map]
  refine List.map_congr_left fun entry inside => ?_
  by_cases named : entry.1 = key
  · subst named
    simp [follows entry.2 (mem_entries_iff.mp inside)]
  · simp [named]

/-- A new entry may be mapped before or behind its insertion. -/
theorem mapEntries_insert_of_absent {map : OrderedMap κ β} {key : κ} (absent : key ∉ map.keys)
    (value : β) (f : κ → β → γ) :
    (map.insert key value).mapEntries f = (map.mapEntries f).insert key (f key value) := by
  apply eq_of_entries
  rw [entries_insert_of_absent (by simpa using absent), entries_mapEntries,
    entries_insert_of_absent absent, entries_mapEntries, List.map_append]
  rfl

omit [DecidableEq κ] in
/-- The entries in order without repetition: no key stands twice. -/
theorem keys_nodup (map : OrderedMap κ β) : map.keys.Nodup := map.distinct

/-- What a change does to other values than the one that is there does not matter. -/
theorem modify_congr {map : OrderedMap κ β} {key : κ} {change other : β → β}
    (same : ∀ value, map.find? key = some value → change value = other value) :
    map.modify key change = map.modify key other := by
  rw [modify, modify, mapEntries, mapEntries, OrderedMap.mk.injEq]
  refine List.map_congr_left fun entry inside => ?_
  split
  case isTrue named => rw [same entry.2 (mem_entries_iff.mp (named ▸ inside))]
  case isFalse => rfl

/-- A change that leaves the value that is there alone does nothing. -/
theorem modify_eq_self {map : OrderedMap κ β} {key : κ} {change : β → β}
    (same : ∀ value, map.find? key = some value → change value = value) :
    map.modify key change = map := by
  have still : map.modify key change = map.modify key id := modify_congr same
  rw [still, modify, mapEntries]
  simp

section Counting

variable {ε : Type} [DecidableEq ε]

/-- A change under a key that is not set changes nothing. -/
theorem map_changed_absent {entries : List (κ × β)} {key : κ}
    (absent : key ∉ entries.map Prod.fst) (change : β → β) :
    (entries.map fun entry => (entry.1, if entry.1 = key then change entry.2 else entry.2)) =
      entries := by
  refine (List.map_congr_left fun entry inside => ?_).trans (List.map_id entries)
  rw [if_neg fun same => absent (List.mem_map.mpr ⟨entry, inside, same⟩), id]

/-- What is set under a new key and changed there stands behind the others. -/
theorem entries_modify_insert_of_absent {map : OrderedMap κ β} {key : κ} (absent : key ∉ map.keys)
    (value : β) (change : β → β) :
    ((map.insert key value).modify key change).entries = map.entries ++ [(key, change value)] := by
  simp only [modify, mapEntries]
  rw [entries_insert_of_absent absent, List.map_append, List.map_singleton, if_pos rfl]
  exact congrArg (· ++ _) (map_changed_absent absent change)

/-- What one changed entry holds is exchanged in what all entries hold. -/
theorem count_changed {entries : List (κ × β)} (distinct : (entries.map Prod.fst).Nodup)
    {key : κ} {value : β} (member : (key, value) ∈ entries) (hold : β → List ε)
    (change : β → β) (item : ε) :
    (((entries.map fun entry => (entry.1, if entry.1 = key then change entry.2 else entry.2)).map
        Prod.snd).flatMap hold).count item + (hold value).count item =
      ((entries.map Prod.snd).flatMap hold).count item + (hold (change value)).count item := by
  induction entries with
  | nil => cases member
  | cons first rest inductionHypothesis =>
    obtain ⟨absent, distinctRest⟩ := List.nodup_cons.mp distinct
    simp only [List.map_cons, List.flatMap_cons, List.count_append]
    rcases List.mem_cons.mp member with rfl | later
    · rw [map_changed_absent absent, if_pos rfl]
      dsimp only
      omega
    · have exchanged := inductionHypothesis distinctRest later
      rw [if_neg fun same => absent (List.mem_map.mpr ⟨_, later, same.symm⟩)]
      omega

/-- What the values hold, when one of them is changed. -/
theorem count_modify {map : OrderedMap κ β} {key : κ} {value : β}
    (found : map.find? key = some value) (hold : β → List ε) (change : β → β) (item : ε) :
    ((map.modify key change).values.flatMap hold).count item + (hold value).count item =
      (map.values.flatMap hold).count item + (hold (change value)).count item :=
  count_changed map.distinct (mem_entries_iff.mpr found) hold change item

/-- What the values hold, when one is set. -/
theorem count_insert_le (map : OrderedMap κ β) (key : κ) (value : β) (hold : β → List ε)
    (item : ε) :
    ((map.insert key value).values.flatMap hold).count item ≤
      (map.values.flatMap hold).count item + (hold value).count item := by
  unfold insert
  split
  case isTrue present =>
    rw [contains_eq_isSome, Option.isSome_iff_exists] at present
    obtain ⟨before, found⟩ := present
    have exchanged := count_modify found hold (fun _ => value) item
    rw [modify] at exchanged
    omega
  case isFalse => simp [values, List.flatMap_append]

/-- An item that is held under one key only is held as often as under that key. -/
theorem count_held (map : OrderedMap κ β) (hold : κ → β → List ε) (key : κ) (item : ε)
    (elsewhere : ∀ other value, other ≠ key → (hold other value).count item = 0) :
    (map.entries.flatMap fun entry => hold entry.1 entry.2).count item =
      (map.find? key).elim 0 fun value => (hold key value).count item := by
  obtain ⟨entries, distinct⟩ := map
  simp only [find?]
  induction entries with
  | nil => rfl
  | cons first rest inductionHypothesis =>
    obtain ⟨other, value⟩ := first
    obtain ⟨absent, distinctRest⟩ := List.nodup_cons.mp distinct
    rw [List.flatMap_cons, List.count_append, inductionHypothesis distinctRest]
    by_cases same : other = key
    · subst same
      have none : rest.find? (fun entry => entry.1 = other) = none := by
        refine List.find?_eq_none.mpr fun entry inside named => absent ?_
        exact List.mem_map.mpr ⟨entry, inside, of_decide_eq_true named⟩
      simp [none]
    · rw [List.find?_cons_of_neg (by simpa using same),
        elsewhere other value same, Nat.zero_add]

omit [DecidableEq κ] in
/-- What the values hold, when some are removed. -/
theorem count_filter_le (map : OrderedMap κ β) (keep : κ → β → Bool) (hold : β → List ε)
    (item : ε) :
    ((map.filter keep).values.flatMap hold).count item ≤
      (map.values.flatMap hold).count item :=
  (((List.filter_sublist (l := map.entries)).map Prod.snd).flatMap hold).count_le item

end Counting

section Filtering

omit [DecidableEq κ] in
/-- To keep every entry keeps the map. -/
@[simp]
theorem filter_true (map : OrderedMap κ β) : map.filter (fun _ _ => true) = map :=
  eq_of_entries (List.filter_eq_self.mpr fun _ _ => rfl)

omit [DecidableEq κ] in
/-- What passes two tests one after the other passes both. -/
theorem filter_filter (map : OrderedMap κ β) (first second : κ → β → Bool) :
    (map.filter first).filter second =
      map.filter fun key value => second key value && first key value :=
  eq_of_entries List.filter_filter

end Filtering

section Adding

omit [DecidableEq κ] in
/-- No entry stands twice in a map. -/
theorem entries_nodup (map : OrderedMap κ β) : map.entries.Nodup := map.distinct.of_map

/-- An entry that stands in a map and the rest of the map. -/
theorem entries_erase {map : OrderedMap κ β} {key : κ} {value : β}
    (found : map.find? key = some value) :
    map.entries.Perm ((key, value) :: (map.erase key).entries) := by
  have absent : (key, value) ∉ (map.erase key).entries := by
    rw [mem_entries_iff, find_erase, if_pos rfl]
    exact (Option.some_ne_none value).symm
  refine (List.perm_ext_iff_of_nodup map.entries_nodup
    (List.nodup_cons.mpr ⟨absent, entries_nodup _⟩)).mpr fun entry => ?_
  obtain ⟨other, kept⟩ := entry
  rw [List.mem_cons, mem_entries_iff, mem_entries_iff, find_erase]
  by_cases same : other = key
  · subst same
    simp [found, eq_comm]
  · simp [same]

/-- One value's part in a sum over all values. -/
theorem sum_erase {map : OrderedMap κ β} {key : κ} {value : β} {weight : β → Nat}
    (found : map.find? key = some value) :
    (map.values.map weight).sum = weight value + ((map.erase key).values.map weight).sum :=
  (((entries_erase found).map Prod.snd).map weight).sum_nat

/-- What is set under a key does not matter once the key is erased. -/
theorem erase_insert (map : OrderedMap κ β) (key : κ) (value : β) :
    (map.insert key value).erase key = map.erase key := by
  apply eq_of_entries
  unfold insert
  split
  case isTrue =>
    simp only [erase, filter, mapEntries, List.filter_map]
    refine (List.map_congr_left fun entry inside => ?_).trans (List.map_id _)
    have other : entry.1 ≠ key := by simpa using (List.mem_filter.mp inside).2
    rw [if_neg other, id]
  case isFalse => simp [erase, filter]

end Adding

section Ordering

omit [DecidableEq κ] in
/-- Moving an entry only reorders a map. -/
theorem entries_move (map : OrderedMap κ β) (source destination : Nat) :
    (map.move source destination).entries.Perm map.entries := by
  unfold move
  split
  case h_1 => exact .refl _
  case h_2 entry taken =>
    obtain ⟨inside, same⟩ := List.getElem?_eq_some_iff.mp taken
    refine List.perm_middle.trans ?_
    rw [List.take_append_drop, ← same]
    exact List.getElem_cons_eraseIdx_perm inside

omit [DecidableEq κ] in
/-- The entry at a place is taken out and put in at another. -/
theorem entries_move_of_taken {map : OrderedMap κ β} {source : Nat} {entry : κ × β}
    (taken : map.entries[source]? = some entry) (destination : Nat) :
    (map.move source destination).entries = (map.entries.eraseIdx source).take destination ++
      entry :: (map.entries.eraseIdx source).drop destination := by
  unfold move
  split
  case h_1 absent =>
    rw [taken] at absent
    cases absent
  case h_2 other present => rw [Option.some.inj (taken.symm.trans present)]

/-- The entries of a map are told by its keys and what is found under them. -/
theorem entries_of_keys {map : OrderedMap κ β} {entries : List (κ × β)}
    (keys : map.keys = entries.map Prod.fst)
    (found : ∀ entry ∈ entries, map.find? entry.1 = some entry.2) : map.entries = entries := by
  have length : map.entries.length = entries.length := by
    simpa [OrderedMap.keys] using congrArg List.length keys
  refine List.ext_getElem length fun place inside within => ?_
  have named : map.entries[place].1 = entries[place].1 := by
    simpa [OrderedMap.keys] using List.getElem_of_eq keys (by simpa [OrderedMap.keys] using inside)
  have held : map.find? map.entries[place].1 = some map.entries[place].2 :=
    mem_entries_iff.mp (List.getElem_mem inside)
  rw [named, found _ (List.getElem_mem within)] at held
  exact Prod.ext named (Option.some.inj held).symm

/-- Entries under new keys are set one behind the other. -/
theorem entries_insertAll_of_absent (entries : List (κ × β)) (map : OrderedMap κ β)
    (distinct : ((map.entries ++ entries).map Prod.fst).Nodup) :
    (map.insertAll entries).entries = map.entries ++ entries := by
  induction entries generalizing map with
  | nil => exact (List.append_nil _).symm
  | cons entry rest inductionHypothesis =>
    have absent : entry.1 ∉ map.keys := fun member => by
      rw [List.map_append] at distinct
      exact (List.nodup_append.mp distinct).2.2 _ member _ List.mem_cons_self rfl
    have grown := entries_insert_of_absent absent entry.2
    have later := inductionHypothesis (map.insert entry.1 entry.2)
      (by rwa [grown, List.append_assoc])
    rw [grown, List.append_assoc] at later
    exact later

/-- A map is what its entries, set one after another, make up. -/
theorem ofList_entries (map : OrderedMap κ β) : ofList map.entries = map :=
  eq_of_entries (entries_insertAll_of_absent map.entries empty map.distinct)

/-- Values that are set anew under all keys in order stand under these keys. -/
theorem entries_insertAll_of_keys (map : OrderedMap κ β) {values : List β}
    (length : values.length = map.keys.length) :
    (map.insertAll (map.keys.zip values)).entries = map.keys.zip values := by
  have named : (map.keys.zip values).map Prod.fst = map.keys :=
    List.map_fst_zip (Nat.le_of_eq length.symm)
  have keys : (map.insertAll (map.keys.zip values)).keys = map.keys :=
    keys_insertAll_of_present fun key member => named ▸ member
  exact entries_of_keys (keys.trans named.symm) fun entry member =>
    find_insertAll_of_mem (named.symm ▸ map.keys_nodup) map member

/-- Values that are set anew under all keys in order are the values in order. -/
theorem values_insertAll (map : OrderedMap κ β) {values : List β}
    (length : values.length = map.keys.length) :
    (map.insertAll (map.keys.zip values)).values = values := by
  rw [OrderedMap.values, entries_insertAll_of_keys map length]
  exact List.map_snd_zip (Nat.le_of_eq length)

end Ordering

end SpriteMachine.OrderedMap
