/-!
# Maps in order of insertion

A map lists its entries in the order in which their keys were first set. Setting
a present key replaces its value in place, and erasing one keeps the order of
the rest. The keys are distinct by construction.
-/

namespace SpriteMachine

/-- Entries under distinct keys. -/
structure OrderedMap (κ : Type) (β : Type) where
  entries : List (κ × β)
  distinct : (entries.map Prod.fst).Nodup

namespace OrderedMap

variable {κ β γ : Type}

/-- The map without entries. -/
def empty : OrderedMap κ β := ⟨[], List.nodup_nil⟩

instance : Inhabited (OrderedMap κ β) := ⟨empty⟩

/-- The keys in order. -/
def keys (map : OrderedMap κ β) : List κ := map.entries.map Prod.fst

/-- The values in the order of their keys. -/
def values (map : OrderedMap κ β) : List β := map.entries.map Prod.snd

/-- How many entries there are. -/
def size (map : OrderedMap κ β) : Nat := map.entries.length

/-- Whether there is no entry. -/
def isEmpty (map : OrderedMap κ β) : Bool := map.entries.isEmpty

/-- The same keys with each value replaced by a function of the entry. -/
def mapEntries (map : OrderedMap κ β) (f : κ → β → γ) : OrderedMap κ γ where
  entries := map.entries.map fun entry => (entry.1, f entry.1 entry.2)
  distinct := by
    have unchanged : (map.entries.map fun entry => (entry.1, f entry.1 entry.2)).map Prod.fst =
        map.entries.map Prod.fst := by simp
    rw [unchanged]
    exact map.distinct

/-- The entries that pass a test, in order. -/
def filter (map : OrderedMap κ β) (keep : κ → β → Bool) : OrderedMap κ β where
  entries := map.entries.filter fun entry => keep entry.1 entry.2
  distinct := map.distinct.sublist (List.filter_sublist.map Prod.fst)

/-- The map with the entry at one place taken out and put in at another. -/
def move (map : OrderedMap κ β) (source destination : Nat) : OrderedMap κ β :=
  match taken : map.entries[source]? with
  | none => map
  | some entry =>
    let rest := map.entries.eraseIdx source
    { entries := rest.take destination ++ entry :: rest.drop destination
      distinct := by
        have inside : source < map.entries.length := (List.getElem?_eq_some_iff.mp taken).1
        have same : entry = map.entries[source] := (List.getElem?_eq_some_iff.mp taken).2.symm
        have reordered : (rest.take destination ++ entry :: rest.drop destination).Perm
            map.entries := by
          refine List.perm_middle.trans ?_
          rw [List.take_append_drop]
          have split : map.entries =
              map.entries.take source ++ entry :: map.entries.drop (source + 1) := by
            rw [same, List.getElem_cons_drop, List.take_append_drop]
          have erased : rest = map.entries.take source ++ map.entries.drop (source + 1) :=
            List.eraseIdx_eq_take_drop_succ map.entries source
          rw [erased]
          exact List.perm_middle.symm.trans (List.Perm.of_eq split.symm)
        exact (reordered.map Prod.fst).nodup_iff.mpr map.distinct }

variable [DecidableEq κ]

/-- The value under a key. -/
def find? (map : OrderedMap κ β) (key : κ) : Option β :=
  (map.entries.find? fun entry => entry.1 = key).map Prod.snd

/-- Whether a key is set. -/
def contains (map : OrderedMap κ β) (key : κ) : Bool :=
  map.entries.any fun entry => entry.1 = key

/-- A map contains the keys that it lists. -/
theorem contains_eq_true {map : OrderedMap κ β} {key : κ} :
    map.contains key = true ↔ key ∈ map.keys := by
  simp [contains, keys]

/-- The map with a key set: in place when it was set before, else at the end. -/
def insert (map : OrderedMap κ β) (key : κ) (value : β) : OrderedMap κ β :=
  if present : map.contains key then
    map.mapEntries fun other kept => if other = key then value else kept
  else
    { entries := map.entries ++ [(key, value)]
      distinct := by
        have absent : key ∉ map.entries.map Prod.fst := fun member =>
          present (contains_eq_true.mpr member)
        rw [List.map_append]
        refine List.nodup_append.mpr ⟨map.distinct, by simp, ?_⟩
        intro left leftMember right rightMember equal
        rw [List.map_singleton, List.mem_singleton] at rightMember
        subst equal rightMember
        exact absent leftMember }

/-- The map without a key. -/
def erase (map : OrderedMap κ β) (key : κ) : OrderedMap κ β :=
  map.filter fun other _ => other ≠ key

/-- The map with the value under a key changed; nothing happens when it is not
set. -/
def modify (map : OrderedMap κ β) (key : κ) (change : β → β) : OrderedMap κ β :=
  map.mapEntries fun other kept => if other = key then change kept else kept

/-- The map that results from setting entries one after another. -/
def ofList (entries : List (κ × β)) : OrderedMap κ β :=
  entries.foldl (fun map (key, value) => map.insert key value) empty

/-- The map with further entries set one after another. -/
def insertAll (map : OrderedMap κ β) (entries : List (κ × β)) : OrderedMap κ β :=
  entries.foldl (fun map (key, value) => map.insert key value) map

end OrderedMap

end SpriteMachine
