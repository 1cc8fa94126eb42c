import SpriteMachine.Proofs.Json.Fields
import SpriteMachine.Value.Basic

/-!
# Whole values read back

A value is whole when all its numbers are whole and fit 64 bits and its objects keep their
keys in order. Such a value spells a tree from which the same value is read, however deep
it is nested.
-/

namespace SpriteMachine

namespace Fields

variable {β : Type} {entries : List (String × β)}

/-- An entry whose key comes after all others is put at the end. -/
theorem insert_last {key : String} (after : ∀ entry ∈ entries, entry.1 < key) (value : β) :
    insert key value entries = entries ++ [(key, value)] := by
  induction entries with
  | nil => rfl
  | cons entry rest inductionHypothesis =>
    have behind : entry.1 < key := after entry List.mem_cons_self
    rw [insert, if_neg (String.lt_asymm behind), if_neg (String.ne_of_lt behind).symm,
      inductionHypothesis fun other member => after other (List.mem_cons_of_mem _ member)]
    rfl

/-- Entries in order are set without change. -/
theorem ofList_ordered (ordered : Ordered entries) : ofList entries = entries := by
  have set : ∀ fields, Ordered (fields ++ entries) →
      entries.foldl (fun fields entry => insert entry.1 entry.2 fields) fields =
        fields ++ entries := by
    clear ordered
    induction entries with
    | nil => exact fun fields _ => (List.append_nil fields).symm
    | cons entry rest inductionHypothesis =>
      intro fields ordered
      have last : insert entry.1 entry.2 fields = fields ++ [entry] := insert_last
        (fun other member => (List.pairwise_append.mp ordered).2.2 other member _
          List.mem_cons_self) entry.2
      rw [List.foldl_cons, last, inductionHypothesis _ (by rwa [List.append_assoc]),
        List.append_assoc]
      rfl
  exact set [] ordered

end Fields

namespace Value

variable {α : Type} [Scalar α]

/-- A value with whole numbers of 64 bits only, and with ordered objects. -/
inductive Whole : Value α → Prop where
  | null : Whole null
  | bool (value : Bool) : Whole (bool value)
  | int {value : Int} (low : Width.low64 ≤ value) (high : value ≤ Width.last64) :
    Whole (int value)
  | text (value : String) : Whole (text value)
  | list {items : List (Value α)} (each : ∀ item ∈ items, Whole item) : Whole (list items)
  | object {entries : List (String × Value α)} (ordered : Fields.Ordered entries)
    (each : ∀ entry ∈ entries, Whole entry.2) : Whole (object entries)

mutual

/-- The tree that a value is written as. A scalar is what its text reads as. -/
def tree : Value α → Json
  | null => .null
  | bool value => .bool value
  | int value => .integer value
  | real value => (Json.read? (Scalar.text value).toList).getD .null
  | text value => .string (some value)
  | list items => .array (treeItems items)
  | object entries => Json.fields (treeEntries entries)

/-- The trees of items. -/
def treeItems : List (Value α) → List Json
  | [] => []
  | item :: rest => tree item :: treeItems rest

/-- The trees of entries. -/
def treeEntries : List (String × Value α) → List (String × Json)
  | [] => []
  | (key, value) :: rest => (key, tree value) :: treeEntries rest

end

mutual

/-- How many lists and objects enclose the deepest part, the value included. -/
def depth : Value α → Nat
  | list items => depthOfItems items + 1
  | object entries => depthOfEntries entries + 1
  | _ => 0

/-- The greatest depth among items. -/
def depthOfItems : List (Value α) → Nat
  | [] => 0
  | item :: rest => max (depth item) (depthOfItems rest)

/-- The greatest depth among entries. -/
def depthOfEntries : List (String × Value α) → Nat
  | [] => 0
  | (_, value) :: rest => max (depth value) (depthOfEntries rest)

end

/-- Items are written one by one. -/
theorem writeItems_eq (items : List (Value α)) : writeItems items = items.map write := by
  induction items with
  | nil => rfl
  | cons item rest inductionHypothesis => rw [writeItems, inductionHypothesis, List.map_cons]

/-- Entries are written one by one. -/
theorem writeEntries_eq (entries : List (String × Value α)) :
    writeEntries entries = entries.map fun entry => (entry.1, entry.2.write) := by
  induction entries with
  | nil => rfl
  | cons entry rest inductionHypothesis => rw [writeEntries, inductionHypothesis, List.map_cons]

/-- The trees of items are made one by one. -/
theorem treeItems_eq (items : List (Value α)) : treeItems items = items.map tree := by
  induction items with
  | nil => rfl
  | cons item rest inductionHypothesis => rw [treeItems, inductionHypothesis, List.map_cons]

/-- The trees of entries are made one by one. -/
theorem treeEntries_eq (entries : List (String × Value α)) :
    treeEntries entries = entries.map fun entry => (entry.1, entry.2.tree) := by
  induction entries with
  | nil => rfl
  | cons entry rest inductionHypothesis => rw [treeEntries, inductionHypothesis, List.map_cons]

/-- A whole value spells its tree. -/
theorem Whole.spells {value : Value α} (whole : value.Whole) :
    Json.Spells value.write value.tree := by
  induction whole with
  | null => exact Json.spells_null
  | bool value => exact Json.spells_bool value
  | int low high => exact Json.spells_int low high
  | text value => exact Json.spells_quote value
  | list each inductionHypothesis =>
    rw [write, tree, writeItems_eq, treeItems_eq]
    exact Json.spells_items write tree inductionHypothesis
  | object ordered each inductionHypothesis =>
    rw [write, tree, writeEntries_eq, treeEntries_eq]
    exact Json.spells_entries write tree (fun key => key) inductionHypothesis

/-- Items come back from their trees when each does. -/
theorem ofItems_map {items : List (Value α)}
    (each : ∀ item ∈ items, ofJson? item.tree = some item) :
    ofItems? (items.map tree) = some items := by
  induction items with
  | nil => rfl
  | cons item rest inductionHypothesis =>
    rw [List.map_cons, ofItems?, each item List.mem_cons_self,
      inductionHypothesis fun other member => each other (List.mem_cons_of_mem _ member)]

/-- Entries come back from their trees when each does. -/
theorem ofEntries_map {entries : List (String × Value α)}
    (each : ∀ entry ∈ entries, ofJson? entry.2.tree = some entry.2) :
    ofEntries? (entries.map fun entry => (some entry.1, entry.2.tree)) = some entries := by
  induction entries with
  | nil => rfl
  | cons entry rest inductionHypothesis =>
    have first := each entry List.mem_cons_self
    have later := inductionHypothesis fun other member => each other (List.mem_cons_of_mem _ member)
    simp only [List.map_cons, ofEntries?, first, later]

/-- A whole value is read from its tree. -/
theorem Whole.reads {value : Value α} (whole : value.Whole) : ofJson? value.tree = some value := by
  induction whole with
  | null => rfl
  | bool value => rfl
  | int low high => rfl
  | text value => rfl
  | list each inductionHypothesis =>
    rw [tree, treeItems_eq, ofJson?, ofItems_map inductionHypothesis]
    rfl
  | object ordered each inductionHypothesis =>
    rw [tree, treeEntries_eq, Json.fields, List.map_map, ofJson?]
    change (ofEntries?
      (List.map (fun entry : String × Value _ => (some entry.1, entry.2.tree)) _)).map
      _ = _
    rw [ofEntries_map inductionHypothesis, Option.map_some, Fields.ofList_ordered ordered]

/-- The trees of items are as deep as the items. -/
theorem depthOfItems_tree {items : List (Value α)}
    (each : ∀ item ∈ items, item.tree.depth = item.depth) :
    Json.depthOfItems (treeItems items) = depthOfItems items := by
  induction items with
  | nil => rfl
  | cons item rest inductionHypothesis =>
    rw [treeItems, Json.depthOfItems, depthOfItems, each item List.mem_cons_self,
      inductionHypothesis fun other member => each other (List.mem_cons_of_mem _ member)]

/-- The trees of entries are as deep as the entries. -/
theorem depthOfEntries_tree {entries : List (String × Value α)}
    (each : ∀ entry ∈ entries, entry.2.tree.depth = entry.2.depth) :
    (Json.fields (treeEntries entries)).depth = depthOfEntries entries + 1 := by
  rw [Json.fields, Json.depth]
  induction entries with
  | nil => rfl
  | cons entry rest inductionHypothesis =>
    have later := Nat.succ.inj
      (inductionHypothesis fun other member => each other (List.mem_cons_of_mem _ member))
    rw [treeEntries, List.map_cons, Json.depthOfEntries, depthOfEntries, later,
      each entry List.mem_cons_self]

/-- The tree of a whole value is as deep as the value. -/
theorem Whole.depth_tree {value : Value α} (whole : value.Whole) :
    value.tree.depth = value.depth := by
  induction whole with
  | null => rfl
  | bool value => rfl
  | int low high => rfl
  | text value => rfl
  | list each inductionHypothesis =>
    rw [tree, Json.depth, depth, depthOfItems_tree inductionHypothesis]
  | object ordered each inductionHypothesis =>
    rw [tree, depth, depthOfEntries_tree inductionHypothesis]

end Value

section Values

variable (α : Type) [Scalar α]

/-- A tree that means a value. -/
def Json.IsValue (json : Json) : Prop := (Value.ofJson? json : Option (Value α)).isSome

/-- A value is read from a text. -/
@[simp]
theorem Json.isValue_string (text : String) : (Json.string (some text)).IsValue α := rfl

/-- A value is read from a text or from null. -/
@[simp]
theorem Json.isValue_nullable (text : Option String) : (Json.nullable text).IsValue α := by
  cases text <;> rfl

/-- A value is read from an array when one is read from each item. -/
theorem Json.isValue_array {items : List Json} (each : ∀ item ∈ items, item.IsValue α) :
    (Json.array items).IsValue α := by
  have all : (Value.ofItems? items : Option (List (Value α))).isSome := by
    induction items with
    | nil => rfl
    | cons item rest inductionHypothesis =>
      obtain ⟨value, first⟩ := Option.isSome_iff_exists.mp (each item List.mem_cons_self)
      obtain ⟨values, later⟩ := Option.isSome_iff_exists.mp
        (inductionHypothesis fun other member => each other (List.mem_cons_of_mem _ member))
      rw [Value.ofItems?, first, later]
      rfl
  rwa [IsValue, Value.ofJson?, Option.isSome_map]

/-- Entries are read as values when each is. -/
theorem Json.ofEntries_isSome {entries : List (String × Json)}
    (each : ∀ entry ∈ entries, entry.2.IsValue α) :
    (Value.ofEntries? (entries.map fun entry => (some entry.1, entry.2)) :
      Option (List (String × Value α))).isSome := by
  induction entries with
  | nil => rfl
  | cons entry rest inductionHypothesis =>
    obtain ⟨value, first⟩ := Option.isSome_iff_exists.mp (each entry List.mem_cons_self)
    obtain ⟨values, later⟩ := Option.isSome_iff_exists.mp
      (inductionHypothesis fun other member => each other (List.mem_cons_of_mem _ member))
    simp only [List.map_cons, Value.ofEntries?, first, later, Option.isSome_some]

/-- A value is read from fields when one is read from each. -/
theorem Json.isValue_fields {entries : List (String × Json)}
    (each : ∀ entry ∈ entries, entry.2.IsValue α) : (Json.fields entries).IsValue α := by
  rw [IsValue, Json.fields, Value.ofJson?, Option.isSome_map]
  exact ofEntries_isSome α each

variable {α} in
/-- A value is read from the tree of a whole one. -/
theorem Value.Whole.isValue {value : Value α} (whole : value.Whole) : value.tree.IsValue α :=
  Option.isSome_iff_exists.mpr ⟨value, whole.reads⟩

end Values

end SpriteMachine
