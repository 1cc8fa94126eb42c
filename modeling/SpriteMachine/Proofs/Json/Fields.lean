import SpriteMachine.Json.Record
import SpriteMachine.Proofs.Json.Spelling

/-!
# Typed readings of what was written

An array or object made of things that can each be read is read as a whole, and a record
whose fields are named once each is read by its fields.
-/

namespace SpriteMachine

namespace Json

variable {β γ κ : Type}

/-- A text or `null` as a tree. -/
def nullable : Option String → Json
  | some text => .string (some text)
  | none => .null

/-- A text is read from the tree that it is written as. -/
@[simp]
theorem text_string (text : Option String) : text? (.string text) = text := by rw [text?]

/-- Items that each can be read are read in order. -/
theorem listOf_map {item? : Json → Option γ} (tree : β → Json) (result : β → γ) {items : List β}
    (each : ∀ item ∈ items, item? (tree item) = some (result item)) :
    listOf? item? (.array (items.map tree)) = some (items.map result) := by
  rw [listOf?]
  induction items with
  | nil => rfl
  | cons item rest inductionHypothesis =>
    rw [List.map_cons, List.mapM_cons, each item List.mem_cons_self,
      inductionHypothesis fun other member => each other (List.mem_cons_of_mem _ member)]
    rfl

/-- Entries that each can be read are read in order. -/
theorem entriesOf_fields {value? : Json → Option γ} (tree : β → Json) (result : β → γ)
    (name : κ → String) {entries : List (κ × β)}
    (each : ∀ entry ∈ entries, value? (tree entry.2) = some (result entry.2)) :
    entriesOf? value? (fields (entries.map fun entry => (name entry.1, tree entry.2))) =
      some (entries.map fun entry => (name entry.1, result entry.2)) := by
  rw [fields, entriesOf?]
  induction entries with
  | nil => rfl
  | cons entry rest inductionHypothesis =>
    have first := each entry List.mem_cons_self
    have later := inductionHypothesis fun other member => each other (List.mem_cons_of_mem _ member)
    rw [List.map_cons, List.map_cons, List.mapM_cons, later]
    dsimp only
    rw [first]
    rfl

/-- Nothing is read from entries when the first of them cannot be read. -/
theorem entriesOf_unreadable {value? : Json → Option γ} {entry : String × Json}
    (unreadable : value? entry.2 = none) (entries : List (String × Json)) :
    entriesOf? value? (fields (entry :: entries)) = none := by
  rw [fields, entriesOf?, List.map_cons, List.mapM_cons]
  dsimp only
  rw [unreadable]
  rfl

/-- An array is one level deeper than its items. -/
theorem depth_array_le {items : List Json} {bound : Nat}
    (each : ∀ item ∈ items, item.depth ≤ bound) : (array items).depth ≤ bound + 1 := by
  rw [depth]
  refine Nat.succ_le_succ ?_
  induction items with
  | nil => exact Nat.zero_le _
  | cons item rest inductionHypothesis =>
    rw [depthOfItems]
    exact Nat.max_le.mpr ⟨each item List.mem_cons_self,
      inductionHypothesis fun other member => each other (List.mem_cons_of_mem _ member)⟩

/-- An object is one level deeper than its entries. -/
theorem depth_fields_le {entries : List (String × Json)} {bound : Nat}
    (each : ∀ entry ∈ entries, entry.2.depth ≤ bound) : (fields entries).depth ≤ bound + 1 := by
  rw [fields, depth]
  refine Nat.succ_le_succ ?_
  induction entries with
  | nil => exact Nat.zero_le _
  | cons entry rest inductionHypothesis =>
    rw [List.map_cons, depthOfEntries]
    exact Nat.max_le.mpr ⟨each entry List.mem_cons_self,
      inductionHypothesis fun other member => each other (List.mem_cons_of_mem _ member)⟩

end Json

namespace Record

variable {β : Type} {name key : String} {part : Json} {parts : List (String × Json)}
  {positional : Bool}

/-- A record is read by its fields. -/
@[simp]
theorem ofJson_fields {names : List String}
    (named : parts.map Prod.fst = names) (distinct : names.Nodup) :
    ofJson? names (Json.fields parts) = some ⟨parts, false⟩ := by
  have texts : (parts.map fun entry => (some entry.1, entry.2)).mapM
      (fun entry => entry.1.map (·, entry.2)) = some parts := by
    clear named
    induction parts with
    | nil => rfl
    | cons part rest inductionHypothesis =>
      rw [List.map_cons, List.mapM_cons, inductionHypothesis]
      rfl
  rw [Json.fields, ofJson?]
  split
  case h_1 refused => cases refused.symm.trans texts
  case h_2 entries read =>
    obtain rfl := Option.some.inj (read.symm.trans texts)
    dsimp only
    rw [List.filter_eq_self.mpr, named, if_pos distinct]
    exact fun part member => decide_eq_true (named ▸ List.mem_map_of_mem member)

/-- A required part is read where it stands first. -/
@[simp]
theorem required_first (read? : Json → Option β) :
    required ⟨(name, part) :: parts, positional⟩ name read? = read? part := by
  rw [required, List.lookup_cons_self, Option.bind_some]

/-- A required part is looked for behind parts of other names. -/
@[simp]
theorem required_later (different : name ≠ key) (read? : Json → Option β) :
    required ⟨(key, part) :: parts, positional⟩ name read? =
      required ⟨parts, positional⟩ name read? := by
  rw [required, required, List.lookup_cons, beq_false_of_ne different]

/-- A part that may be null is read where it stands first. -/
@[simp]
theorem nullable_first (text : Option String) :
    nullable ⟨(name, Json.nullable text) :: parts, positional⟩ name Json.text? = some text := by
  rw [nullable, List.lookup_cons_self]
  cases text <;> rfl

/-- A part that may be null is looked for behind parts of other names. -/
@[simp]
theorem nullable_later (different : name ≠ key) (read? : Json → Option β) :
    nullable ⟨(key, part) :: parts, positional⟩ name read? =
      nullable ⟨parts, positional⟩ name read? := by
  rw [nullable, nullable, List.lookup_cons, beq_false_of_ne different]

/-- A part with a default is read where it stands first. -/
@[simp]
theorem nullableWithDefault_first (text : Option String) :
    nullableWithDefault ⟨(name, Json.nullable text) :: parts, positional⟩ name Json.text? =
      some text := by
  rw [nullableWithDefault, List.lookup_cons_self]
  cases text <;> rfl

/-- A part with a default is looked for behind parts of other names. -/
@[simp]
theorem nullableWithDefault_later (different : name ≠ key) (read? : Json → Option β) :
    nullableWithDefault ⟨(key, part) :: parts, positional⟩ name read? =
      nullableWithDefault ⟨parts, positional⟩ name read? := by
  rw [nullableWithDefault, nullableWithDefault, List.lookup_cons, beq_false_of_ne different]

end Record

end SpriteMachine
