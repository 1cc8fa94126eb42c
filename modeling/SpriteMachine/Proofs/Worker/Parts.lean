import SpriteMachine.Proofs.OrderedMap
import SpriteMachine.Proofs.Script.Shape
import SpriteMachine.Proofs.Value.Whole
import SpriteMachine.Worker.Wire

/-!
# Parts of messages read back

The linked unit of a message, its starts and the threads it names are written as trees, and
they are read from those trees. An event with options of which none is listed is written like
an event without options, so that it comes back as one; everything else comes back as it was.
-/

namespace SpriteMachine

namespace EventEntry

/-- The tree that named scripts are written as. -/
def scriptsTree (codes : OrderedMap ScriptId String) : Json :=
  Json.fields (codes.entries.map fun entry => (entry.1.text, .string (some entry.2)))

/-- The tree that an entry is written as. -/
def tree : EventEntry → Json
  | scripts codes => scriptsTree codes
  | options choices =>
    Json.fields (choices.entries.map fun entry => (entry.1, scriptsTree entry.2))

/-- The entry that comes back. Options of which none is listed come back as no scripts. -/
def settled : EventEntry → EventEntry
  | scripts codes => scripts codes
  | options choices => if choices.isEmpty then scripts .empty else options choices

/-- An entry that has no options or lists one of them. -/
def Listed (entry : EventEntry) : Prop := entry.options? ≠ some []

/-- The codes of scripts are written as their tree. -/
theorem writeScripts_spells (codes : OrderedMap ScriptId String) :
    Json.Spells (writeScripts codes) (scriptsTree codes) :=
  Json.spells_entries Json.quote (fun code => .string (some code)) ScriptId.text
    fun entry _ => Json.spells_quote entry.2

/-- An entry is written as its tree. -/
theorem spells (entry : EventEntry) : Json.Spells entry.write entry.tree := by
  cases entry with
  | scripts codes => exact writeScripts_spells codes
  | options choices =>
    exact Json.spells_entries writeScripts scriptsTree (fun option : String => option)
      fun entry _ => writeScripts_spells entry.2

/-- The codes of scripts come back from their tree. -/
theorem scripts_tree (codes : OrderedMap ScriptId String) :
    scripts? (scriptsTree codes) = some codes := by
  have read : Json.entriesOf? Json.text? (scriptsTree codes) =
      some (codes.entries.map fun entry => (entry.1.text, entry.2)) :=
    Json.entriesOf_fields (fun code => .string (some code)) (fun code => code) ScriptId.text
      fun _ _ => rfl
  have same : (codes.entries.map fun entry => (entry.1.text, entry.2)).map
      (fun entry => ((⟨entry.1⟩ : ScriptId), entry.2)) = codes.entries := by
    rw [List.map_map]
    exact List.map_id _
  rw [scripts?, read]
  exact congrArg some ((congrArg OrderedMap.ofList same).trans codes.ofList_entries)

/-- An entry comes back from its tree up to the options that are not listed. -/
theorem ofJson_tree (entry : EventEntry) : ofJson? entry.tree = some entry.settled := by
  cases entry with
  | scripts codes => rw [ofJson?, tree, scripts_tree, settled]
  | options choices =>
    have read : Json.entriesOf? scripts? (tree (options choices)) = some choices.entries := by
      refine (Json.entriesOf_fields scriptsTree (fun codes => codes) (fun option : String => option)
        fun entry _ => scripts_tree entry.2).trans ?_
      exact congrArg some (List.map_id _)
    rw [ofJson?, settled]
    obtain ⟨entries, distinct⟩ := choices
    cases entries with
    | nil => rfl
    | cons entry rest =>
      -- The codes of an option are no text, so that the entry is not read as plain scripts.
      have unreadable : scripts? (tree (options ⟨entry :: rest, distinct⟩)) = none := by
        rw [scripts?, tree, List.map_cons, Json.entriesOf_unreadable rfl]
        rfl
      have whole := OrderedMap.ofList_entries (⟨entry :: rest, distinct⟩ : OrderedMap String _)
      rw [unreadable, read]
      dsimp only at whole ⊢
      rw [Option.map_some, whole]
      rfl

/-- The tree of an entry is one that a value is read from. -/
@[simp]
theorem isValue_tree (entry : EventEntry) (α : Type) [Scalar α] : entry.tree.IsValue α := by
  have scripts (codes : OrderedMap ScriptId String) : (scriptsTree codes).IsValue α :=
    Json.isValue_fields α (List.forall_mem_map.mpr fun entry _ => Json.isValue_string α entry.2)
  cases entry with
  | scripts codes => exact scripts codes
  | options choices =>
    exact Json.isValue_fields α (List.forall_mem_map.mpr fun entry _ => scripts entry.2)

/-- The tree of codes is one level deep. -/
theorem depth_scriptsTree_le (codes : OrderedMap ScriptId String) : (scriptsTree codes).depth ≤ 1 :=
  Json.depth_fields_le (List.forall_mem_map.mpr fun _ _ => Nat.le_refl 0)

/-- The tree of an entry is at most two levels deep. -/
theorem depth_tree_le (entry : EventEntry) : entry.tree.depth ≤ 2 := by
  cases entry with
  | scripts codes => exact Nat.le_succ_of_le (depth_scriptsTree_le codes)
  | options choices =>
    exact Json.depth_fields_le (List.forall_mem_map.mpr fun entry _ => depth_scriptsTree_le entry.2)

/-- Just the options of which none is listed come back as something else. -/
theorem settled_eq_self {entry : EventEntry} : entry.settled = entry ↔ entry.Listed := by
  cases entry with
  | scripts codes => exact iff_of_true rfl (Option.some_ne_none _).symm
  | options choices =>
    obtain ⟨entries, distinct⟩ := choices
    cases entries with
    | nil => exact iff_of_false (fun same => by cases same) fun listed => listed rfl
    | cons entry rest => exact iff_of_true rfl fun none => by cases none

end EventEntry

namespace EventMap

/-- The tree that an event map is written as. -/
def tree (events : EventMap) : Json :=
  Json.fields (events.entries.map fun entry => (entry.1, entry.2.tree))

/-- The event map that comes back. -/
def settled (events : EventMap) : EventMap := events.mapEntries fun _ entry => entry.settled

/-- An event map is written as its tree. -/
theorem spells (events : EventMap) : Json.Spells events.write events.tree :=
  Json.spells_entries EventEntry.write EventEntry.tree (fun event : String => event)
    fun entry _ => entry.2.spells

/-- An event map comes back from its tree with its entries settled. -/
@[simp]
theorem ofJson_tree (events : EventMap) : ofJson? events.tree = some events.settled := by
  have read : Json.entriesOf? EventEntry.ofJson? events.tree = some events.settled.entries :=
    Json.entriesOf_fields EventEntry.tree EventEntry.settled (fun event : String => event)
      fun entry _ => entry.2.ofJson_tree
  rw [ofJson?, read, Option.map_some, OrderedMap.ofList_entries]

end EventMap

namespace LinkedUnit

/-- The tree that a linked unit is written as. -/
def tree (unit : LinkedUnit) : Json :=
  Json.fields [("source", .string (some unit.source)), ("eventMap", unit.events.tree)]

/-- The linked unit that comes back. -/
def settled (unit : LinkedUnit) : LinkedUnit := { unit with events := unit.events.settled }

/-- Every event that has options lists one of them. -/
def Listed (unit : LinkedUnit) : Prop := ∀ entry ∈ unit.events.values, entry.Listed

/-- A linked unit is written as its tree. -/
theorem spells (unit : LinkedUnit) : Json.Spells unit.write unit.tree :=
  Json.spells_object (.cons ⟨rfl, Json.spells_quote _⟩ (.cons ⟨rfl, unit.events.spells⟩ .nil))

/-- A linked unit comes back from its tree with its events settled. -/
@[simp]
theorem ofJson_tree (unit : LinkedUnit) : ofJson? unit.tree = some unit.settled := by
  simp [ofJson?, tree, settled]

/-- The tree of a linked unit is one that a value is read from. -/
@[simp]
theorem isValue_tree (unit : LinkedUnit) (α : Type) [Scalar α] : unit.tree.IsValue α := by
  refine Json.isValue_fields α fun part member => ?_
  rcases List.mem_pair.mp member with rfl | rfl
  · exact Json.isValue_string α unit.source
  · exact Json.isValue_fields α (List.forall_mem_map.mpr fun entry _ => entry.2.isValue_tree α)

/-- The tree of a linked unit is at most four levels deep. -/
theorem depth_tree_le (unit : LinkedUnit) : unit.tree.depth ≤ 4 := by
  refine Json.depth_fields_le fun part member => ?_
  rcases List.mem_pair.mp member with rfl | rfl
  · exact Nat.zero_le 3
  · exact Json.depth_fields_le (List.forall_mem_map.mpr fun entry _ => entry.2.depth_tree_le)

/-- A unit comes back as it was just when every event that has options lists one of them. -/
theorem settled_eq_self {unit : LinkedUnit} : unit.settled = unit ↔ unit.Listed := by
  obtain ⟨source, events⟩ := unit
  rw [settled, LinkedUnit.mk.injEq, EventMap.settled, OrderedMap.mapEntries_eq_self, Listed]
  simp [EventEntry.settled_eq_self]

/-- A unit that placements shape lists its options just when every event that is placed with
options is placed with one somewhere. -/
theorem listed_iff {unit : LinkedUnit} {placements : List (TargetId × String × EventScripts)}
    (shaped : Linker.Progress.Shaped placements unit.events.shape) :
    unit.Listed ↔ ∀ placement ∈ placements, placement.2.2.options?.isSome →
      Placements.options placements placement.2.1 ≠ [] := by
  constructor
  · intro listed placement inside sorted none
    obtain ⟨names, given⟩ := Option.isSome_iff_exists.mp sorted
    have shape := shaped.options placement inside
    rw [given, none, EventMap.find_shape, Option.map_some] at shape
    obtain ⟨entry, found, form⟩ := Option.map_eq_some_iff.mp shape
    exact listed entry (OrderedMap.mem_values_iff.mpr ⟨_, found⟩) form
  · intro lists entry member none
    obtain ⟨event, found⟩ := OrderedMap.mem_values_iff.mp member
    have known : event ∈ unit.events.shape.keys := by
      rw [EventMap.shape, OrderedMap.keys_mapEntries]
      exact OrderedMap.mem_keys_iff.mpr ⟨entry, found⟩
    rw [shaped.events] at known
    obtain ⟨placement, inside, rfl⟩ := List.mem_map.mp (List.mem_eraseDups.mp known)
    have shape := shaped.options placement inside
    rw [EventMap.find_shape, found, Option.map_some, none] at shape
    obtain ⟨names, given, empty⟩ := Option.map_eq_some_iff.mp (Option.some.inj shape).symm
    exact lists placement inside (Option.isSome_iff_exists.mpr ⟨names, given⟩) empty

end LinkedUnit

namespace ThreadStart

/-- The tree that a start is written as. -/
def tree (start : ThreadStart) : Json :=
  Json.fields [("threadId", .string (some start.thread.text)),
    ("scriptId", .string (some start.script.text)), ("targetId", .string (some start.target.text))]

/-- A start is written as its tree. -/
theorem spells (start : ThreadStart) : Json.Spells start.write start.tree :=
  Json.spells_object (.cons ⟨rfl, Json.spells_quote _⟩ (.cons ⟨rfl, Json.spells_quote _⟩
    (.cons ⟨rfl, Json.spells_quote _⟩ .nil)))

/-- A start comes back from its tree. -/
@[simp]
theorem ofJson_tree (start : ThreadStart) : ofJson? start.tree = some start := by
  simp [ofJson?, tree]

/-- The tree of a start is one that a value is read from. -/
@[simp]
theorem isValue_tree (start : ThreadStart) (α : Type) [Scalar α] : start.tree.IsValue α := by
  refine Json.isValue_fields α fun part member => ?_
  simp only [List.mem_cons, List.not_mem_nil, or_false] at member
  rcases member with rfl | rfl | rfl <;> exact Json.isValue_string α _

/-- The tree of a start is one level deep. -/
theorem depth_tree_le (start : ThreadStart) : start.tree.depth ≤ 1 := by
  refine Json.depth_fields_le fun part member => ?_
  simp only [List.mem_cons, List.not_mem_nil, or_false] at member
  rcases member with rfl | rfl | rfl <;> exact Nat.le_refl 0

end ThreadStart

/-- The tree that names of threads are written as. -/
def threadsTree (threads : List ThreadId) : Json :=
  .array (threads.map fun id => .string (some id.text))

/-- The names of threads are written as their tree. -/
theorem writeThreads_spells (threads : List ThreadId) :
    Json.Spells (writeThreads threads) (threadsTree threads) :=
  Json.spells_items (fun id : ThreadId => Json.quote id.text)
    (fun id : ThreadId => .string (some id.text)) fun id _ => Json.spells_quote id.text

/-- The names of threads come back from their tree. -/
@[simp]
theorem readThreads_tree (threads : List ThreadId) :
    readThreads? (threadsTree threads) = some threads := by
  have read : Json.listOf? Json.text? (threadsTree threads) =
      some (threads.map ThreadId.text) :=
    Json.listOf_map (fun id : ThreadId => .string (some id.text)) ThreadId.text fun _ _ => rfl
  rw [readThreads?, read, Option.map_some, List.map_map]
  exact congrArg some (List.map_id _)

/-- A text that may be missing is written as itself or as null. -/
theorem writeNullable_spells (text : Option String) :
    Json.Spells (writeNullable text) (Json.nullable text) := by
  cases text with
  | none => exact Json.spells_null
  | some text => exact Json.spells_quote text

/-- The tree of thread names is one that a value is read from. -/
@[simp]
theorem isValue_threadsTree (threads : List ThreadId) (α : Type) [Scalar α] :
    (threadsTree threads).IsValue α :=
  Json.isValue_array α (List.forall_mem_map.mpr fun id _ => Json.isValue_string α id.text)

/-- The tree that starts are written as. -/
def startsTree (starts : List ThreadStart) : Json := .array (starts.map ThreadStart.tree)

/-- Starts are written as their tree. -/
theorem writeStarts_spells (starts : List ThreadStart) :
    Json.Spells (Json.writeArray (starts.map ThreadStart.write)) (startsTree starts) :=
  Json.spells_items ThreadStart.write ThreadStart.tree fun start _ => start.spells

/-- Starts come back from their tree. -/
@[simp]
theorem readStarts_tree (starts : List ThreadStart) :
    Json.listOf? ThreadStart.ofJson? (startsTree starts) = some starts := by
  have read : Json.listOf? ThreadStart.ofJson? (startsTree starts) = some (starts.map id) :=
    Json.listOf_map ThreadStart.tree id fun start _ => start.ofJson_tree
  rwa [List.map_id] at read

/-- The tree of starts is one that a value is read from. -/
@[simp]
theorem isValue_startsTree (starts : List ThreadStart) (α : Type) [Scalar α] :
    (startsTree starts).IsValue α :=
  Json.isValue_array α (List.forall_mem_map.mpr fun start _ => start.isValue_tree α)

/-- The tree of thread names is one level deep. -/
theorem depth_threadsTree_le (threads : List ThreadId) : (threadsTree threads).depth ≤ 1 :=
  Json.depth_array_le (List.forall_mem_map.mpr fun _ _ => Nat.le_refl 0)

/-- The tree of starts is at most two levels deep. -/
theorem depth_startsTree_le (starts : List ThreadStart) : (startsTree starts).depth ≤ 2 :=
  Json.depth_array_le (List.forall_mem_map.mpr fun start _ => start.depth_tree_le)

end SpriteMachine
