import Mathlib.Data.List.Basic
import SpriteMachine.Block.Registry

/-!
# What a registry misses

Sorting names and listing each once loses none and adds none, so a registry misses exactly
the opcodes among some that name no block.
-/

namespace SpriteMachine

/-- Setting a key adds it to the keys there are. -/
theorem Fields.mem_insert {β : Type} {key name : String} {value : β}
    {entries : List (String × β)} :
    name ∈ (Fields.insert key value entries).map Prod.fst ↔
      name = key ∨ name ∈ entries.map Prod.fst := by
  induction entries with
  | nil => simp [Fields.insert]
  | cons first rest inductionHypothesis =>
    obtain ⟨other, kept⟩ := first
    unfold Fields.insert
    split
    case isTrue => simp
    case isFalse =>
      split
      case isTrue same => simp [same]
      case isFalse =>
        rw [List.map_cons, List.mem_cons, inductionHypothesis, List.map_cons, List.mem_cons]
        exact or_left_comm

namespace Registry

/-- Sorting loses and adds no name. -/
theorem mem_sortedOnce {names : List String} {name : String} :
    name ∈ sortedOnce names ↔ name ∈ names := by
  have folded : ∀ (names : List String) (entries : List (String × Unit)),
      name ∈ ((names.map fun name => (name, ())).foldl
        (fun fields (key, value) => Fields.insert key value fields) entries).map Prod.fst ↔
          name ∈ entries.map Prod.fst ∨ name ∈ names := by
    intro names
    induction names with
    | nil => simp
    | cons first rest inductionHypothesis =>
      intro entries
      rw [List.map_cons, List.foldl_cons, inductionHypothesis, Fields.mem_insert, List.mem_cons,
        or_assoc, or_left_comm]
  refine (folded names []).trans ?_
  rw [List.map_nil]
  exact ⟨fun either => either.resolve_left List.not_mem_nil, Or.inr⟩

/-- Nothing is missing when every opcode names a block. -/
theorem missing_eq_nil {registry : Registry} {opcodes : List String} :
    registry.missing opcodes = [] ↔ ∀ opcode ∈ opcodes, (registry.block? opcode).isSome := by
  rw [List.eq_nil_iff_forall_not_mem]
  simp only [missing, mem_sortedOnce, List.mem_filter, hasBlock, Bool.not_eq_true',
    Bool.not_eq_false, not_and]

/-- A block that an opcode names is offered by a package under that opcode. -/
theorem exists_of_block {registry : Registry} {opcode : String} {block : Block}
    (known : registry.block? opcode = some block) :
    ∃ package ∈ registry.packages, (opcode, block) ∈ package.blocks := by
  obtain ⟨package, member, offers⟩ := List.exists_of_findSome?_eq_some known
  obtain ⟨before, after, split, -⟩ := List.lookup_eq_some_iff.mp offers
  refine ⟨package, List.mem_reverse.mp member, ?_⟩
  rw [split]
  exact List.mem_append_right before List.mem_cons_self

/-- The packages that scripts can count on offer no probes. -/
theorem standard_unprobed (opcode : String) (probe : ProbeBlock) :
    standard.block? opcode ≠ some (.probe probe) := by
  intro offered
  obtain ⟨package, member, entry⟩ := exists_of_block offered
  have unprobed : ∀ package ∈ standard.packages, ∀ entry ∈ package.blocks,
      (entry.2 matches .probe _) = false := by decide
  cases unprobed package member _ entry

end Registry

end SpriteMachine
