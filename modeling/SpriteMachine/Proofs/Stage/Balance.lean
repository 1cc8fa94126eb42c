import Mathlib.Data.List.Basic
import SpriteMachine.Proofs.Stage

/-!
# Balanced stages

A balanced stage counts its clones exactly and at most as many as allowed, has the original of
every target, and knows the target being edited. Targets that are renewed in place, that join
under a vacant name or that go before any other descends from them leave a stage balanced.
-/

namespace SpriteMachine

variable {α : Type} {limit : Nat}

/-- The original that a target descends from is told by its origin. -/
theorem Target.scriptOwner_of_origin {target other : Target α}
    (same : target.origin = other.origin) : target.scriptOwner = other.scriptOwner :=
  congrArg (fun origin : TargetId × Option TargetId => origin.2.getD origin.1) same

/-- An original runs the scripts of its own name. -/
theorem Target.scriptOwner_of_original {target : Target α} (original : target.isClone = false) :
    target.scriptOwner = target.id := by
  rw [isClone, Option.isSome_eq_false_iff, Option.isNone_iff_eq_none] at original
  rw [scriptOwner, original, Option.getD_none]

namespace Stage

variable {stage after : Stage α}

/-- A stage whose clones are counted and whose targets are accounted for. -/
structure Balanced (limit : Nat) (stage : Stage α) : Prop where
  keyed : stage.Keyed
  countable : limit ≤ Width.last64
  maxClones : stage.maxClones = limit
  count : stage.cloneCount = stage.cloneIds.length
  ceiling : stage.cloneCount ≤ limit
  originals : ∀ id target, stage.target? id = some target → ∃ original,
    stage.target? target.scriptOwner = some original ∧ original.isClone = false
  editing : ∀ id, stage.editing = some id → ∃ target, stage.target? id = some target

namespace Balanced

/-- The empty stage is in balance under any limit that can be counted. -/
theorem empty (countable : limit ≤ Width.last64) : Balanced limit (empty limit : Stage α) where
  keyed := keyed_empty limit
  countable := countable
  maxClones := rfl
  count := rfl
  ceiling := Nat.zero_le limit
  originals _ _ found := by cases found
  editing _ chosen := by cases chosen

variable (balanced : Balanced limit stage)

include balanced

/-- Without clones every target is an original. -/
theorem original_of_alone (alone : stage.cloneIds = []) {id : TargetId} {target : Target α}
    (found : stage.target? id = some target) : target.isClone = false := by
  rw [← Bool.not_eq_true]
  intro isClone
  have member := balanced.keyed.mem_cloneIds.mpr ⟨target, found, isClone⟩
  rw [alone] at member
  cases member

/-- The stage stays in balance when its targets are renewed. -/
theorem renew (renews : Renews stage after) : Balanced limit after where
  keyed := renews.changes.keyed balanced.keyed
  countable := balanced.countable
  maxClones := renews.limit.trans balanced.maxClones
  count := by rw [renews.count, renews.cloneIds balanced.keyed, balanced.count]
  ceiling := renews.count ▸ balanced.ceiling
  originals id target found := by
    obtain ⟨earlier, present, same⟩ := renewed (renews.origins id) found
    obtain ⟨original, stands, isOriginal⟩ := balanced.originals id earlier present
    obtain ⟨other, remains, kept⟩ := renewed (renews.origins _).symm stands
    exact ⟨other, Target.scriptOwner_of_origin same ▸ remains,
      (isClone_of_origin kept).trans isOriginal⟩
  editing id chosen := by
    obtain ⟨target, present⟩ := balanced.editing id (renews.editing ▸ chosen)
    obtain ⟨other, remains, -⟩ := renewed (renews.origins id).symm present
    exact ⟨other, remains⟩

/-- A target may be chosen for editing. -/
theorem setEditing (id : TargetId) : Balanced limit (stage.setEditing id).2 := by
  unfold Stage.setEditing
  split
  case isTrue present =>
    refine { balanced with editing := ?_ }
    rintro other ⟨rfl⟩
    rw [contains_eq_isSome] at present
    exact Option.isSome_iff_exists.mp present
  case isFalse => exact balanced

/-- A target joins whose original is there. -/
theorem join {added : Target α} (joins : Joins added stage after)
    (room : added.isClone = true → stage.cloneCount < limit)
    (original : ∃ original, after.target? added.scriptOwner = some original ∧
      original.isClone = false) : Balanced limit after where
  keyed := joins.change.keyed balanced.keyed
  countable := balanced.countable
  maxClones := joins.limit.trans balanced.maxClones
  count := by
    rw [joins.count, joins.cloneIds balanced.keyed, List.length_append, balanced.count]
    cases added.isClone <;> rfl
  ceiling := by
    have ceiling := balanced.ceiling
    rw [joins.count]
    split
    case isTrue isClone =>
      have below := room isClone
      omega
    case isFalse => exact ceiling
  originals id target found := by
    rw [joins.find] at found
    split at found
    case isTrue =>
      obtain rfl := Option.some.inj found
      exact original
    case isFalse =>
      obtain ⟨other, stands, isOriginal⟩ := balanced.originals id target found
      exact ⟨other, joins.stays stands, isOriginal⟩
  editing id chosen := by
    obtain ⟨target, found⟩ := balanced.editing id (joins.editing ▸ chosen)
    exact ⟨target, joins.stays found⟩

/-- One clone less is counted when a clone is removed. -/
theorem count_dispose {id : TargetId} {target : Target α} (found : stage.target? id = some target) :
    (stage.dispose id).2.cloneCount = (stage.dispose id).2.cloneIds.length := by
  have listed : id ∈ stage.cloneIds ↔ target.isClone = true := by
    simp [balanced.keyed.mem_cloneIds, found]
  rw [(dispose_found found).2.2.1, balanced.keyed.cloneIds_dispose]
  split
  case isTrue isClone =>
    have sum := balanced.count
    have small : stage.cloneCount ≤ Width.last64 := Nat.le_trans balanced.ceiling balanced.countable
    have fewer := List.length_erase_add_one (listed.mpr isClone)
    simp only [changeCloneCount]
    omega
  case isFalse original =>
    rw [List.erase_of_not_mem fun member => original (listed.mp member), balanced.count]

/-- A target goes from which no other descends. -/
theorem dispose {id : TargetId} {target : Target α} (found : stage.target? id = some target)
    (childless : ∀ other descendant, stage.target? other = some descendant → other ≠ id →
      descendant.scriptOwner ≠ id) : Balanced limit (stage.dispose id).2 where
  keyed := (Change.dispose stage id).keyed balanced.keyed
  countable := balanced.countable
  maxClones := (dispose_found found).2.2.2.1.trans balanced.maxClones
  count := balanced.count_dispose found
  ceiling := by
    have fewer := cloneCount_dispose found
    have ceiling := balanced.ceiling
    omega
  originals other descendant present := by
    rw [target_dispose] at present
    split at present
    case isTrue => cases present
    case isFalse different =>
      obtain ⟨original, there, isOriginal⟩ := balanced.originals other descendant present
      exact ⟨original, by
        rw [target_dispose, if_neg (childless other descendant present different), there],
        isOriginal⟩
  editing other chosen := by
    rw [(dispose_found found).2.2.2.2] at chosen
    split at chosen
    case isTrue => cases chosen
    case isFalse unchosen =>
      have different : other ≠ id := fun same => unchosen (same ▸ chosen)
      obtain ⟨descendant, stands⟩ := balanced.editing other chosen
      exact ⟨descendant, by rw [target_dispose, if_neg different, stands]⟩

/-- No target descends from a clone. -/
theorem childless_clone {id : TargetId} {target : Target α}
    (found : stage.target? id = some target) (isClone : target.isClone = true) (other : TargetId)
    (descendant : Target α) (present : stage.target? other = some descendant) :
    descendant.scriptOwner ≠ id := by
  intro same
  obtain ⟨original, there, isOriginal⟩ := balanced.originals other descendant present
  rw [same, found] at there
  rw [← Option.some.inj there, isClone] at isOriginal
  cases isOriginal

/-- Without clones no target descends from another one. -/
theorem childless_alone (alone : stage.cloneIds = []) {id : TargetId} (other : TargetId)
    (descendant : Target α) (present : stage.target? other = some descendant)
    (different : other ≠ id) : descendant.scriptOwner ≠ id := by
  rw [Target.scriptOwner_of_original (balanced.original_of_alone alone present),
    balanced.keyed other descendant present]
  exact different

end Balanced

end Stage

end SpriteMachine
