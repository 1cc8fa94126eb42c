import Mathlib.Logic.Relation
import SpriteMachine.Proofs.OrderedMap
import SpriteMachine.Stage.Basic

/-!
# Changes of the stage

Every operation of the stage comes down to three changes: targets are renewed in place,
which keeps their names and their origin, a target is removed, or one is inserted under a
vacant name. So every target stands under its own name, the instances of a sprite are
listed without repetition, and the stage never counts more clones than there are.
-/

namespace SpriteMachine

/-- What no change in place touches: the name of a target and the sprite it descends from. -/
def Target.origin {α : Type} (target : Target α) : TargetId × Option TargetId :=
  (target.id, target.cloneOf)

/-- A target without its bubble and its effects. -/
def Target.unadorned {α : Type} (target : Target α) : Target α :=
  { target with bubble := none, effects := .empty }

namespace Stage

variable {α : Type} {stage before after : Stage α}

/-- Every target stands under its own name. -/
def Keyed (stage : Stage α) : Prop :=
  ∀ id target, stage.target? id = some target → target.id = id

/-- The stage counts no more clones than there are under different names. -/
def Counted (stage : Stage α) : Prop :=
  ∃ names : List TargetId, names.Nodup ∧ stage.cloneCount ≤ names.length ∧
    ∀ id ∈ names, ∃ target, stage.target? id = some target ∧ target.isClone = true

/-- Targets are renewed in place: the same names stand in the same order, with the same
origins, and what is kept about the targets as a whole stays. -/
structure Renews (before after : Stage α) : Prop where
  keys : after.targets.keys = before.targets.keys
  origins : ∀ id, (after.target? id).map Target.origin = (before.target? id).map Target.origin
  count : after.cloneCount = before.cloneCount
  limit : after.maxClones = before.maxClones
  editing : after.editing = before.editing

/-- A target joins the others under a vacant name. -/
structure Joins (added : Target α) (before after : Stage α) : Prop where
  vacant : before.target? added.id = none
  targets : after.targets = before.targets.insert added.id added
  count : after.cloneCount = before.cloneCount + if added.isClone then 1 else 0
  limit : after.maxClones = before.maxClones
  editing : after.editing = before.editing

/-- One change of the stage. -/
inductive Change : Stage α → Stage α → Prop where
  | renew {before after : Stage α}
      (origins : ∀ id, (after.target? id).map Target.origin = (before.target? id).map Target.origin)
      (count : after.cloneCount = before.cloneCount) : Change before after
  | dispose (stage : Stage α) (id : TargetId) : Change stage (stage.dispose id).2
  | insert {before after : Stage α} (target : Target α)
      (vacant : before.target? target.id = none)
      (targets : after.targets = before.targets.insert target.id target)
      (count : after.cloneCount = before.cloneCount + if target.isClone then 1 else 0) :
      Change before after

/-- Changes one after another. -/
abbrev Changes : Stage α → Stage α → Prop := Relation.ReflTransGen Change

/-- On the empty stage there is no target that could stand under a foreign name. -/
theorem keyed_empty (maxClones : Nat) : (empty maxClones : Stage α).Keyed :=
  fun _ _ found => by cases found

/-- The empty stage counts no clone. -/
theorem counted_empty (maxClones : Nat) : (empty maxClones : Stage α).Counted :=
  ⟨[], List.nodup_nil, Nat.le_refl 0, fun _ none => absurd none List.not_mem_nil⟩

/-- A target that was renewed was there before, with the same name and origin. -/
theorem renewed {id : TargetId} {target : Target α}
    (origins : (after.target? id).map Target.origin = (before.target? id).map Target.origin)
    (found : after.target? id = some target) :
    ∃ earlier, before.target? id = some earlier ∧ earlier.origin = target.origin := by
  rw [found, Option.map_some] at origins
  exact Option.map_eq_some_iff.mp origins.symm

/-- Only the origin of a target tells whether it is a clone. -/
theorem isClone_of_origin {target other : Target α} (same : target.origin = other.origin) :
    target.isClone = other.isClone :=
  congrArg (fun origin => origin.2.isSome) same

/-- A name is taken exactly when a target is found under it. -/
theorem contains_eq_isSome (stage : Stage α) (id : TargetId) :
    stage.contains id = (stage.target? id).isSome :=
  OrderedMap.contains_eq_isSome stage.targets id

/-- The targets behind the removal of one. -/
theorem target_dispose (stage : Stage α) (id other : TargetId) :
    (stage.dispose id).2.target? other = if other = id then none else stage.target? other := by
  unfold dispose
  split
  case h_1 absent =>
    split
    case isTrue same => rw [same, absent]
    case isFalse => rfl
  case h_2 removed present =>
    have kept : (stage.targets.erase id).find? other =
        if other = id then none else stage.target? other := OrderedMap.find_erase _ _ _
    rw [← kept]
    dsimp only
    cases removed.isClone <;> split <;> rfl

/-- A name is vacant behind the removal of its target. -/
theorem vacant_dispose (stage : Stage α) (id : TargetId) :
    (stage.dispose id).2.target? id = none := by
  rw [target_dispose, if_pos rfl]

/-- What is kept about the targets as a whole behind the removal of one. -/
theorem dispose_found {id : TargetId} {target : Target α} (found : stage.target? id = some target) :
    (stage.dispose id).1 = some target ∧ (stage.dispose id).2.targets = stage.targets.erase id ∧
      (stage.dispose id).2.cloneCount =
        (if target.isClone then (stage.changeCloneCount (-1)).cloneCount else stage.cloneCount) ∧
      (stage.dispose id).2.maxClones = stage.maxClones ∧
      (stage.dispose id).2.editing = if stage.editing = some id then none else stage.editing := by
  unfold dispose
  rw [found]
  dsimp only
  refine ⟨?_, ?_, ?_, ?_, ?_⟩ <;> cases target.isClone <;> split <;> rfl

/-- The clones that are counted behind the removal of a target. -/
theorem cloneCount_dispose {id : TargetId} {target : Target α}
    (found : stage.target? id = some target) :
    (stage.dispose id).2.cloneCount ≤
      stage.cloneCount - if target.isClone then 1 else 0 := by
  rw [(dispose_found found).2.2.1]
  split
  case isTrue =>
    simp only [changeCloneCount]
    omega
  case isFalse => exact Nat.le_refl _

/-- Nothing is removed where there is nothing. -/
theorem dispose_absent {id : TargetId} (absent : stage.target? id = none) :
    (stage.dispose id).2 = stage := by
  rw [dispose, absent]

/-- A change of the stage leaves every target under its own name. -/
theorem Change.keyed (change : Change before after) (keyed : before.Keyed) : after.Keyed := by
  intro id target found
  cases change with
  | renew origins count =>
    obtain ⟨earlier, present, same⟩ := renewed (origins id) found
    exact (congrArg Prod.fst same).symm.trans (keyed id earlier present)
  | dispose removed =>
    rw [target_dispose] at found
    split at found
    case isTrue => cases found
    case isFalse => exact keyed id target found
  | insert added vacant targets count =>
    rw [target?, targets, OrderedMap.find_insert] at found
    split at found
    case isTrue same => rw [same, Option.some.inj found]
    case isFalse => exact keyed id target found

/-- However often the stage is changed, every target stands under its own name. -/
theorem Changes.keyed (changes : Changes before after) (keyed : before.Keyed) : after.Keyed := by
  induction changes with
  | refl => exact keyed
  | tail _ change inductionHypothesis => exact change.keyed inductionHypothesis

/-- One clone less is counted when a clone is removed. -/
theorem Counted.dispose (counted : stage.Counted) (id : TargetId) :
    (stage.dispose id).2.Counted := by
  cases found : stage.target? id with
  | none =>
    rw [dispose_absent found]
    exact counted
  | some target =>
    obtain ⟨names, distinct, count, clones⟩ := counted
    have fewer := cloneCount_dispose found
    refine ⟨names.erase id, distinct.erase id, ?_, fun other member => ?_⟩
    · by_cases member : id ∈ names
      · obtain ⟨clone, present, isClone⟩ := clones id member
        obtain rfl := Option.some.inj (found.symm.trans present)
        rw [if_pos isClone] at fewer
        rw [List.length_erase_of_mem member]
        omega
      · rw [List.erase_of_not_mem member]
        split at fewer <;> omega
    · obtain ⟨different, listed⟩ := (distinct.mem_erase_iff).mp member
      rw [target_dispose, if_neg different]
      exact clones other listed

/-- A change of the stage counts no clone that is not there. -/
theorem Change.counted (change : Change before after) (counted : before.Counted) :
    after.Counted := by
  cases change with
  | renew origins count =>
    obtain ⟨names, distinct, few, clones⟩ := counted
    refine ⟨names, distinct, count ▸ few, fun id member => ?_⟩
    obtain ⟨earlier, present, isClone⟩ := clones id member
    obtain ⟨target, found, same⟩ := renewed (origins id).symm present
    exact ⟨target, found, (isClone_of_origin same).trans isClone⟩
  | dispose id => exact counted.dispose id
  | insert target vacant targets count =>
    obtain ⟨names, distinct, few, clones⟩ := counted
    have kept : ∀ id ∈ names, ∃ clone, after.target? id = some clone ∧ clone.isClone = true := by
      intro id member
      obtain ⟨clone, present, isClone⟩ := clones id member
      refine ⟨clone, ?_, isClone⟩
      rw [target?, targets, OrderedMap.find_insert, if_neg, ← target?, present]
      rintro rfl
      rw [vacant] at present
      cases present
    cases isClone : target.isClone with
    | false =>
      rw [isClone] at count
      exact ⟨names, distinct, count ▸ few, kept⟩
    | true =>
      rw [isClone] at count
      refine ⟨target.id :: names, List.nodup_cons.mpr ⟨fun member => ?_, distinct⟩, ?_,
        List.forall_mem_cons.mpr ⟨⟨target, ?_, isClone⟩, kept⟩⟩
      · obtain ⟨clone, present, -⟩ := clones target.id member
        rw [vacant] at present
        cases present
      · rw [count, List.length_cons, if_pos rfl]
        omega
      · rw [target?, targets, OrderedMap.find_insert, if_pos rfl]

/-- However often the stage is changed, no clone is counted that is not there. -/
theorem Changes.counted (changes : Changes before after) (counted : before.Counted) :
    after.Counted := by
  induction changes with
  | refl => exact counted
  | tail _ change inductionHypothesis => exact change.counted inductionHypothesis

namespace Renews

/-- A stage that stays as it is renews its targets. -/
theorem refl (stage : Stage α) : Renews stage stage := ⟨rfl, fun _ => rfl, rfl, rfl, rfl⟩

/-- Targets renewed twice are renewed. -/
theorem trans {first second third : Stage α} (before : Renews first second)
    (after : Renews second third) : Renews first third where
  keys := after.keys.trans before.keys
  origins id := (after.origins id).trans (before.origins id)
  count := after.count.trans before.count
  limit := after.limit.trans before.limit
  editing := after.editing.trans before.editing

/-- To renew the targets is one change of the stage. -/
theorem changes (renews : Renews before after) : Changes before after :=
  .single (.renew renews.origins renews.count)

/-- Only the targets and what is kept about them as a whole matter. -/
theorem same (targets : after.targets = before.targets)
    (count : after.cloneCount = before.cloneCount) (limit : after.maxClones = before.maxClones)
    (editing : after.editing = before.editing) : Renews before after :=
  ⟨by rw [targets], fun _ => by rw [target?, targets, target?], count, limit, editing⟩

/-- A change of one target that keeps its name and its origin. -/
theorem altered (id : TargetId) (change : Target α → Target α)
    (targets : after.targets = before.targets.modify id change)
    (count : after.cloneCount = before.cloneCount) (limit : after.maxClones = before.maxClones)
    (editing : after.editing = before.editing)
    (kept : ∀ target, (change target).origin = target.origin) : Renews before after := by
  refine ⟨by rw [targets, OrderedMap.keys_modify], fun other => ?_, count, limit, editing⟩
  rw [target?, targets, OrderedMap.find_modify, ← target?]
  split
  case isTrue =>
    rw [Option.map_map]
    exact Option.map_congr fun target _ => kept target
  case isFalse => rfl

/-- A target is renewed by a change that keeps its name and its origin. -/
theorem modify (stage : Stage α) (id : TargetId) {change : Target α → Target α}
    (kept : ∀ target, (change target).origin = target.origin) :
    Renews stage (stage.modify id change) :=
  altered id change rfl rfl rfl rfl kept

/-- Asking for a redraw touches no target. -/
theorem requestRedraw (stage : Stage α) : Renews stage stage.requestRedraw :=
  same rfl rfl rfl rfl

/-- Forwarding a change to the renderer leaves the targets alone. -/
theorem forward (stage : Stage α) (id : TargetId) (change : AppearanceChange α) :
    Renews stage (stage.forward id change) := by
  unfold Stage.forward
  split
  case h_1 => exact refl stage
  case h_2 => split <;> exact same rfl rfl rfl rfl

/-- A target is changed, and its drawable too. -/
theorem forwarded (stage : Stage α) (id : TargetId) {change : Target α → Target α}
    (appearance : AppearanceChange α) (kept : ∀ target, (change target).origin = target.origin) :
    Renews stage ((stage.modify id change).forward id appearance) :=
  (modify stage id kept).trans (forward _ id appearance)

/-- A bubble is shown or cleared in place. -/
theorem setBubble (stage : Stage α) (id : TargetId) (bubble : Option Bubble) :
    Renews stage (stage.setBubble id bubble).2 := by
  unfold Stage.setBubble
  split
  case h_1 => exact refl stage
  case h_2 =>
    exact altered id ({ · with bubble := bubble.filter fun bubble => bubble.text ≠ "" }) rfl rfl
      rfl rfl fun _ => rfl

/-- The effects of a target are cleared in place. -/
theorem clearEffects (stage : Stage α) (id : TargetId) :
    Renews stage (stage.clearEffects id) := by
  unfold Stage.clearEffects
  split
  case isTrue => exact forwarded stage id _ fun _ => rfl
  case isFalse => exact refl stage

/-- A target is shown or hidden in place. -/
theorem setVisible (stage : Stage α) (id : TargetId) (visible : Bool) :
    Renews stage (stage.setVisible id visible).2 := by
  unfold Stage.setVisible
  split
  case h_1 => exact refl stage
  case h_2 =>
    split
    case isTrue => exact refl stage
    case isFalse =>
      dsimp only
      split <;> exact altered id ({ · with visible := visible }) rfl rfl rfl rfl fun _ => rfl

/-- A mark of an overflow is none of a target. -/
theorem mark (stage : Stage α) (overflows : Bool) : Renews stage (stage.mark overflows) :=
  same rfl rfl rfl rfl

/-- A costume is put on in place. -/
theorem setCostume (stage : Stage α) (id : TargetId) (number : Int) :
    Renews stage (stage.setCostume id number).2 := by
  unfold Stage.setCostume
  split
  case h_1 => exact refl stage
  case h_2 => exact (mark stage _).trans (forwarded _ id _ fun _ => rfl)

/-- Drawables change places without any target taking part. -/
theorem setLayerOrder (stage : Stage α) (id : TargetId) (position : Int) (relative : Bool) :
    Renews stage (stage.setLayerOrder id position relative).2 := by
  unfold Stage.setLayerOrder
  split
  case h_1 => exact same rfl rfl rfl rfl
  case h_2 => exact refl stage

/-- Changes along a walk through targets. -/
theorem foldl {change : Stage α → TargetId → Stage α}
    (renews : ∀ (stage : Stage α) id, Renews stage (change stage id))
    (ids : List TargetId) (stage : Stage α) : Renews stage (ids.foldl change stage) := by
  induction ids generalizing stage with
  | nil => exact refl stage
  | cons first rest inductionHypothesis =>
    exact (renews stage first).trans (inductionHypothesis (change stage first))

/-- The green flag clears the effects in place. -/
theorem onGreenFlag (stage : Stage α) : Renews stage stage.onGreenFlag :=
  foldl clearEffects _ stage

/-- A stop of everything clears bubbles and effects in place. -/
theorem onStopAll (stage : Stage α) : Renews stage stage.onStopAll :=
  foldl (fun stage id => (setBubble stage id none).trans (clearEffects _ id)) _ stage

end Renews

namespace Changes

/-- Only the targets and the count of the clones matter. -/
theorem same (targets : after.targets = before.targets)
    (count : after.cloneCount = before.cloneCount) : Changes before after := by
  refine .single (.renew (fun id => ?_) count)
  rw [target?, targets, target?]

/-- Removing several targets is as many changes of the stage. -/
theorem disposeAll (ids : List TargetId) (stage : Stage α) :
    Changes stage (stage.disposeAll ids).2 := by
  induction ids generalizing stage with
  | nil => exact .refl
  | cons first rest inductionHypothesis =>
    exact (inductionHypothesis (stage.dispose first).2).head (.dispose stage first)

/-- Removing all clones is as many changes of the stage as there are clones. -/
theorem disposeClones (stage : Stage α) : Changes stage stage.disposeClones.2 :=
  disposeAll stage.cloneIds stage

/-- The green flag changes the stage by renewing its targets. -/
theorem onGreenFlag (stage : Stage α) : Changes stage stage.onGreenFlag :=
  (Renews.onGreenFlag stage).changes

/-- A stop of everything changes the stage by renewing its targets. -/
theorem onStopAll (stage : Stage α) : Changes stage stage.onStopAll :=
  (Renews.onStopAll stage).changes

end Changes

/-- The names of keyed targets are the names under which they stand. -/
theorem Keyed.ids (keyed : stage.Keyed) :
    stage.targets.values.map Target.id = stage.targets.keys := by
  rw [OrderedMap.values, OrderedMap.keys, List.map_map]
  apply List.map_congr_left
  intro entry member
  exact keyed entry.1 entry.2 (OrderedMap.mem_entries_iff.mp member)

section Clones

/-- The clones are listed in the order of the targets. -/
theorem Keyed.cloneIds_eq (keyed : stage.Keyed) : stage.cloneIds =
    stage.targets.keys.filter fun id => (stage.target? id).any Target.isClone := by
  have present : ∀ entry ∈ stage.targets.entries, stage.target? entry.1 = some entry.2 :=
    fun entry member => OrderedMap.mem_entries_iff.mp member
  rw [cloneIds, OrderedMap.values, OrderedMap.keys, List.filter_map, List.filter_map, List.map_map,
    List.filter_congr fun entry member => show (Target.isClone ∘ Prod.snd) entry =
      ((fun id => (stage.target? id).any Target.isClone) ∘ Prod.fst) entry by
        simp [present entry member]]
  exact List.map_congr_left fun entry member =>
    keyed entry.1 entry.2 (present entry (List.mem_filter.mp member).1)

/-- The names of the clones are the names under which clones stand. -/
theorem Keyed.mem_cloneIds (keyed : stage.Keyed) {id : TargetId} :
    id ∈ stage.cloneIds ↔ ∃ target, stage.target? id = some target ∧ target.isClone = true := by
  rw [keyed.cloneIds_eq, List.mem_filter, Option.any_eq_true]
  refine and_iff_right_of_imp ?_
  rintro ⟨target, found, -⟩
  exact OrderedMap.mem_keys_iff.mpr ⟨target, found⟩

/-- Renewed targets are the same clones as before. -/
theorem Renews.cloneIds (renews : Renews before after) (keyed : before.Keyed) :
    after.cloneIds = before.cloneIds := by
  rw [(renews.changes.keyed keyed).cloneIds_eq, keyed.cloneIds_eq, renews.keys]
  refine List.filter_congr fun id _ => ?_
  have told : ∀ target : Option (Target α), target.any Target.isClone =
      (target.map Target.origin).any fun origin => origin.2.isSome := by
    rintro (_ | target) <;> rfl
  rw [told, told, renews.origins]

/-- Behind the removal of a target the names stand that stood before, without its own. -/
theorem keys_dispose (stage : Stage α) (id : TargetId) :
    (stage.dispose id).2.targets.keys = stage.targets.keys.filter (· ≠ id) := by
  cases found : stage.target? id with
  | none =>
    rw [dispose_absent found, List.filter_eq_self.mpr]
    intro other member
    obtain ⟨target, present⟩ := OrderedMap.mem_keys_iff.mp member
    refine decide_eq_true ?_
    rintro rfl
    rw [target?, present] at found
    cases found
  | some target =>
    rw [(dispose_found found).2.1, OrderedMap.keys, OrderedMap.keys, List.filter_map]
    rfl

/-- The clones are listed once. -/
theorem Keyed.nodup_cloneIds (keyed : stage.Keyed) : stage.cloneIds.Nodup :=
  keyed.cloneIds_eq ▸ (OrderedMap.keys_nodup stage.targets).filter _

/-- A target that is removed is listed no longer. -/
theorem Keyed.cloneIds_dispose (keyed : stage.Keyed) (id : TargetId) :
    (stage.dispose id).2.cloneIds = stage.cloneIds.erase id := by
  rw [keyed.nodup_cloneIds.erase_eq_filter, ((Change.dispose stage id).keyed keyed).cloneIds_eq,
    keyed.cloneIds_eq, keys_dispose, List.filter_filter, List.filter_filter]
  refine List.filter_congr fun other _ => ?_
  rw [target_dispose]
  by_cases same : other = id <;> simp [same]

namespace Joins

variable {added : Target α}

/-- A target that joins is one change of the stage. -/
theorem change (joins : Joins added before after) : Change before after :=
  .insert added joins.vacant joins.targets joins.count

/-- Behind the joining of a target it is found under its name, and all others as before. -/
theorem find (joins : Joins added before after) (id : TargetId) :
    after.target? id = if id = added.id then some added else before.target? id := by
  rw [target?, joins.targets, OrderedMap.find_insert, target?]

/-- The others stay. -/
theorem stays (joins : Joins added before after) {id : TargetId} {target : Target α}
    (found : before.target? id = some target) : after.target? id = some target := by
  rw [joins.find, if_neg, found]
  rintro rfl
  rw [joins.vacant] at found
  cases found

/-- The clone that joins is listed last. -/
theorem cloneIds (joins : Joins added before after) (keyed : before.Keyed) :
    after.cloneIds = before.cloneIds ++ if added.isClone then [added.id] else [] := by
  have absent : added.id ∉ before.targets.keys := fun member => by
    obtain ⟨other, found⟩ := OrderedMap.mem_keys_iff.mp member
    have vacant := joins.vacant
    rw [target?, found] at vacant
    cases vacant
  rw [(joins.change.keyed keyed).cloneIds_eq, keyed.cloneIds_eq, joins.targets,
    OrderedMap.keys_insert_of_absent absent, List.filter_append]
  refine congr (congrArg _ (List.filter_congr fun id member => ?_)) ?_
  · have different : id ≠ added.id := fun same => absent (same ▸ member)
    rw [joins.find, if_neg different]
  · rw [List.filter_cons, List.filter_nil, joins.find, if_pos rfl, Option.any_some]

end Joins

end Clones

section Stopping

/-- The mark of an overflow is on no target. -/
@[simp]
theorem target_mark (stage : Stage α) (overflows : Bool) (id : TargetId) :
    (stage.mark overflows).target? id = stage.target? id := rfl

/-- The renderer is told about a target, and the targets stay as they are. -/
@[simp]
theorem target_forward (stage : Stage α) (id other : TargetId) (change : AppearanceChange α) :
    (stage.forward id change).target? other = stage.target? other := by
  unfold Stage.forward
  split
  case h_1 => rfl
  case h_2 => split <;> rfl

/-- The targets behind the change of one. -/
theorem target_modify (stage : Stage α) (id other : TargetId) (change : Target α → Target α) :
    (stage.modify id change).target? other =
      if other = id then (stage.target? other).map change else stage.target? other :=
  OrderedMap.find_modify _ _ _ _

/-- One target loses its effects. -/
theorem target_clearEffects (stage : Stage α) (id other : TargetId) :
    (stage.clearEffects id).target? other =
      if other = id then (stage.target? other).map ({ · with effects := .empty })
      else stage.target? other := by
  unfold clearEffects
  by_cases present : stage.contains id = true
  · rw [if_pos present, target_forward, target_modify]
  · rw [if_neg present]
    rw [contains_eq_isSome, Option.not_isSome_iff_eq_none] at present
    by_cases same : other = id
    · rw [if_pos same, same, present, Option.map_none]
    · rw [if_neg same]

/-- One target gets another bubble, or none. -/
theorem target_setBubble (stage : Stage α) (id other : TargetId) (bubble : Option Bubble) :
    (stage.setBubble id bubble).2.target? other =
      if other = id then (stage.target? other).map
        ({ · with bubble := bubble.filter fun bubble => bubble.text ≠ "" })
      else stage.target? other := by
  cases found : stage.target? id with
  | none =>
    rw [setBubble, found]
    by_cases same : other = id
    · rw [if_pos same, same, found, Option.map_none]
    · rw [if_neg same]
  | some target =>
    rw [setBubble, found]
    exact target_modify stage id other _

/-- One target loses its bubble and its effects. -/
theorem target_clear (stage : Stage α) (id other : TargetId) :
    ((stage.setBubble id none).2.clearEffects id).target? other =
      if other = id then (stage.target? other).map Target.unadorned else stage.target? other := by
  rw [target_clearEffects, target_setBubble]
  by_cases same : other = id
  · rw [if_pos same, if_pos same, if_pos same, Option.map_map]
    rfl
  · rw [if_neg same, if_neg same, if_neg same]

/-- A walk that changes the target of each name it comes by changes those targets. It may come
by twice, since the change is settled after the first time. -/
theorem target_foldl {change : Stage α → TargetId → Stage α} {touch : Target α → Target α}
    (touches : ∀ stage id other, (change stage id).target? other =
      if other = id then (stage.target? other).map touch else stage.target? other)
    (settled : ∀ target, touch (touch target) = touch target) (ids : List TargetId)
    (stage : Stage α) (other : TargetId) :
    (ids.foldl change stage).target? other =
      if other ∈ ids then (stage.target? other).map touch else stage.target? other := by
  induction ids generalizing stage with
  | nil => rfl
  | cons first rest inductionHypothesis =>
    rw [List.foldl_cons, inductionHypothesis, touches]
    by_cases same : other = first
    · cases stage.target? other <;> simp [same, settled]
    · simp [same]

/-- A walk through all targets changes every one of them. -/
theorem target_walk {change : Stage α → TargetId → Stage α} {touch : Target α → Target α}
    (touches : ∀ stage id other, (change stage id).target? other =
      if other = id then (stage.target? other).map touch else stage.target? other)
    (settled : ∀ target, touch (touch target) = touch target) (stage : Stage α) (id : TargetId) :
    (stage.targets.keys.foldl change stage).target? id = (stage.target? id).map touch := by
  rw [target_foldl touches settled]
  by_cases listed : id ∈ stage.targets.keys
  · rw [if_pos listed]
  · rw [if_neg listed]
    cases found : stage.target? id with
    | none => rfl
    | some target => exact absurd (OrderedMap.mem_keys_iff.mpr ⟨target, found⟩) listed

/-- Whatever was there stays without bubble and effects when everything stops. -/
theorem target_onStopAll (stage : Stage α) (id : TargetId) :
    stage.onStopAll.target? id = (stage.target? id).map Target.unadorned :=
  target_walk target_clear (fun _ => rfl) stage id

/-- Whatever was there stays without effects when the green flag is clicked. -/
theorem target_onGreenFlag (stage : Stage α) (id : TargetId) :
    stage.onGreenFlag.target? id = (stage.target? id).map ({ · with effects := .empty }) :=
  target_walk target_clearEffects (fun _ => rfl) stage id

/-- The green flag leaves the origin of every target as it was. -/
theorem origin_onGreenFlag (stage : Stage α) (id : TargetId) :
    (stage.onGreenFlag.target? id).map Target.origin = (stage.target? id).map Target.origin :=
  (Renews.onGreenFlag stage).origins id

/-- Of several targets removed none is found, and all others are found as before. -/
theorem target_disposeAll (ids : List TargetId) (stage : Stage α) (other : TargetId) :
    (stage.disposeAll ids).2.target? other =
      if other ∈ ids then none else stage.target? other := by
  induction ids generalizing stage with
  | nil => rfl
  | cons first rest inductionHypothesis =>
    change ((stage.dispose first).2.disposeAll rest).2.target? other = _
    rw [inductionHypothesis, target_dispose]
    by_cases same : other = first <;> simp [same]

/-- The clones of keyed targets go, and all others stay. -/
theorem Keyed.target_disposeClones (keyed : stage.Keyed) (id : TargetId) :
    stage.disposeClones.2.target? id = (stage.target? id).filter (!·.isClone) := by
  rw [disposeClones, target_disposeAll]
  cases found : stage.target? id with
  | none => simp
  | some target =>
    cases isClone : target.isClone <;>
      simp [keyed.mem_cloneIds, found, isClone, Option.filter_some]

/-- Where no clones are, none are counted. -/
theorem Counted.none (counted : stage.Counted)
    (originals : ∀ id target, stage.target? id = some target → target.isClone = false) :
    stage.cloneCount = 0 := by
  obtain ⟨names, -, few, clones⟩ := counted
  cases names with
  | nil => exact Nat.le_zero.mp few
  | cons first rest =>
    obtain ⟨target, found, isClone⟩ := clones first List.mem_cons_self
    rw [originals first target found] at isClone
    cases isClone

end Stopping

variable [Scalar α]

/-- Drawables change no origins. -/
theorem presentAll_origins (renderer : Renderer α) (targets : List (Target α)) :
    (presentAll renderer targets).1.map Target.origin = targets.map Target.origin := by
  induction targets generalizing renderer with
  | nil => rfl
  | cons first rest inductionHypothesis =>
    exact congrArg (first.origin :: ·) (inductionHypothesis (present renderer first).2)

namespace Renews

/-- A target moves in place. -/
theorem setPosition (stage : Stage α) (id : TargetId) (x y : α) (fenced : Bool) :
    Renews stage (stage.setPosition id x y fenced).2 := by
  unfold Stage.setPosition
  split
  case h_1 => exact refl stage
  case h_2 =>
    split
    case isTrue => exact refl stage
    case isFalse => exact forwarded stage id _ fun _ => rfl

/-- The pose of a target is passed on without touching the target. -/
theorem forwardPose (stage : Stage α) (id : TargetId) : Renews stage (stage.forwardPose id) := by
  unfold Stage.forwardPose
  split
  case h_1 => exact refl stage
  case h_2 => exact forward _ _ _

/-- A target is changed, and the pose that it is drawn with too. -/
theorem posed (stage : Stage α) (id : TargetId) {change : Target α → Target α}
    (kept : ∀ target, (change target).origin = target.origin) :
    Renews stage ((stage.modify id change).forwardPose id) :=
  (modify stage id kept).trans (forwardPose _ id)

/-- A target turns in place. -/
theorem setDirection (stage : Stage α) (id : TargetId) (angle : α) :
    Renews stage (stage.setDirection id angle).2 := by
  unfold Stage.setDirection
  split
  case h_1 => exact refl stage
  case h_2 =>
    split
    case isTrue => exact refl stage
    case isFalse => exact posed stage id fun _ => rfl

/-- A rotation style is chosen in place. -/
theorem setRotationStyle (stage : Stage α) (id : TargetId) (style : RotationStyle) :
    Renews stage (stage.setRotationStyle id style).2 := by
  unfold Stage.setRotationStyle
  split
  case isTrue => exact posed stage id fun _ => rfl
  case isFalse => exact refl stage

/-- A target grows or shrinks in place. -/
theorem setSize (stage : Stage α) (id : TargetId) (size : α) :
    Renews stage (stage.setSize id size).2 := by
  unfold Stage.setSize
  split
  case h_1 => exact refl stage
  case h_2 =>
    split
    case isTrue => exact refl stage
    case isFalse => exact forwarded stage id _ fun _ => rfl

/-- The strength of an effect is set in place. -/
theorem setEffect (stage : Stage α) (id : TargetId) (effect : String) (strength : α) :
    Renews stage (stage.setEffect id effect strength).2 := by
  unfold Stage.setEffect
  split
  case isTrue => exact refl stage
  case isFalse =>
    split
    case h_1 => exact refl stage
    case h_2 => exact forwarded stage id _ fun _ => rfl

/-- Targets that got drawables were there before. -/
theorem attach_origin {stage : Stage α} {renderer : Renderer α} {id : TargetId}
    {target : Target α} (found : (stage.attach renderer).target? id = some target) :
    (stage.target? id).map Target.origin = some target.origin := by
  rcases OrderedMap.find_insertAll_cases _ _ _ _ found with member | ⟨-, kept⟩
  · have shape : stage.targets.keys.zip (stage.targets.values.map Target.origin) =
        stage.targets.entries.map fun entry => (entry.1, entry.2.origin) := by
      rw [OrderedMap.values, OrderedMap.keys, List.map_map, List.zip_map']
      rfl
    have zipped : (id, target.origin) ∈ stage.targets.keys.zip
        (stage.targets.values.map Target.origin) := by
      rw [← presentAll_origins renderer, List.zip_map_right]
      exact List.mem_map.mpr ⟨(id, target), member, rfl⟩
    rw [shape, List.mem_map] at zipped
    obtain ⟨⟨other, earlier⟩, present, same⟩ := zipped
    obtain ⟨rfl, origin⟩ := Prod.mk.inj same
    rw [target?, OrderedMap.mem_entries_iff.mp present, Option.map_some, origin]
  · rw [target?, kept, Option.map_some]

/-- As many targets get drawables as there are. -/
theorem length_presentAll (stage : Stage α) (renderer : Renderer α) :
    stage.targets.keys.length ≤ (presentAll renderer stage.targets.values).1.length := by
  have same := congrArg List.length (presentAll_origins renderer stage.targets.values)
  rw [List.length_map, List.length_map] at same
  refine Nat.le_of_eq ?_
  rw [same, OrderedMap.keys, OrderedMap.values, List.length_map, List.length_map]

/-- A renderer is attached without any target taking part. -/
theorem attach (stage : Stage α) (renderer : Renderer α) :
    Renews stage (stage.attach renderer) := by
  have named : (stage.targets.keys.zip (presentAll renderer stage.targets.values).1).map Prod.fst =
      stage.targets.keys := List.map_fst_zip (length_presentAll stage renderer)
  have keys : (stage.attach renderer).targets.keys = stage.targets.keys :=
    OrderedMap.keys_insertAll_of_present fun id member => named ▸ member
  refine ⟨keys, fun id => ?_, rfl, rfl, rfl⟩
  cases found : (stage.attach renderer).target? id with
  | some target => exact (attach_origin found).symm
  | none =>
    cases present : stage.target? id with
    | none => rfl
    | some earlier =>
      have listed : id ∈ (stage.attach renderer).targets.keys :=
        keys ▸ OrderedMap.mem_keys_iff.mpr ⟨earlier, present⟩
      obtain ⟨target, kept⟩ := OrderedMap.mem_keys_iff.mp listed
      rw [← target?, found] at kept
      cases kept

end Renews

/-- A target under a vacant name joins the others, with a drawable at most. -/
theorem add_vacant {target : Target α} (vacant : stage.target? target.id = none) :
    ∃ drawable, Joins { target with drawable := drawable } stage (stage.add target) := by
  have absent : stage.contains target.id = false := by
    rw [contains_eq_isSome, vacant]
    rfl
  unfold Stage.add
  dsimp only
  rw [absent, if_neg Bool.false_ne_true]
  split
  case h_1 renderer _ =>
    refine ⟨(present renderer target).1.drawable, vacant, ?_, ?_, ?_, ?_⟩
    · cases target.isClone <;> rfl
    · change _ = stage.cloneCount + if target.isClone then 1 else 0
      cases target.isClone <;> rfl
    · cases target.isClone <;> rfl
    · cases target.isClone <;> rfl
  case h_2 =>
    refine ⟨target.drawable, ?_⟩
    change Joins target stage _
    refine ⟨vacant, ?_, ?_, ?_, ?_⟩ <;> cases target.isClone <;> rfl

/-- A target gives way to one that is added under its name. -/
theorem add_eq (stage : Stage α) (target : Target α) :
    stage.add target = (stage.dispose target.id).2.add target := by
  have gone : (stage.dispose target.id).2.contains target.id = false := by
    rw [contains_eq_isSome, vacant_dispose]
    rfl
  cases present : stage.contains target.id with
  | true => simp only [Stage.add, present, gone, if_true, Bool.false_eq_true, if_false]
  | false =>
    rw [contains_eq_isSome, Option.isSome_eq_false_iff, Option.isNone_iff_eq_none] at present
    rw [dispose_absent present]

/-- Whatever is added stands under its name, and the others stay. -/
theorem origin_add (stage : Stage α) (target : Target α) (id : TargetId) :
    ((stage.add target).target? id).map Target.origin =
      if id = target.id then some target.origin else (stage.target? id).map Target.origin := by
  obtain ⟨drawable, joins⟩ := add_vacant (vacant_dispose stage target.id)
  rw [add_eq, joins.find, target_dispose]
  split <;> rfl

namespace Changes

/-- Attaching a renderer changes the stage by leaving its targets as they are. -/
theorem attach (stage : Stage α) (renderer : Renderer α) :
    Changes stage (stage.attach renderer) :=
  (Renews.attach stage renderer).changes

/-- A target of the same name gives way to one that is added. -/
theorem add (stage : Stage α) (target : Target α) : Changes stage (stage.add target) := by
  obtain ⟨drawable, joins⟩ := add_vacant (vacant_dispose stage target.id)
  rw [add_eq]
  exact .head (.dispose stage target.id) (.single joins.change)

end Changes

end Stage

end SpriteMachine
