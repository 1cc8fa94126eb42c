import Mathlib.Data.List.Nodup
import SpriteMachine.Scheduler.State

/-!
# What notices tell about clones

Subscribers are told when a clone is made and when a target is removed. From the notices
alone, newest first, it can be read which clones there are, in the order in which they were
made, which of them were removed, and from which target each descends.
-/

namespace SpriteMachine

namespace Notice

/-- The target that a notice announces as made. -/
def created? : Notice → Option TargetId
  | targetWasCreated id _ => some id
  | _ => none

/-- The target that a notice announces as removed. -/
def removed? : Notice → Option TargetId
  | targetWasRemoved id => some id
  | _ => none

/-- A notice that announces neither. -/
def IsAside (notice : Notice) : Prop := notice.created? = none ∧ notice.removed? = none

/-- The clones that were announced as made. -/
def created (notices : List Notice) : List TargetId := notices.filterMap created?

/-- The clones that were made and not removed since, oldest first. -/
def standing : List Notice → List TargetId
  | [] => []
  | targetWasCreated id _ :: earlier => standing earlier ++ [id]
  | targetWasRemoved id :: earlier => (standing earlier).erase id
  | _ :: earlier => standing earlier

/-- The clones that were removed while they stood. -/
def dismissed : List Notice → List TargetId
  | [] => []
  | targetWasRemoved id :: earlier =>
    if id ∈ standing earlier then id :: dismissed earlier else dismissed earlier
  | _ :: earlier => dismissed earlier

/-- The target at the root of a line of clones: a clone's source was there before it. -/
def root : List Notice → TargetId → TargetId
  | [], id => id
  | targetWasCreated clone (some source) :: earlier, id =>
    root earlier (if id = clone then source else id)
  | _ :: earlier, id => root earlier id

/-- What was announced about a target, newest first. -/
def about (id : TargetId) (notices : List Notice) : List Notice :=
  notices.filter fun notice => notice.created? = some id || notice.removed? = some id

section Aside

variable {notice : Notice} (aside : notice.IsAside) (earlier : List Notice)

include aside

/-- A notice of another kind makes no clone. -/
theorem created_aside : created (notice :: earlier) = created earlier := by
  rw [created, List.filterMap_cons, aside.1, created]

/-- A notice of another kind leaves the clones that stand. -/
theorem standing_aside : standing (notice :: earlier) = standing earlier := by
  cases notice with
  | targetWasCreated clone source => cases aside.1
  | targetWasRemoved gone => cases aside.2
  | _ => rfl

/-- A notice of another kind leaves the origin of every clone. -/
theorem root_aside (id : TargetId) : root (notice :: earlier) id = root earlier id := by
  cases notice with
  | targetWasCreated clone source => cases aside.1
  | _ => rfl

/-- A notice of another kind is about no clone. -/
theorem about_aside (id : TargetId) : about id (notice :: earlier) = about id earlier := by
  rw [about, List.filter_cons, aside.1, aside.2]
  rfl

end Aside

/-- The making of a clone is about that clone. -/
theorem about_created (clone id : TargetId) (source : Option TargetId) (earlier : List Notice) :
    about id (targetWasCreated clone source :: earlier) =
      if clone = id then targetWasCreated clone source :: about id earlier
      else about id earlier := by
  by_cases same : clone = id <;> simp [about, created?, removed?, same]

/-- The removal of a clone is about that clone. -/
theorem about_removed (gone id : TargetId) (earlier : List Notice) :
    about id (targetWasRemoved gone :: earlier) =
      if gone = id then targetWasRemoved gone :: about id earlier else about id earlier := by
  by_cases same : gone = id <;> simp [about, created?, removed?, same]

/-- What was not made is no clone of anything. -/
theorem root_unmade {notices : List Notice} {id : TargetId} (unmade : id ∉ created notices) :
    root notices id = id := by
  fun_induction root notices id with
  | case1 => rfl
  | case2 clone source earlier id inductionHypothesis =>
    have different : id ≠ clone := fun same => unmade (same ▸ List.mem_cons_self)
    rw [if_neg different] at inductionHypothesis ⊢
    exact inductionHypothesis fun made => unmade (List.mem_cons_of_mem _ made)
  | case3 notice earlier id foreign inductionHypothesis =>
    refine inductionHypothesis fun made => unmade ?_
    rw [created, List.filterMap_cons]
    split
    case h_1 => exact made
    case h_2 => exact List.mem_cons_of_mem _ made

/-- Only clones that were made stand. -/
theorem created_of_standing {notices : List Notice} {id : TargetId}
    (stands : id ∈ standing notices) : id ∈ created notices := by
  fun_induction standing notices with
  | case1 => exact stands
  | case2 clone source earlier inductionHypothesis =>
    rcases List.mem_append.mp stands with before | last
    · exact List.mem_cons_of_mem _ (inductionHypothesis before)
    · rw [List.mem_singleton.mp last]
      exact List.mem_cons_self
  | case3 gone earlier inductionHypothesis =>
    exact inductionHypothesis (List.mem_of_mem_erase stands)
  | case4 notice earlier unmade kept inductionHypothesis =>
    rw [created, List.filterMap_cons]
    split
    case h_1 => exact inductionHypothesis stands
    case h_2 => exact List.mem_cons_of_mem _ (inductionHypothesis stands)

/-- Every clone that was made stands or was removed. -/
theorem standing_dismissed {notices : List Notice} (once : (created notices).Nodup) :
    (standing notices).length + (dismissed notices).length = (created notices).length := by
  fun_induction standing notices with
  | case1 => rfl
  | case2 clone source earlier inductionHypothesis =>
    obtain ⟨-, before⟩ := List.nodup_cons.mp once
    have sum := inductionHypothesis before
    rw [List.length_append, List.length_singleton, dismissed,
      show created (targetWasCreated clone source :: earlier) = clone :: created earlier from rfl,
      List.length_cons]
    · omega
    · exact fun _ same => by cases same
  | case3 gone earlier inductionHypothesis =>
    have before : (created earlier).Nodup := once
    have sum := inductionHypothesis before
    have made : created (targetWasRemoved gone :: earlier) = created earlier := rfl
    rw [dismissed, made]
    split
    case isTrue stands =>
      have fewer := List.length_erase_add_one stands
      rw [List.length_cons]
      omega
    case isFalse absent =>
      rw [List.erase_of_not_mem absent]
      exact sum
  | case4 notice earlier unmade kept inductionHypothesis =>
    have aside : notice.IsAside := by
      cases notice with
      | targetWasCreated clone source => exact absurd rfl (unmade clone source)
      | targetWasRemoved gone => exact absurd rfl (kept gone)
      | _ => exact ⟨rfl, rfl⟩
    rw [created_aside aside] at once ⊢
    rw [dismissed]
    · exact inductionHypothesis once
    · exact kept

end Notice

end SpriteMachine
