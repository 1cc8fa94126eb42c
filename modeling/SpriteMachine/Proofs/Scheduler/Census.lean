import SpriteMachine.Proofs.Identifier
import SpriteMachine.Proofs.Scheduler.Notice
import SpriteMachine.Proofs.Stage.Balance

/-!
# The census of clones

The targets of the stage and the notices given to subscribers are kept in different places.
They agree when the clones that stand according to the notices are those on the stage, in the
same order, and when every target runs the scripts of the original from which the notices
derive it.

The census still holds when targets are renewed in place, when a clone is made under a name
that was never issued and announced, and when a target from which no other descends is removed
and announced.
-/

namespace SpriteMachine

variable {α : Type} {limit : Nat}

namespace Stage

variable {stage after : Stage α} {notices : List Notice} {ids : IdSource}

/-- What was last told about a clone: it was made and stands, or it was removed and is gone. -/
def Tells (stage : Stage α) (notices : List Notice) (id : TargetId) : Prop :=
  ∃ source earlier,
    (Notice.about id notices = .targetWasCreated id source :: earlier ∧ id ∈ stage.cloneIds) ∨
      (Notice.about id notices = .targetWasRemoved id :: .targetWasCreated id source :: earlier ∧
        stage.target? id = none)

/-- Stage and notices agree about clones. -/
structure Census (limit : Nat) (stage : Stage α) (notices : List Notice) (ids : IdSource) : Prop
    extends Balanced limit stage where
  distinct : ids.Distinct
  standing : stage.cloneIds = Notice.standing notices
  once : (Notice.created notices).Nodup
  issued : ∀ id ∈ Notice.created notices, ids.Issued id.text
  tells : ∀ id ∈ Notice.created notices, stage.Tells notices id
  owners : ∀ id target, stage.target? id = some target →
    target.scriptOwner = Notice.root notices id

namespace Census

/-- On the empty stage there are no clones to agree about. -/
theorem empty (distinct : ids.Distinct) (countable : limit ≤ Width.last64) :
    Census limit (empty limit : Stage α) [] ids where
  toBalanced := .empty countable
  distinct := distinct
  standing := rfl
  once := List.nodup_nil
  issued _ none := (List.not_mem_nil none).elim
  tells _ none := (List.not_mem_nil none).elim
  owners _ _ found := by cases found

variable (census : Census limit stage notices ids)

include census

/-- A source of names may go on. -/
theorem continued {later : IdSource} (continues : IdSource.Continues ids later) :
    Census limit stage notices later :=
  { census with
    distinct := continues.distinct census.distinct
    issued := fun id made => continues.issued_of (census.issued id made) }

/-- A notice that is not about targets may be given. -/
theorem aside {notice : Notice} (aside : notice.IsAside) :
    Census limit stage (notice :: notices) ids where
  toBalanced := census.toBalanced
  distinct := census.distinct
  standing := (Notice.standing_aside aside notices).symm ▸ census.standing
  once := (Notice.created_aside aside notices).symm ▸ census.once
  issued := (Notice.created_aside aside notices).symm ▸ census.issued
  tells := by
    rw [Notice.created_aside aside]
    intro id made
    obtain ⟨source, earlier, told⟩ := census.tells id made
    exact ⟨source, earlier, by rwa [Notice.about_aside aside]⟩
  owners id target found :=
    (Notice.root_aside aside notices id).symm ▸ census.owners id target found

/-- Targets may be renewed in place. -/
theorem renew (renews : Renews stage after) : Census limit after notices ids where
  toBalanced := census.toBalanced.renew renews
  distinct := census.distinct
  standing := (renews.cloneIds census.keyed).trans census.standing
  once := census.once
  issued := census.issued
  tells id made := by
    obtain ⟨source, earlier, told⟩ := census.tells id made
    rw [Tells, renews.cloneIds census.keyed]
    refine ⟨source, earlier, told.imp_right (And.imp_right fun gone => ?_)⟩
    have origins := renews.origins id
    rwa [gone, Option.map_none, Option.map_eq_none_iff] at origins
  owners id target found := by
    obtain ⟨earlier, present, same⟩ := renewed (renews.origins id) found
    exact (Target.scriptOwner_of_origin same).symm.trans (census.owners id earlier present)

/-- The census is kept when another target is edited. -/
theorem setEditing (id : TargetId) : Census limit (stage.setEditing id).2 notices ids := by
  have chosen : (stage.setEditing id).2.targets = stage.targets := by
    unfold Stage.setEditing
    split <;> rfl
  refine { census with toBalanced := census.toBalanced.setEditing id, standing := ?_, tells := ?_,
                       owners := ?_ }
  · rw [← census.standing, cloneIds, cloneIds, chosen]
  · intro id made
    have told := census.tells id made
    rwa [Tells, cloneIds, target?, ← chosen, ← target?, ← cloneIds] at told
  · intro id target found
    rw [target?, chosen] at found
    exact census.owners id target found

/-- An original joins under a name that no clone had. -/
theorem settle {added : Target α} (joins : Joins added stage after)
    (original : added.isClone = false) (unmade : added.id ∉ Notice.created notices) :
    Census limit after notices ids where
  toBalanced := by
    refine census.toBalanced.join joins (fun isClone => absurd isClone (by simp [original]))
      ⟨added, ?_, original⟩
    rw [Target.scriptOwner_of_original original, joins.find, if_pos rfl]
  distinct := census.distinct
  standing := by rw [joins.cloneIds census.keyed, original, ← census.standing]; simp
  once := census.once
  issued := census.issued
  tells id made := by
    obtain ⟨source, earlier, told⟩ := census.tells id made
    have different : id ≠ added.id := fun same => unmade (same ▸ made)
    refine ⟨source, earlier, ?_⟩
    rw [joins.cloneIds census.keyed, joins.find, if_neg different]
    exact told.imp_left (And.imp_right (List.mem_append_left _))
  owners id target found := by
    rw [joins.find] at found
    split at found
    case isTrue same =>
      obtain rfl := Option.some.inj found
      rw [Target.scriptOwner_of_original original, same, Notice.root_unmade unmade]
    case isFalse => exact census.owners id target found

/-- A clone of a target that is there joins under a name that was never issued, and is
announced. -/
theorem spawn {added parent : Target α} {source : TargetId} {later : IdSource}
    (joins : Joins added stage after) (room : stage.cloneCount < limit)
    (found : stage.target? source = some parent)
    (descends : added.cloneOf = some parent.scriptOwner)
    (continues : IdSource.Continues ids later) (unissued : ¬ ids.Issued added.id.text)
    (drawn : later.Issued added.id.text) :
    Census limit after (.targetWasCreated added.id (some source) :: notices) later := by
  have isClone : added.isClone = true := by rw [Target.isClone, descends]; rfl
  have owner : added.scriptOwner = parent.scriptOwner := by rw [Target.scriptOwner, descends]; rfl
  have unmade : added.id ∉ Notice.created notices :=
    fun made => unissued (census.issued added.id made)
  have listed : after.cloneIds = stage.cloneIds ++ [added.id] := by
    rw [joins.cloneIds census.keyed, isClone, if_pos rfl]
  refine
    { toBalanced := ?_
      distinct := continues.distinct census.distinct
      standing := by rw [listed, census.standing, Notice.standing]
      once := List.nodup_cons.mpr ⟨unmade, census.once⟩
      issued := List.forall_mem_cons.mpr
        ⟨drawn, fun id made => continues.issued_of (census.issued id made)⟩
      tells := List.forall_mem_cons.mpr ⟨?_, fun id made => ?_⟩
      owners := ?_ }
  · obtain ⟨original, there, isOriginal⟩ := census.originals source parent found
    exact census.toBalanced.join joins (fun _ => room)
      ⟨original, owner ▸ joins.stays there, isOriginal⟩
  · refine ⟨some source, Notice.about added.id notices, Or.inl ⟨?_, ?_⟩⟩
    · rw [Notice.about_created, if_pos rfl]
    · rw [listed]
      exact List.mem_append_right _ List.mem_cons_self
  · obtain ⟨origin, earlier, told⟩ := census.tells id made
    have different : added.id ≠ id := fun same => unmade (same ▸ made)
    refine ⟨origin, earlier, ?_⟩
    rw [Notice.about_created, if_neg different, listed, joins.find, if_neg (Ne.symm different)]
    exact told.imp_left (And.imp_right (List.mem_append_left _))
  · intro id target present
    rw [joins.find] at present
    rw [Notice.root]
    split at present
    case isTrue same =>
      rw [if_pos same, ← Option.some.inj present, owner, census.owners source parent found]
    case isFalse different => rw [if_neg different, census.owners id target present]

/-- A target from which no other descends is removed and announced. -/
theorem remove {id : TargetId} {target : Target α} (found : stage.target? id = some target)
    (childless : ∀ other descendant, stage.target? other = some descendant → other ≠ id →
      descendant.scriptOwner ≠ id) :
    Census limit (stage.dispose id).2 (.targetWasRemoved id :: notices) ids where
  toBalanced := census.toBalanced.dispose found childless
  distinct := census.distinct
  standing := by rw [census.keyed.cloneIds_dispose, census.standing, Notice.standing]
  once := census.once
  issued := census.issued
  tells other made := by
    obtain ⟨source, earlier, told⟩ := census.tells other made
    refine ⟨source, earlier, ?_⟩
    rw [Notice.about_removed, census.keyed.cloneIds_dispose, target_dispose,
      census.keyed.nodup_cloneIds.mem_erase_iff]
    by_cases same : other = id
    · subst same
      obtain ⟨last, -⟩ | ⟨-, gone⟩ := told
      · exact Or.inr ⟨by rw [if_pos rfl, last], if_pos rfl⟩
      · rw [found] at gone
        cases gone
    · rw [if_neg (Ne.symm same), if_neg same]
      exact told.imp_left (And.imp_right fun stands => ⟨same, stands⟩)
  owners other descendant present := by
    rw [target_dispose] at present
    split at present
    case isTrue => cases present
    case isFalse => exact census.owners other descendant present

/-- Clones are removed one after another and announced. -/
theorem removeClones {names : List TargetId} (once : names.Nodup)
    (clones : ∀ id ∈ names, id ∈ stage.cloneIds) :
    (stage.disposeAll names).1.map Target.id = names ∧
      Census limit (stage.disposeAll names).2
        (names.foldl (fun notices id => .targetWasRemoved id :: notices) notices) ids := by
  induction names generalizing stage notices with
  | nil => exact ⟨rfl, census⟩
  | cons first rest inductionHypothesis =>
    obtain ⟨fresh, distinct⟩ := List.nodup_cons.mp once
    obtain ⟨target, found, isClone⟩ := census.keyed.mem_cloneIds.mp
      (clones first List.mem_cons_self)
    have removed := census.remove found fun other descendant present _ =>
      census.childless_clone found isClone other descendant present
    obtain ⟨named, remaining⟩ := inductionHypothesis removed distinct fun id member => by
      rw [census.keyed.cloneIds_dispose, census.keyed.nodup_cloneIds.mem_erase_iff]
      exact ⟨fun same => fresh (same ▸ member), clones id (List.mem_cons_of_mem _ member)⟩
    have disposed : (stage.disposeAll (first :: rest)).1 =
        (stage.dispose first).1.toList ++ ((stage.dispose first).2.disposeAll rest).1 := rfl
    refine ⟨?_, remaining⟩
    rw [disposed, (dispose_found found).1, List.map_append, named, Option.toList_some,
      List.map_singleton, census.keyed first target found, List.singleton_append]

end Census

end Stage

end SpriteMachine
