import SpriteMachine.Number.Binary
import SpriteMachine.Proofs.Stage.Picture

/-!
# Redraws that are asked for

Whoever changes the picture asks for a redraw, with one exception: a target that is added is
painted in front of all others without a word. So a change goes unnoticed just when a visible
target is added, while no redraw is pending and none is asked for by a target that it replaces.
-/

namespace SpriteMachine

namespace Stage

variable {α : Type}

/-- The picture changes, and no redraw is asked for. -/
def Unannounced (before after : Stage α) : Prop :=
  after.picture ≠ before.picture ∧ after.redrawRequested = false

variable {stage before after : Stage α}

/-- A change that is announced is not one without announcement. -/
theorem Announces.not_unannounced (announces : Announces before after) :
    ¬Unannounced before after := by
  rintro ⟨changed, silent⟩
  rcases announces.announced with same | requested
  · exact changed same
  · rw [silent] at requested
    cases requested

variable [Scalar α] {target : Target α}

/-- A target under a vacant name is painted in front of the others if it is visible, and asks for
no redraw. -/
theorem Pictured.picture_join (pictured : stage.Pictured)
    (vacant : stage.target? target.id = none) :
    (∃ painted drawable, stage.picture = some painted ∧ (stage.add target).picture =
      some (painted ++ bif target.visible then [(drawable, target.drawn)] else [])) ∧
      (stage.add target).redrawRequested = stage.redrawRequested := by
  obtain ⟨renderer, attached, mirrors⟩ := pictured
  obtain ⟨joined, flag⟩ := add_attached attached vacant
  refine ⟨⟨renderer.picture, ⟨renderer.nextNumber⟩, ?_, ?_⟩, flag⟩
  · exact picture_attached attached
  · rw [picture_attached joined, Renderer.picture, mirrors.entries_present, List.filter_append,
      List.filter_singleton]
    rfl

/-- A target that joins is noticed if it is hidden or a redraw is pending. -/
theorem Pictured.unannounced_join_iff (pictured : stage.Pictured)
    (vacant : stage.target? target.id = none) :
    Unannounced stage (stage.add target) ↔
      target.visible = true ∧ stage.redrawRequested = false := by
  obtain ⟨⟨painted, drawable, seen, grown⟩, flag⟩ := pictured.picture_join vacant
  rw [Unannounced, grown, seen, flag]
  refine and_congr_left fun _ => ?_
  cases target.visible <;> simp

/-- One of the same name that is visible asks for a redraw when it goes. -/
theorem Pictured.unannounced_add_iff (pictured : stage.Pictured) :
    Unannounced stage (stage.add target) ↔
      target.visible = true ∧ stage.redrawRequested = false ∧
        ∀ replaced, stage.target? target.id = some replaced → replaced.visible = false := by
  cases found : stage.target? target.id with
  | none => simp [pictured.unannounced_join_iff found]
  | some replaced =>
    have vacant := vacant_dispose stage target.id
    obtain ⟨flag, missed⟩ := pictured.dispose_found found
    have joins := (pictured.dispose target.id).unannounced_join_iff vacant
    have kept := ((pictured.dispose target.id).picture_join vacant).2
    rw [flag] at joins kept
    rw [add_eq]
    cases visible : replaced.visible with
    | true => simp [Unannounced, kept, visible]
    | false =>
      rw [Unannounced, ← missed visible, ← Unannounced, joins]
      simp [visible]

/-- Every change of the picture asks for a redraw, but for a newcomer. Whatever was done before
and after a renderer was attached, an operation on the stage that attaches no other renderer
changes the picture without asking for a redraw just when it adds a visible target, while no
redraw is pending and the target that it replaces, if any, is hidden. -/
theorem only_newcomers_are_unannounced (maxClones : Nat)
    (before after : List (StageOperation α)) (operation : StageOperation α)
    (keeps : operation ≠ .attach) :
    Unannounced ((((empty maxClones).run before).attach .fresh).run after)
        (((((empty maxClones).run before).attach .fresh).run after).perform operation) ↔
      ∃ target, operation = .add target ∧ target.visible = true ∧
        ((((empty maxClones).run before).attach .fresh).run after).redrawRequested = false ∧
        ∀ replaced, ((((empty maxClones).run before).attach .fresh).run after).target? target.id =
          some replaced → replaced.visible = false := by
  have pictured : ((((empty maxClones).run before).attach .fresh).run after).Pictured :=
    Pictured.run (pictured_attach _) after
  generalize (((empty maxClones).run before).attach .fresh).run after = stage at pictured
  cases operation with
  | attach => exact absurd rfl keeps
  | add target => simpa [perform] using pictured.unannounced_add_iff
  | dispose id => exact iff_of_false (pictured.announces_dispose id).not_unannounced (by simp)
  | disposeClones =>
    exact iff_of_false (pictured.announces_disposeAll stage.cloneIds).not_unannounced (by simp)
  | setLayerOrder id position relative =>
    exact iff_of_false (announces_setLayerOrder stage id position relative).not_unannounced
      (by simp)
  | takeRedraw => exact iff_of_false (fun unannounced => unannounced.1 rfl) (by simp)
  | _ => exact iff_of_false (pictured.repaints_perform rfl).not_unannounced (by simp)

/-- A sprite that is there to be seen, and no redraw pending. -/
def settled : List (StageOperation Float) := [.add (.sprite ⟨"cat"⟩ "Cat"), .takeRedraw]

/-- When the sprite is hidden, a redraw is asked for. -/
theorem hiding_asks_for_redraw :
    (StageOperation.setVisible ⟨"cat"⟩ false : StageOperation Float) ≠ .attach ∧
      let stage := (((empty defaultMaxClones).run []).attach .fresh).run settled
      (stage.perform (.setVisible ⟨"cat"⟩ false)).picture ≠ stage.picture ∧
        (stage.perform (.setVisible ⟨"cat"⟩ false)).redrawRequested = true := by
  have keeps : (StageOperation.setVisible ⟨"cat"⟩ false : StageOperation Float) ≠ .attach := nofun
  have told := only_newcomers_are_unannounced defaultMaxClones [] settled
    (.setVisible ⟨"cat"⟩ false) keeps
  have changed : ((((((empty defaultMaxClones).run []).attach .fresh).run settled).perform
      (.setVisible ⟨"cat"⟩ false)).picture.map List.length) ≠
        ((((empty defaultMaxClones).run []).attach .fresh).run settled).picture.map
        List.length := by
    decide +kernel
  refine ⟨keeps, fun same => changed (congrArg _ same), ?_⟩
  refine (Bool.eq_false_or_eq_true _).resolve_right fun silent => ?_
  obtain ⟨target, same, -⟩ := told.mp ⟨fun same => changed (congrArg _ same), silent⟩
  cases same

/-- A sprite that is added beside it is painted, and no redraw is asked for. -/
theorem newcomer_unannounced :
    Unannounced ((((empty defaultMaxClones).run []).attach .fresh).run settled)
      (((((empty defaultMaxClones).run []).attach .fresh).run settled).perform
        (.add (.sprite ⟨"dog"⟩ "Dog"))) := by
  refine ⟨fun same => ?_, by decide +kernel⟩
  have lengths := congrArg (Option.map List.length) same
  revert lengths
  decide +kernel

end Stage

end SpriteMachine
