import SpriteMachine.Proofs.Stage.Mirror

/-!
# What operations do to the picture

The picture is what a renderer paints: its visible drawables from back to front. A setter
changes one drawable where it stands, and it asks for a redraw unless the target was hidden and
stays hidden, in which case nothing is painted differently. A target that goes takes its drawable
out of the picture, and one that comes is painted in front of all others.
-/

namespace SpriteMachine

variable {α : Type}

namespace Renderer

/-- The visible drawables in paint order. -/
def picture (renderer : Renderer α) : List (DrawableId × Drawable α) :=
  renderer.drawables.entries.filter fun entry => entry.2.look.visible

/-- The layers of the drawables in paint order. -/
def layers (renderer : Renderer α) : List Layer := renderer.drawables.values.map Drawable.layer

/-- A drawable stays in its layer and in its place when it is changed. -/
@[simp]
theorem layers_update (renderer : Renderer α) (id : DrawableId) (change : AppearanceChange α) :
    (renderer.update id change).layers = renderer.layers := by
  simp only [layers, update, OrderedMap.modify, OrderedMap.mapEntries, OrderedMap.values,
    List.map_map]
  refine List.map_congr_left fun entry _ => ?_
  simp only [Function.comp_apply]
  split <;> rfl

/-- A drawable that was hidden and stays hidden is not missed in the picture. -/
theorem picture_update {renderer : Renderer α} {id : DrawableId} {drawable : Drawable α}
    {change : AppearanceChange α} (found : renderer.drawables.find? id = some drawable)
    (hidden : drawable.look.visible = false) (unveiled : change.visible = none) :
    (renderer.update id change).picture = renderer.picture := by
  have same : ∀ entry ∈ renderer.drawables.entries,
      entry.1 = id → entry.2.look.visible = false := by
    rintro ⟨key, other⟩ member rfl
    have present := OrderedMap.mem_entries_iff.mp member
    rw [found] at present
    rw [← Option.some.inj present, hidden]
  simp only [picture, update, OrderedMap.modify, OrderedMap.mapEntries, List.filter_map]
  rw [List.filter_congr (q := fun entry => entry.2.look.visible) fun entry member => ?_]
  · refine (List.map_congr_left fun entry member => ?_).trans (List.map_id _)
    obtain ⟨listed, visible⟩ := List.mem_filter.mp member
    have other : entry.1 ≠ id := fun here => by
      rw [same entry listed here] at visible
      cases visible
    rw [if_neg other]
    rfl
  · simp only [Function.comp_apply]
    split
    case isTrue =>
      rw [AppearanceChange.apply, unveiled]
      rfl
    case isFalse => rfl

end Renderer

/-- Whether an operation finds and leaves the targets, their renderer and their paint order as
they are, and withdraws no request for a redraw. -/
def StageOperation.inPlace : StageOperation α → Bool
  | attach | add _ | dispose _ | disposeClones | setLayerOrder .. | takeRedraw => false
  | _ => true

namespace Stage

/-- What the attached renderer paints. -/
def picture (stage : Stage α) : Option (List (DrawableId × Drawable α)) :=
  stage.renderer.map Renderer.picture

/-- The layers of what is painted, from back to front. -/
def layers (stage : Stage α) : Option (List Layer) := stage.renderer.map Renderer.layers

/-- Whoever changes the picture asks for a redraw, and no request is withdrawn. -/
structure Announces (before after : Stage α) : Prop where
  announced : after.picture = before.picture ∨ after.redrawRequested = true
  kept : before.redrawRequested = true → after.redrawRequested = true

/-- The picture is changed, if at all, with a request for a redraw and in place. -/
structure Repaints (before after : Stage α) : Prop extends Announces before after where
  layers : after.layers = before.layers

variable {stage before after : Stage α} {renderer : Renderer α} {id : TargetId}

/-- The picture of the stage is that of the renderer attached to it. -/
theorem picture_attached (attached : stage.renderer = some renderer) :
    stage.picture = some renderer.picture :=
  congrArg (Option.map Renderer.picture) attached

/-- The layers of the stage are those of the renderer attached to it. -/
theorem layers_attached (attached : stage.renderer = some renderer) :
    stage.layers = some renderer.layers :=
  congrArg (Option.map Renderer.layers) attached

namespace Announces

/-- What is left as it is needs no announcement. -/
theorem refl (stage : Stage α) : Announces stage stage := ⟨.inl rfl, id⟩

/-- Announcements add up: a request made early is not withdrawn later. -/
theorem trans {first second third : Stage α} (early : Announces first second)
    (late : Announces second third) : Announces first third where
  kept requested := late.kept (early.kept requested)
  announced := by
    rcases late.announced with same | requested
    · rcases early.announced with unchanged | requested
      · exact .inl (same.trans unchanged)
      · exact .inr (late.kept requested)
    · exact .inr requested

/-- A redraw is asked for. -/
theorem requested (requested : after.redrawRequested = true) : Announces before after :=
  ⟨.inr requested, fun _ => requested⟩

end Announces

namespace Repaints

/-- A stage that stays as it is repaints nothing. -/
theorem refl (stage : Stage α) : Repaints stage stage := ⟨.refl stage, rfl⟩

/-- Two repaints in place are one. -/
theorem trans {first second third : Stage α} (early : Repaints first second)
    (late : Repaints second third) : Repaints first third :=
  ⟨early.toAnnounces.trans late.toAnnounces, late.layers.trans early.layers⟩

/-- The renderer is left alone, and no request is withdrawn. -/
theorem unseen (renderer : after.renderer = before.renderer)
    (kept : before.redrawRequested = true → after.redrawRequested = true) :
    Repaints before after :=
  ⟨⟨.inl (by rw [picture, renderer, picture]), kept⟩, by rw [Stage.layers, renderer, Stage.layers]⟩

end Repaints

variable [Scalar α]

/-- A hidden target has a hidden drawable, so a change of it is not seen. -/
theorem Pictured.repaints_forward (pictured : stage.Pictured) {change : Target α → Target α}
    {look : AppearanceChange α}
    (kept : ∀ target, (change target).drawable = target.drawable ∧
      (change target).visible = target.visible)
    (unveiled : look.visible = none) :
    Repaints stage ((stage.modify id change).forward id look) := by
  cases found : stage.target? id with
  | none =>
    have absent : (stage.modify id change).target? id = none := by
      rw [target_modify, if_pos rfl, found]
      rfl
    rw [Stage.forward, absent]
    exact .unseen rfl fun requested => requested
  | some target =>
    obtain ⟨renderer, attached, mirrors⟩ := pictured
    obtain ⟨drawable, named, shown⟩ := mirrors.drawn (OrderedMap.mem_values_iff.mpr ⟨id, found⟩)
    have changed : (stage.modify id change).target? id = some (change target) := by
      rw [target_modify, if_pos rfl, found]
      rfl
    have same : (stage.modify id change).renderer = some renderer := attached
    rw [forward_shown changed same ((kept target).1.trans named) look, (kept target).2]
    refine ⟨⟨?_, fun requested => ?_⟩, ?_⟩
    · cases visible : target.visible with
      | true => exact .inr (Bool.or_true _)
      | false =>
        refine .inl ?_
        change some (renderer.update drawable look).picture = stage.picture
        rw [Renderer.picture_update shown visible unveiled, picture_attached attached]
    · change (stage.redrawRequested || target.visible) = true
      rw [requested, Bool.true_or]
    · change some (renderer.update drawable look).layers = stage.layers
      rw [Renderer.layers_update, layers_attached attached]

/-- The pose of a target is forwarded like anything else. -/
theorem Pictured.repaints_forwardPose (pictured : stage.Pictured) {change : Target α → Target α}
    (kept : ∀ target, (change target).drawable = target.drawable ∧
      (change target).visible = target.visible) :
    Repaints stage ((stage.modify id change).forwardPose id) := by
  unfold Stage.forwardPose
  split
  case h_1 => exact .unseen rfl fun requested => requested
  case h_2 => exact pictured.repaints_forward kept rfl

namespace Pictured

/-- A target that moves asks for a redraw where it is drawn. -/
theorem repaints_setPosition (pictured : stage.Pictured) (id : TargetId) (x y : α)
    (fenced : Bool) : Repaints stage (stage.setPosition id x y fenced).2 := by
  unfold Stage.setPosition
  split
  case h_1 => exact .refl stage
  case h_2 =>
    split
    case isTrue => exact .refl stage
    case isFalse => exact pictured.repaints_forward (fun _ => ⟨rfl, rfl⟩) rfl

/-- A target that turns asks for a redraw where it is drawn. -/
theorem repaints_setDirection (pictured : stage.Pictured) (id : TargetId) (angle : α) :
    Repaints stage (stage.setDirection id angle).2 := by
  unfold Stage.setDirection
  split
  case h_1 => exact .refl stage
  case h_2 =>
    split
    case isTrue => exact .refl stage
    case isFalse => exact pictured.repaints_forwardPose fun _ => ⟨rfl, rfl⟩

/-- A rotation style asks for a redraw where it is drawn. -/
theorem repaints_setRotationStyle (pictured : stage.Pictured) (id : TargetId)
    (style : RotationStyle) : Repaints stage (stage.setRotationStyle id style).2 := by
  unfold Stage.setRotationStyle
  split
  case isTrue => exact pictured.repaints_forwardPose fun _ => ⟨rfl, rfl⟩
  case isFalse => exact .refl stage

/-- A new size asks for a redraw where it is drawn. -/
theorem repaints_setSize (pictured : stage.Pictured) (id : TargetId) (size : α) :
    Repaints stage (stage.setSize id size).2 := by
  unfold Stage.setSize
  split
  case h_1 => exact .refl stage
  case h_2 =>
    split
    case isTrue => exact .refl stage
    case isFalse => exact pictured.repaints_forward (fun _ => ⟨rfl, rfl⟩) rfl

/-- A new costume asks for a redraw where it is drawn. -/
theorem repaints_setCostume (pictured : stage.Pictured) (id : TargetId) (number : Int) :
    Repaints stage (stage.setCostume id number).2 := by
  unfold Stage.setCostume
  split
  case h_1 => exact .refl stage
  case h_2 target found =>
    have marked : (stage.mark (costumeOverflows target.costumeCount number)).Pictured :=
      pictured.congr rfl rfl
    have unseen : Repaints stage (stage.mark (costumeOverflows target.costumeCount number)) :=
      .unseen rfl fun requested => requested
    exact unseen.trans (marked.repaints_forward (fun _ => ⟨rfl, rfl⟩) rfl)

/-- An effect that is set asks for a redraw where it is drawn. -/
theorem repaints_setEffect (pictured : stage.Pictured) (id : TargetId) (effect : String)
    (strength : α) : Repaints stage (stage.setEffect id effect strength).2 := by
  unfold Stage.setEffect
  split
  case isTrue => exact .refl stage
  case isFalse =>
    split
    case h_1 => exact .refl stage
    case h_2 => exact pictured.repaints_forward (fun _ => ⟨rfl, rfl⟩) rfl

/-- Effects that are cleared ask for a redraw where they are drawn. -/
theorem repaints_clearEffects (pictured : stage.Pictured) (id : TargetId) :
    Repaints stage (stage.clearEffects id) := by
  unfold Stage.clearEffects
  split
  case isTrue => exact pictured.repaints_forward (fun _ => ⟨rfl, rfl⟩) rfl
  case isFalse => exact .refl stage

/-- Showing and hiding asks for a redraw in any case. -/
theorem repaints_setVisible (pictured : stage.Pictured) (id : TargetId) (visible : Bool) :
    Repaints stage (stage.setVisible id visible).2 := by
  unfold Stage.setVisible
  split
  case h_1 => exact .refl stage
  case h_2 target found =>
    obtain ⟨renderer, attached, mirrors⟩ := pictured
    obtain ⟨drawable, named, -⟩ := mirrors.drawn (OrderedMap.mem_values_iff.mpr ⟨id, found⟩)
    split
    case isTrue => exact .refl stage
    case isFalse =>
      rw [attached, named]
      refine ⟨.requested rfl, ?_⟩
      change some (renderer.update drawable _).layers = stage.layers
      rw [Renderer.layers_update, layers_attached attached]

omit [Scalar α] in
/-- A bubble is no part of the picture. -/
theorem repaints_setBubble (stage : Stage α) (id : TargetId) (bubble : Option Bubble) :
    Repaints stage (stage.setBubble id bubble).2 := by
  unfold Stage.setBubble
  split
  case h_1 => exact .refl stage
  case h_2 =>
    refine .unseen rfl fun requested => ?_
    change (stage.redrawRequested || _) = true
    rw [requested, Bool.true_or]

omit [Scalar α] in
/-- The target that is edited is no part of the picture. -/
theorem repaints_setEditing (stage : Stage α) (id : TargetId) :
    Repaints stage (stage.setEditing id).2 := by
  unfold Stage.setEditing
  split
  case isTrue => exact .unseen rfl fun requested => requested
  case isFalse => exact .refl stage

/-- A walk that repaints at every target repaints as a whole. -/
theorem repaints_foldl {change : Stage α → TargetId → Stage α}
    (preserved : ∀ (stage : Stage α) id, stage.Pictured → (change stage id).Pictured)
    (repaints : ∀ (stage : Stage α) id, stage.Pictured → Repaints stage (change stage id))
    (ids : List TargetId) {stage : Stage α} (pictured : stage.Pictured) :
    Repaints stage (ids.foldl change stage) := by
  induction ids generalizing stage with
  | nil => exact .refl stage
  | cons first rest inductionHypothesis =>
    exact (repaints stage first pictured).trans
      (inductionHypothesis (preserved stage first pictured))

/-- The green flag asks for a redraw where it changes what is drawn. -/
theorem repaints_onGreenFlag (pictured : stage.Pictured) : Repaints stage stage.onGreenFlag :=
  repaints_foldl (fun _ id shown => shown.clearEffects id)
    (fun _ id shown => shown.repaints_clearEffects id) _ pictured

/-- A stop of everything asks for a redraw where it changes what is drawn. -/
theorem repaints_onStopAll (pictured : stage.Pictured) : Repaints stage stage.onStopAll :=
  repaints_foldl (fun _ id shown => (shown.setBubble id none).clearEffects id)
    (fun stage id shown => (repaints_setBubble stage id none).trans
      ((shown.setBubble id none).repaints_clearEffects id)) _ pictured

omit [Scalar α] in
/-- Drawing changes nothing of what is drawn. -/
theorem repaints_draw (stage : Stage α) : Repaints stage stage.draw := by
  have picture : stage.draw.picture = stage.picture := by
    rw [Stage.picture, Stage.draw, Option.map_map]
    rfl
  have layers : stage.draw.layers = stage.layers := by
    rw [Stage.layers, Stage.draw, Option.map_map]
    rfl
  exact ⟨⟨.inl picture, id⟩, layers⟩

/-- What is done to targets in place is seen in place. -/
theorem repaints_perform (pictured : stage.Pictured) {operation : StageOperation α}
    (inPlace : operation.inPlace = true) : Repaints stage (stage.perform operation) := by
  cases operation with
  | attach | add | dispose | disposeClones | setLayerOrder | takeRedraw => cases inPlace
  | setPosition id x y fenced => exact pictured.repaints_setPosition id x y fenced
  | setDirection id angle => exact pictured.repaints_setDirection id angle
  | setRotationStyle id style => exact pictured.repaints_setRotationStyle id style
  | setSize id size => exact pictured.repaints_setSize id size
  | setVisible id visible => exact pictured.repaints_setVisible id visible
  | setCostume id number => exact pictured.repaints_setCostume id number
  | setEffect id effect strength => exact pictured.repaints_setEffect id effect strength
  | clearEffects id => exact pictured.repaints_clearEffects id
  | setBubble id bubble => exact repaints_setBubble stage id bubble
  | onGreenFlag => exact pictured.repaints_onGreenFlag
  | onStopAll => exact pictured.repaints_onStopAll
  | setEditing id => exact repaints_setEditing stage id
  | requestRedraw => exact .unseen rfl fun _ => rfl
  | draw => exact repaints_draw stage

/-- A renderer that is attached shows the targets after any operations. -/
theorem run (pictured : stage.Pictured) (operations : List (StageOperation α)) :
    (stage.run operations).Pictured :=
  run_induction (fun _ operation shown => shown.perform operation) pictured operations

end Pictured

omit [Scalar α] in
/-- Whoever is moved in paint order asks for a redraw. -/
theorem announces_setLayerOrder (stage : Stage α) (id : TargetId) (position : Int)
    (relative : Bool) : Announces stage (stage.setLayerOrder id position relative).2 := by
  unfold Stage.setLayerOrder
  split
  case h_1 => exact .requested rfl
  case h_2 => exact .refl stage

section ComingAndGoing

variable {targets : List (Target α)} {target : Target α} {drawable : DrawableId}

/-- A target that gets a drawable is painted in front of all others, as it is. -/
theorem Mirrors.entries_present (mirrors : Mirrors targets renderer) (target : Target α) :
    (Stage.present renderer target).2.drawables.entries =
      renderer.drawables.entries ++ [(⟨renderer.nextNumber⟩, target.drawn)] := by
  have absent : (⟨renderer.nextNumber⟩ : DrawableId) ∉ renderer.drawables.keys := fun member =>
    Nat.lt_irrefl _ (mirrors.numbered _ member)
  exact OrderedMap.entries_modify_insert_of_absent absent _ _

/-- A target under a vacant name is painted, and nobody asks for a redraw. -/
theorem add_attached (attached : stage.renderer = some renderer)
    (vacant : stage.target? target.id = none) :
    (stage.add target).renderer = some (present renderer target).2 ∧
      (stage.add target).redrawRequested = stage.redrawRequested := by
  have missing : stage.contains target.id = false := by
    rw [contains_eq_isSome, vacant]
    rfl
  simp only [Stage.add, missing, Bool.false_eq_true, if_false, attached, true_and]
  cases target.isClone <;> rfl

omit [Scalar α] in
/-- A target that goes takes its drawable along, and asks for a redraw if it was visible. -/
theorem dispose_attached (attached : stage.renderer = some renderer)
    (found : stage.target? id = some target) (named : target.drawable = some drawable) :
    (stage.dispose id).2.renderer = some (renderer.destroy drawable) ∧
      (stage.dispose id).2.redrawRequested = (stage.redrawRequested || target.visible) := by
  simp only [dispose, found, attached, named, true_and]
  cases target.isClone <;> rfl

omit [Scalar α] in
/-- Whoever goes leaves the others in their order. -/
theorem layers_destroy (renderer : Renderer α) (drawable : DrawableId) :
    (renderer.destroy drawable).layers.Sublist renderer.layers :=
  ((List.filter_sublist (l := renderer.drawables.entries)).map Prod.snd).map Drawable.layer

omit [Scalar α] in
/-- A hidden drawable leaves no gap. -/
theorem picture_destroy {shape : Drawable α}
    (shown : renderer.drawables.find? drawable = some shape) (hidden : shape.look.visible = false) :
    (renderer.destroy drawable).picture = renderer.picture := by
  simp only [Renderer.picture, Renderer.destroy, OrderedMap.erase, OrderedMap.filter,
    List.filter_filter]
  refine List.filter_congr fun entry member => ?_
  by_cases same : entry.1 = drawable
  · have present := OrderedMap.mem_entries_iff.mp member
    rw [same, shown] at present
    rw [← Option.some.inj present, hidden, Bool.false_and]
  · simp [same]

/-- A target that goes asks for a redraw if it was visible, and is not missed otherwise. -/
theorem Pictured.dispose_found (pictured : stage.Pictured)
    (found : stage.target? id = some target) :
    (stage.dispose id).2.redrawRequested = (stage.redrawRequested || target.visible) ∧
      (target.visible = false → (stage.dispose id).2.picture = stage.picture) := by
  obtain ⟨renderer, attached, mirrors⟩ := pictured
  obtain ⟨drawable, named, shown⟩ := mirrors.drawn (OrderedMap.mem_values_iff.mpr ⟨id, found⟩)
  obtain ⟨left, flag⟩ := dispose_attached attached found named
  refine ⟨flag, fun hidden => ?_⟩
  rw [picture_attached left, picture_attached attached, picture_destroy shown hidden]

/-- The removal of a target is announced where it was drawn. -/
theorem Pictured.announces_dispose (pictured : stage.Pictured) (id : TargetId) :
    Announces stage (stage.dispose id).2 := by
  cases found : stage.target? id with
  | none =>
    rw [dispose_absent found]
    exact .refl stage
  | some target =>
    obtain ⟨flag, missed⟩ := pictured.dispose_found found
    refine ⟨?_, fun requested => by rw [flag, requested, Bool.true_or]⟩
    rw [flag]
    cases visible : target.visible with
    | true => exact .inr (Bool.or_true _)
    | false => exact .inl (missed visible)

/-- The removal of several targets is announced where they were drawn. -/
theorem Pictured.announces_disposeAll (ids : List TargetId) {stage : Stage α}
    (pictured : stage.Pictured) : Announces stage (stage.disposeAll ids).2 := by
  induction ids generalizing stage with
  | nil => exact .refl stage
  | cons first rest inductionHypothesis =>
    exact (pictured.announces_dispose first).trans (inductionHypothesis (pictured.dispose first))

end ComingAndGoing

end Stage

end SpriteMachine
