import SpriteMachine.Proofs.Stage

/-!
# Runs of a stage

What a host and its blocks do with a stage, one operation after another. Every setter of the
stage is here, for any target, known or not, and with any value. A renderer that is attached
is a fresh one.

All that a setter makes of one target is told by the setter and the target alone: it leaves the
target, gives it a drawable, or changes the part that the setter is for. So a relation between
targets that holds in these few cases holds, name by name, between the stages before and behind
every setter, and nothing has to be said about the setters one by one.
-/

namespace SpriteMachine

/-- What is done with a stage. -/
inductive StageOperation (α : Type) where
  | attach
  | add (target : Target α)
  | dispose (id : TargetId)
  | disposeClones
  | setPosition (id : TargetId) (x y : α) (fenced : Bool)
  | setDirection (id : TargetId) (angle : α)
  | setRotationStyle (id : TargetId) (style : RotationStyle)
  | setSize (id : TargetId) (size : α)
  | setVisible (id : TargetId) (visible : Bool)
  | setCostume (id : TargetId) (number : Int)
  | setEffect (id : TargetId) (effect : String) (strength : α)
  | clearEffects (id : TargetId)
  | setBubble (id : TargetId) (bubble : Option Bubble)
  | setLayerOrder (id : TargetId) (position : Int) (relative : Bool)
  | onGreenFlag
  | onStopAll
  | setEditing (id : TargetId)
  | requestRedraw
  | takeRedraw
  | draw

/-- Whether an operation leaves it at the targets that there are. -/
def StageOperation.isSetter {α : Type} : StageOperation α → Bool
  | add _ | dispose _ | disposeClones => false
  | _ => true

namespace Stage

variable {α : Type} [Scalar α]

/-- The stage behind an operation. -/
def perform (stage : Stage α) : StageOperation α → Stage α
  | .attach => stage.attach .fresh
  | .add target => stage.add target
  | .dispose id => (stage.dispose id).2
  | .disposeClones => stage.disposeClones.2
  | .setPosition id x y fenced => (stage.setPosition id x y fenced).2
  | .setDirection id angle => (stage.setDirection id angle).2
  | .setRotationStyle id style => (stage.setRotationStyle id style).2
  | .setSize id size => (stage.setSize id size).2
  | .setVisible id visible => (stage.setVisible id visible).2
  | .setCostume id number => (stage.setCostume id number).2
  | .setEffect id effect strength => (stage.setEffect id effect strength).2
  | .clearEffects id => stage.clearEffects id
  | .setBubble id bubble => (stage.setBubble id bubble).2
  | .setLayerOrder id position relative => (stage.setLayerOrder id position relative).2
  | .onGreenFlag => stage.onGreenFlag
  | .onStopAll => stage.onStopAll
  | .setEditing id => (stage.setEditing id).2
  | .requestRedraw => stage.requestRedraw
  | .takeRedraw => stage.takeRedraw.2
  | .draw => stage.draw

/-- The stage behind operations one after another. -/
def run (stage : Stage α) (operations : List (StageOperation α)) : Stage α :=
  operations.foldl perform stage

/-- What holds at first and is preserved by every operation holds behind all of them. -/
theorem run_induction {invariant : Stage α → Prop}
    (preserved : ∀ stage operation, invariant stage → invariant (stage.perform operation))
    {stage : Stage α} (initial : invariant stage) (operations : List (StageOperation α)) :
    invariant (stage.run operations) := by
  induction operations generalizing stage with
  | nil => exact initial
  | cons first rest inductionHypothesis =>
    exact inductionHypothesis (preserved stage first initial)

end Stage

/-! ## What a setter makes of a target -/

namespace Target

variable {α : Type}

/-- A target without its drawable. -/
def undrawn (target : Target α) : Target α := { target with drawable := none }

/-- What a setter makes of a target: it leaves the target as it is, gives it a drawable, or
changes what the setter is for. Only a sprite is moved, turned, scaled, shown or hidden. -/
inductive Retouched [Scalar α] : StageOperation α → Target α → Target α → Prop where
  | kept (operation : StageOperation α) (target : Target α) : Retouched operation target target
  | drawn {before after : Target α} (same : after.undrawn = before.undrawn) :
      Retouched .attach before after
  | placed {target : Target α} (isSprite : ¬target.isStage = true) (id : TargetId) (x y : α)
      (fenced : Bool) (place : α × α) : Retouched (.setPosition id x y fenced) target
        { target with x := place.1, y := place.2 }
  | turned {target : Target α} (isSprite : ¬target.isStage = true) (id : TargetId) (angle : α) :
      Retouched (.setDirection id angle) target
        { target with direction := wrapDirection angle }
  | styled (target : Target α) (id : TargetId) (style : RotationStyle) :
      Retouched (.setRotationStyle id style) target { target with rotationStyle := style }
  | scaled {target : Target α} (isSprite : ¬target.isStage = true) (id : TargetId) (size : α) :
      Retouched (.setSize id size) target
        { target with size := Scalar.clamp minSize maxSize size }
  | shown {target : Target α} (isSprite : ¬target.isStage = true) (id : TargetId)
      (visible : Bool) : Retouched (.setVisible id visible) target
        { target with visible := visible }
  | dressed (target : Target α) (id : TargetId) (number : Int) :
      Retouched (.setCostume id number) target
        { target with costume := Stage.costumeAt target.costumeCount number }
  | tinted (target : Target α) (id : TargetId) {effect : String} (known : effect ∈ effectNames)
      (strength : α) : Retouched (.setEffect id effect strength) target
        { target with effects := target.effects.insert effect (clampEffect effect strength) }
  | cleared (target : Target α) (id : TargetId) :
      Retouched (.clearEffects id) target { target with effects := .empty }
  | spoken (target : Target α) (id : TargetId) (bubble : Option Bubble) :
      Retouched (.setBubble id bubble) target
        { target with bubble := bubble.filter fun bubble => bubble.text ≠ "" }
  | flagged (target : Target α) :
      Retouched .onGreenFlag target { target with effects := .empty }
  | stopped (target : Target α) : Retouched .onStopAll target target.unadorned

end Target

namespace Stage

/-- The same names stand on two stages, each for targets that are related. -/
def Each {α : Type} (related : Target α → Target α → Prop) (before after : Stage α) : Prop :=
  ∀ id, Option.Rel related (before.target? id) (after.target? id)

namespace Each

variable {α : Type} {related : Target α → Target α → Prop} {stage before after : Stage α}

/-- Nothing is changed where a target is related to itself. -/
theorem refl (reflexive : ∀ target, related target target) (stage : Stage α) :
    Each related stage stage := fun id => by
  cases stage.target? id with
  | none => exact .none
  | some target => exact .some (reflexive target)

/-- Only the targets matter. -/
theorem congr (each : Each related stage before)
    (same : ∀ id, after.target? id = before.target? id) : Each related stage after := fun id => by
  rw [same id]
  exact each id

/-- Every target is changed in the same way. -/
theorem mapped {touch : Target α → Target α} (touches : ∀ target, related target (touch target))
    (same : ∀ id, after.target? id = (before.target? id).map touch) : Each related before after :=
  fun id => by
    rw [same id]
    cases before.target? id with
    | none => exact .none
    | some target => exact .some (touches target)

/-- One target is changed. -/
theorem modify (reflexive : ∀ target, related target target) {id : TargetId}
    {change : Target α → Target α} (changes : ∀ target,
      stage.target? id = some target → related target (change target)) :
    Each related stage (stage.modify id change) := by
  intro other
  rw [target_modify]
  by_cases same : other = id
  · rw [if_pos same, same]
    cases found : stage.target? id with
    | none => exact .none
    | some target => exact .some (changes target found)
  · rw [if_neg same]
    exact refl reflexive stage other

/-- A target that is found behind the change was there before, and is related to what it was. -/
theorem earlier (each : Each related before after) {id : TargetId} {target : Target α}
    (found : after.target? id = some target) :
    ∃ was, before.target? id = some was ∧ related was target := by
  have relates := each id
  rw [found] at relates
  cases present : before.target? id with
  | none =>
    rw [present] at relates
    cases relates
  | some was =>
    rw [present] at relates
    cases relates with
    | some relates => exact ⟨was, rfl, relates⟩

/-- A target that was there before is found behind the change, and is related to what it was. -/
theorem later (each : Each related before after) {id : TargetId} {target : Target α}
    (present : before.target? id = some target) :
    ∃ becomes, after.target? id = some becomes ∧ related target becomes := by
  have relates := each id
  rw [present] at relates
  cases found : after.target? id with
  | none =>
    rw [found] at relates
    cases relates
  | some becomes =>
    rw [found] at relates
    cases relates with
    | some relates => exact ⟨becomes, rfl, relates⟩

end Each

variable {α : Type} [Scalar α]

/-- The pose that a target is drawn with makes no difference to the targets. -/
theorem target_forwardPose (stage : Stage α) (id other : TargetId) :
    (stage.forwardPose id).target? other = stage.target? other := by
  unfold forwardPose
  split
  case h_1 => rfl
  case h_2 => exact target_forward stage id other _

/-- Drawables make no other difference. -/
theorem undrawn_presentAll (renderer : Renderer α) (targets : List (Target α)) :
    (presentAll renderer targets).1.map Target.undrawn = targets.map Target.undrawn := by
  induction targets generalizing renderer with
  | nil => rfl
  | cons first rest inductionHypothesis =>
    exact congrArg (first.undrawn :: ·) (inductionHypothesis (present renderer first).2)

/-- A renderer that is attached changes nothing but the drawables of the targets. -/
theorem undrawn_attach (stage : Stage α) (renderer : Renderer α) (name : TargetId) :
    ((stage.attach renderer).target? name).map Target.undrawn =
      (stage.target? name).map Target.undrawn := by
  have undrawn := undrawn_presentAll renderer stage.targets.values
  have length :
      (presentAll renderer stage.targets.values).1.length = stage.targets.keys.length := by
    simpa [OrderedMap.values, OrderedMap.keys] using congrArg List.length undrawn
  have entries : (stage.attach renderer).targets.entries =
      stage.targets.keys.zip (presentAll renderer stage.targets.values).1 :=
    OrderedMap.entries_insertAll_of_keys stage.targets length
  have same : (stage.attach renderer).targets.mapEntries (fun _ target => target.undrawn) =
      stage.targets.mapEntries fun _ target => target.undrawn := by
    refine OrderedMap.eq_of_entries ?_
    rw [OrderedMap.entries_mapEntries, OrderedMap.entries_mapEntries, entries]
    change List.map (Prod.map id Target.undrawn) _ = _
    rw [← List.zip_map_right, undrawn, OrderedMap.values, OrderedMap.keys, List.map_map,
      List.zip_map']
    rfl
  have found := congrArg (·.find? name) same
  simp only [OrderedMap.find_mapEntries] at found
  exact found

/-- Whatever stands on a stage behind a target that was added is that target, but for its
drawable, or was there before. -/
theorem undrawn_add {stage : Stage α} {target found : Target α} {id : TargetId}
    (present : (stage.add target).target? id = some found) :
    found.undrawn = target.undrawn ∨ stage.target? id = some found := by
  obtain ⟨drawable, joins⟩ := add_vacant (vacant_dispose stage target.id)
  rw [add_eq, joins.find] at present
  by_cases same : id = target.id
  · rw [if_pos same] at present
    exact .inl (Option.some.inj present ▸ rfl)
  · rw [if_neg same, target_dispose, if_neg same] at present
    exact .inr present

/-- A renderer that is attached gives the targets drawables. -/
theorem attach_retouches (stage : Stage α) :
    Each (Target.Retouched .attach) stage (stage.attach .fresh) := by
  intro id
  have same := undrawn_attach stage .fresh id
  generalize (stage.attach .fresh).target? id = behind at same
  cases found : stage.target? id with
  | none =>
    rw [found, Option.map_none, Option.map_eq_none_iff] at same
    rw [same]
    exact .none
  | some target =>
    rw [found, Option.map_some, Option.map_eq_some_iff] at same
    obtain ⟨drawn, rfl, alike⟩ := same
    exact .some (.drawn alike)

/-- A change of one sprite; the stage is left as it is, and so is whatever is not there. -/
theorem sprite_retouches {operation : StageOperation α} {stage after : Stage α} {id : TargetId}
    {change : Target α → Target α}
    (retouched : ∀ target : Target α, ¬target.isStage = true →
      Target.Retouched operation target (change target))
    {target : Target α} (found : stage.target? id = some target)
    (isSprite : ¬target.isStage = true)
    (same : ∀ other, after.target? other = (stage.modify id change).target? other) :
    Each (Target.Retouched operation) stage after := by
  refine (Each.modify (.kept operation) fun other present => ?_).congr same
  obtain rfl := Option.some.inj (found.symm.trans present)
  exact retouched target isSprite

/-- The general law of the setters: behind each of them stand the same names, for targets that it
retouched. -/
theorem perform_retouches (stage : Stage α) {operation : StageOperation α}
    (setter : operation.isSetter = true) :
    Each (Target.Retouched operation) stage (stage.perform operation) := by
  have still : Each (Target.Retouched operation) stage stage := .refl (.kept operation) stage
  cases operation with
  | add | dispose | disposeClones => cases setter
  | attach => exact attach_retouches stage
  | setPosition id x y fenced =>
    rw [perform]
    unfold Stage.setPosition
    cases found : stage.target? id with
    | none => exact still
    | some target =>
      dsimp only
      by_cases isStage : target.isStage = true
      · rw [if_pos isStage]
        exact still
      · rw [if_neg isStage]
        exact sprite_retouches (fun _ isSprite => .placed isSprite id x y fenced _) found isStage
          fun other => target_forward _ id other _
  | setDirection id angle =>
    rw [perform]
    unfold Stage.setDirection
    cases found : stage.target? id with
    | none => exact still
    | some target =>
      dsimp only
      by_cases refused : (target.isStage || !Scalar.isFinite angle) = true
      · rw [if_pos refused]
        exact still
      · rw [if_neg refused]
        have isSprite : ¬target.isStage = true := fun isStage => refused (by simp [isStage])
        exact sprite_retouches (fun _ isSprite => .turned isSprite id angle) found isSprite
          fun other => target_forwardPose _ id other
  | setRotationStyle id style =>
    rw [perform]
    unfold Stage.setRotationStyle
    by_cases present : stage.contains id = true
    · rw [if_pos present]
      exact (Each.modify (.kept _) fun target _ => .styled target id style).congr fun other =>
        target_forwardPose _ id other
    · rw [if_neg present]
      exact still
  | setSize id size =>
    rw [perform]
    unfold Stage.setSize
    cases found : stage.target? id with
    | none => exact still
    | some target =>
      dsimp only
      by_cases isStage : target.isStage = true
      · rw [if_pos isStage]
        exact still
      · rw [if_neg isStage]
        exact sprite_retouches (fun _ isSprite => .scaled isSprite id size) found isStage
          fun other => target_forward _ id other _
  | setVisible id visible =>
    rw [perform]
    unfold Stage.setVisible
    cases found : stage.target? id with
    | none => exact still
    | some target =>
      dsimp only
      by_cases isStage : target.isStage = true
      · rw [if_pos isStage]
        exact still
      · rw [if_neg isStage]
        refine sprite_retouches (fun _ isSprite => .shown isSprite id visible) found isStage
          fun other => ?_
        cases stage.renderer <;> cases target.drawable <;> rfl
  | setCostume id number =>
    rw [perform]
    unfold Stage.setCostume
    cases found : stage.target? id with
    | none => exact still
    | some target =>
      have dressed : Each (Target.Retouched (.setCostume id number)) stage
          (stage.modify id ({ · with costume := costumeAt target.costumeCount number })) := by
        refine .modify (.kept _) fun other present => ?_
        obtain rfl := Option.some.inj (found.symm.trans present)
        exact .dressed target id number
      exact dressed.congr fun other => target_forward _ id other _
  | setEffect id effect strength =>
    rw [perform]
    unfold Stage.setEffect
    by_cases unknown : effect ∉ effectNames
    · rw [if_pos unknown]
      exact still
    · rw [if_neg unknown]
      cases found : stage.target? id with
      | none => exact still
      | some target =>
        have tinted : Each (Target.Retouched (.setEffect id effect strength)) stage
            (stage.modify id ({ · with
              effects := target.effects.insert effect (Target.clampEffect effect strength) })) := by
          refine .modify (.kept _) fun other present => ?_
          obtain rfl := Option.some.inj (found.symm.trans present)
          exact .tinted target id (Decidable.not_not.mp unknown) strength
        exact tinted.congr fun other => target_forward _ id other _
  | clearEffects id =>
    have cleared : Each (Target.Retouched (.clearEffects id)) stage
        (stage.modify id ({ · with effects := .empty })) :=
      .modify (.kept _) fun target _ => .cleared target id
    exact cleared.congr fun other =>
      (target_clearEffects stage id other).trans (target_modify stage id other _).symm
  | setBubble id bubble =>
    have spoken : Each (Target.Retouched (.setBubble id bubble)) stage
        (stage.modify id ({ · with bubble := bubble.filter fun bubble => bubble.text ≠ "" })) :=
      .modify (.kept _) fun target _ => .spoken target id bubble
    exact spoken.congr fun other =>
      (target_setBubble stage id other bubble).trans (target_modify stage id other _).symm
  | setLayerOrder id position relative =>
    refine still.congr fun other => ?_
    rw [perform]
    unfold Stage.setLayerOrder
    cases (stage.target? id).bind Target.drawable <;> cases stage.renderer <;> rfl
  | onGreenFlag => exact .mapped .flagged (target_onGreenFlag stage)
  | onStopAll => exact .mapped .stopped (target_onStopAll stage)
  | setEditing id =>
    refine still.congr fun other => ?_
    rw [perform]
    unfold Stage.setEditing
    cases stage.contains id <;> rfl
  | requestRedraw => exact still.congr fun _ => rfl
  | takeRedraw => exact still.congr fun _ => rfl
  | draw => exact still.congr fun _ => rfl

end Stage

end SpriteMachine
