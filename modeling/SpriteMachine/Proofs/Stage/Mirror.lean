import SpriteMachine.Proofs.Stage
import SpriteMachine.Proofs.Stage.Operation

/-!
# The renderer shows the targets

A renderer mirrors targets when its drawables are theirs, one for each, and every drawable
shows what its target looks like. A target may be changed together with its drawable, a new
drawable may be made for a new one, and a target may go with its drawable. Every operation
of the stage comes down to these, so a renderer mirrors the targets from the moment on at
which it is attached.
-/

namespace SpriteMachine

variable {α : Type}

/-- The drawable that shows a target as it is. -/
def Target.drawn [Scalar α] (target : Target α) : Drawable α := ⟨target.layer, target.appearance⟩

namespace Stage

variable [Scalar α]

/-- A renderer shows targets: the drawables of the targets are those of the renderer, each of
them once, and every drawable shows its target as it is. The next drawable is a new one. -/
structure Mirrors (targets : List (Target α)) (renderer : Renderer α) : Prop where
  drawables : (targets.map Target.drawable).Perm (renderer.drawables.keys.map some)
  shown : ∀ target ∈ targets, ∀ drawable, target.drawable = some drawable →
    renderer.drawables.find? drawable = some target.drawn
  numbered : ∀ drawable ∈ renderer.drawables.keys, drawable.number < renderer.nextNumber

namespace Mirrors

variable {targets : List (Target α)} {renderer : Renderer α}

/-- A fresh renderer mirrors a stage without targets. -/
theorem fresh : Mirrors ([] : List (Target α)) .fresh :=
  ⟨.refl _, fun _ none => (List.not_mem_nil none).elim, fun _ none => (List.not_mem_nil none).elim⟩

/-- Every target has a drawable. -/
theorem drawn (mirrors : Mirrors targets renderer) {target : Target α} (member : target ∈ targets) :
    ∃ drawable, target.drawable = some drawable ∧
      renderer.drawables.find? drawable = some target.drawn := by
  have listed := mirrors.drawables.mem_iff.mp (List.mem_map_of_mem member)
  obtain ⟨drawable, -, same⟩ := List.mem_map.mp listed
  exact ⟨drawable, same.symm, mirrors.shown target member drawable same.symm⟩

/-- No two targets share a drawable. -/
theorem distinct (mirrors : Mirrors targets renderer) : (targets.map Target.drawable).Nodup :=
  mirrors.drawables.nodup_iff.mpr
    (renderer.drawables.keys_nodup.map fun _ _ => Option.some.inj)

/-- A target that gets a drawable is shown beside the others. -/
theorem present (mirrors : Mirrors targets renderer) (target : Target α) :
    Mirrors (targets ++ [(Stage.present renderer target).1]) (Stage.present renderer target).2 := by
  have absent : (⟨renderer.nextNumber⟩ : DrawableId) ∉ renderer.drawables.keys := fun member =>
    Nat.lt_irrefl _ (mirrors.numbered _ member)
  have keys : (Stage.present renderer target).2.drawables.keys =
      renderer.drawables.keys ++ [⟨renderer.nextNumber⟩] :=
    (OrderedMap.keys_modify _ _ _).trans (OrderedMap.keys_insert_of_absent absent _)
  have found : ∀ drawable, (Stage.present renderer target).2.drawables.find? drawable =
      if drawable = ⟨renderer.nextNumber⟩ then some target.drawn
      else renderer.drawables.find? drawable := by
    intro drawable
    simp only [Stage.present, Renderer.create, Renderer.update, OrderedMap.find_modify,
      OrderedMap.find_insert]
    split <;> rfl
  refine ⟨?_, ?_, ?_⟩
  · rw [keys, List.map_append, List.map_append]
    exact mirrors.drawables.append (.refl _)
  · intro other member drawable named
    rw [found]
    rcases List.mem_append.mp member with earlier | new
    · have shown := mirrors.shown other earlier drawable named
      have different : drawable ≠ ⟨renderer.nextNumber⟩ := by
        rintro rfl
        exact absent (OrderedMap.mem_keys_iff.mpr ⟨_, shown⟩)
      rw [if_neg different, shown]
    · obtain rfl := List.mem_singleton.mp new
      rw [if_pos (Option.some.inj named).symm]
      rfl
  · intro drawable member
    rw [keys, List.mem_append, List.mem_singleton] at member
    change drawable.number < renderer.nextNumber + 1
    rcases member with earlier | rfl
    · exact Nat.lt_succ_of_lt (mirrors.numbered drawable earlier)
    · exact Nat.lt_succ_self _

/-- Targets that get drawables are shown beside the others. -/
theorem presentAll (mirrors : Mirrors targets renderer) (added : List (Target α)) :
    Mirrors (targets ++ (Stage.presentAll renderer added).1)
      (Stage.presentAll renderer added).2 := by
  induction added generalizing targets renderer with
  | nil => exact (List.append_nil targets).symm ▸ mirrors
  | cons first rest inductionHypothesis =>
    have later := inductionHypothesis (mirrors.present first)
    rw [List.append_assoc] at later
    exact later

end Mirrors

/-- A renderer is attached and mirrors the targets. -/
def Pictured (stage : Stage α) : Prop :=
  ∃ renderer, stage.renderer = some renderer ∧ Mirrors stage.targets.values renderer

variable {stage after : Stage α} {renderer : Renderer α} {id : TargetId}

/-- The targets are shown from the moment on at which a renderer is attached. -/
theorem pictured_attach (stage : Stage α) : (stage.attach .fresh).Pictured := by
  refine ⟨_, rfl, ?_⟩
  have length := congrArg List.length (presentAll_origins Renderer.fresh stage.targets.values)
  have values : (stage.attach .fresh).targets.values =
      (Stage.presentAll .fresh stage.targets.values).1 :=
    OrderedMap.values_insertAll _ (by
      simpa [OrderedMap.values, OrderedMap.keys] using length)
  rw [values]
  exact Mirrors.fresh.presentAll stage.targets.values

/-- The drawable of a target tells its name. -/
theorem Mirrors.single (mirrors : Mirrors stage.targets.values renderer) {other : TargetId}
    {first second : Target α} (left : stage.target? id = some first)
    (right : stage.target? other = some second) (same : first.drawable = second.drawable) :
    id = other := by
  have distinct := mirrors.distinct
  rw [OrderedMap.values, List.map_map] at distinct
  have entries := List.inj_on_of_nodup_map distinct (OrderedMap.mem_entries_iff.mpr left)
    (OrderedMap.mem_entries_iff.mpr right) same
  exact congrArg Prod.fst entries

/-- Neither the order of the drawables nor the count of updates matters. -/
theorem Mirrors.reorder {targets : List (Target α)} (mirrors : Mirrors targets renderer)
    {other : Renderer α} (entries : other.drawables.entries.Perm renderer.drawables.entries)
    (next : other.nextNumber = renderer.nextNumber) : Mirrors targets other := by
  have keys : other.drawables.keys.Perm renderer.drawables.keys := entries.map Prod.fst
  refine ⟨mirrors.drawables.trans (keys.map some).symm, fun target member drawable named => ?_,
    fun drawable member => next ▸ mirrors.numbered drawable (keys.mem_iff.mp member)⟩
  rw [← OrderedMap.mem_entries_iff, entries.mem_iff, OrderedMap.mem_entries_iff]
  exact mirrors.shown target member drawable named

/-- A target is changed and keeps its drawable, which is the only one that may be changed. -/
theorem Mirrors.alter {map : OrderedMap TargetId (Target α)} (mirrors : Mirrors map.values renderer)
    {other : Renderer α} {change : Target α → Target α}
    (kept : ∀ target, (change target).drawable = target.drawable)
    (keys : other.drawables.keys = renderer.drawables.keys)
    (next : other.nextNumber = renderer.nextNumber)
    (shown : ∀ target drawable, map.find? id = some target → target.drawable = some drawable →
      other.drawables.find? drawable = some (change target).drawn)
    (spared : ∀ drawable, (∀ target, map.find? id = some target → target.drawable ≠ some drawable) →
      other.drawables.find? drawable = renderer.drawables.find? drawable) :
    Mirrors (map.modify id change).values other := by
  have drawables : (map.modify id change).values.map Target.drawable =
      map.values.map Target.drawable := by
    simp only [OrderedMap.modify, OrderedMap.mapEntries, OrderedMap.values, List.map_map]
    refine List.map_congr_left fun entry _ => ?_
    simp only [Function.comp_apply]
    split
    case isTrue => exact kept entry.2
    case isFalse => rfl
  refine ⟨?_, fun target member drawable named => ?_, fun drawable member => ?_⟩
  · rw [drawables, keys]
    exact mirrors.drawables
  · obtain ⟨key, found⟩ := OrderedMap.mem_values_iff.mp member
    rw [OrderedMap.find_modify] at found
    split at found
    case isTrue same =>
      subst same
      obtain ⟨earlier, present, rfl⟩ := Option.map_eq_some_iff.mp found
      exact shown earlier drawable present ((kept earlier).symm.trans named)
    case isFalse different =>
      have untouched : ∀ changed, map.find? id = some changed →
          changed.drawable ≠ some drawable := fun changed present same =>
        different (congrArg Prod.fst (List.inj_on_of_nodup_map
          (by simpa [OrderedMap.values, List.map_map] using mirrors.distinct)
          (OrderedMap.mem_entries_iff.mpr found) (OrderedMap.mem_entries_iff.mpr present)
          (named.trans same.symm)))
      rw [spared drawable untouched]
      exact mirrors.shown target (OrderedMap.mem_values_iff.mpr ⟨key, found⟩) drawable named
  · rw [keys] at member
    exact next ▸ mirrors.numbered drawable member

omit [Scalar α] in
/-- A change is forwarded to the drawable that shows its target. -/
theorem forward_shown {target : Target α} {drawable : DrawableId}
    (found : stage.target? id = some target) (attached : stage.renderer = some renderer)
    (named : target.drawable = some drawable) (look : AppearanceChange α) :
    stage.forward id look = { stage with
      renderer := some (renderer.update drawable look)
      redrawRequested := stage.redrawRequested || target.visible } := by
  simp only [Stage.forward, found, attached, named]

namespace Pictured

/-- Only the targets and the drawables matter. -/
theorem congr (pictured : stage.Pictured) (targets : after.targets = stage.targets)
    (renderer : after.renderer = stage.renderer) : after.Pictured := by
  rw [Pictured, targets, renderer]
  exact pictured

/-- The renderer is asked for something that leaves its drawables as they are, up to their
order. -/
theorem reorder (pictured : stage.Pictured) (change : Renderer α → Renderer α)
    (targets : after.targets = stage.targets)
    (renderer : after.renderer = stage.renderer.map change)
    (entries : ∀ renderer, (change renderer).drawables.entries.Perm renderer.drawables.entries)
    (next : ∀ renderer, (change renderer).nextNumber = renderer.nextNumber) : after.Pictured := by
  obtain ⟨earlier, attached, mirrors⟩ := pictured
  refine ⟨change earlier, by rw [renderer, attached]; rfl, ?_⟩
  rw [targets]
  exact mirrors.reorder (entries earlier) (next earlier)

/-- A target is changed in a way that cannot be seen. -/
theorem unseen (pictured : stage.Pictured) (id : TargetId) (change : Target α → Target α)
    (targets : after.targets = stage.targets.modify id change)
    (renderer : after.renderer = stage.renderer)
    (kept : ∀ target, (change target).drawable = target.drawable ∧
      (change target).drawn = target.drawn) : after.Pictured := by
  obtain ⟨earlier, attached, mirrors⟩ := pictured
  refine ⟨earlier, renderer.trans attached, ?_⟩
  rw [targets]
  refine mirrors.alter (fun target => (kept target).1) rfl rfl
    (fun target drawable found named => ?_) fun _ _ => rfl
  rw [(kept target).2]
  exact mirrors.shown target (OrderedMap.mem_values_iff.mpr ⟨id, found⟩) drawable named

/-- A target is changed, and its drawable in the same way. -/
theorem update (pictured : stage.Pictured) {target : Target α} {drawable : DrawableId}
    (change : Target α → Target α) (look : AppearanceChange α)
    (found : stage.target? id = some target) (named : target.drawable = some drawable)
    (targets : after.targets = stage.targets.modify id change)
    (renderer : after.renderer = stage.renderer.map (·.update drawable look))
    (kept : ∀ target, (change target).drawable = target.drawable ∧
      (change target).layer = target.layer)
    (appearance : (change target).appearance = look.apply target.appearance) : after.Pictured := by
  obtain ⟨earlier, attached, mirrors⟩ := pictured
  refine ⟨earlier.update drawable look, by rw [renderer, attached]; rfl, ?_⟩
  rw [targets]
  refine mirrors.alter (fun target => (kept target).1)
    (OrderedMap.keys_modify _ _ _) rfl (fun other own present same => ?_) fun other spared => ?_
  · obtain rfl := Option.some.inj (found.symm.trans present)
    obtain rfl := Option.some.inj (named.symm.trans same)
    have shown := mirrors.shown target (OrderedMap.mem_values_iff.mpr ⟨id, found⟩) drawable named
    rw [Renderer.update, OrderedMap.find_modify, if_pos rfl, shown, Option.map_some,
      Target.drawn, Target.drawn, appearance, (kept target).2]
  · have different : other ≠ drawable := fun same => spared target found (same ▸ named)
    rw [Renderer.update, OrderedMap.find_modify, if_neg different]

/-- A change of a target is forwarded to its drawable. -/
theorem forwarded (pictured : stage.Pictured) (id : TargetId) {change : Target α → Target α}
    {look : AppearanceChange α}
    (kept : ∀ target, (change target).drawable = target.drawable ∧
      (change target).layer = target.layer)
    (appearance : ∀ target, stage.target? id = some target →
      (change target).appearance = look.apply target.appearance) :
    ((stage.modify id change).forward id look).Pictured := by
  cases found : stage.target? id with
  | none =>
    have still : stage.targets.modify id change = stage.targets :=
      OrderedMap.modify_eq_self fun target present => by
        rw [← target?, found] at present
        cases present
    have absent : (stage.modify id change).target? id = none := by
      rw [target_modify, if_pos rfl, found]
      rfl
    rw [Stage.forward, absent]
    exact pictured.congr still rfl
  | some target =>
    have shown := pictured
    obtain ⟨renderer, attached, mirrors⟩ := shown
    obtain ⟨drawable, named, -⟩ := mirrors.drawn (OrderedMap.mem_values_iff.mpr ⟨id, found⟩)
    have changed : (stage.modify id change).target? id = some (change target) := by
      rw [target_modify, if_pos rfl, found]
      rfl
    have same : (stage.modify id change).renderer = some renderer := attached
    rw [forward_shown changed same ((kept target).1.trans named) look]
    exact pictured.update change look found named rfl (by rw [attached]; rfl) kept
      (appearance target found)

/-- A target is changed, and the pose that it is drawn with too. -/
theorem posed (pictured : stage.Pictured) (id : TargetId) {change : Target α → Target α}
    (kept : ∀ target, (change target).drawable = target.drawable ∧
      (change target).layer = target.layer)
    (appearance : ∀ target, (change target).appearance =
      { target.appearance with
        direction := (change target).renderedPose.1
        scale := (change target).renderedPose.2 }) :
    ((stage.modify id change).forwardPose id).Pictured := by
  cases found : stage.target? id with
  | none =>
    have changed : (stage.modify id change).target? id = none := by
      rw [target_modify, if_pos rfl, found]
      rfl
    have idle : ((stage.modify id change).forward id .none).Pictured :=
        pictured.forwarded id kept fun target present => by
      rw [found] at present
      cases present
    rw [Stage.forward, changed] at idle
    rw [Stage.forwardPose, changed]
    exact idle
  | some target =>
    have changed : (stage.modify id change).target? id = some (change target) := by
      rw [target_modify, if_pos rfl, found]
      rfl
    rw [Stage.forwardPose, changed]
    refine pictured.forwarded id kept fun other present => ?_
    obtain rfl := Option.some.inj (found.symm.trans present)
    exact appearance target

/-- The picture follows a target that moves. -/
theorem setPosition (pictured : stage.Pictured) (id : TargetId) (x y : α) (fenced : Bool) :
    (stage.setPosition id x y fenced).2.Pictured := by
  unfold Stage.setPosition
  split
  case h_1 => exact pictured
  case h_2 =>
    split
    case isTrue => exact pictured
    case isFalse => exact pictured.forwarded id (fun _ => ⟨rfl, rfl⟩) fun _ _ => rfl

/-- The picture follows a target that turns. -/
theorem setDirection (pictured : stage.Pictured) (id : TargetId) (angle : α) :
    (stage.setDirection id angle).2.Pictured := by
  unfold Stage.setDirection
  split
  case h_1 => exact pictured
  case h_2 =>
    split
    case isTrue => exact pictured
    case isFalse => exact pictured.posed id (fun _ => ⟨rfl, rfl⟩) fun _ => rfl

/-- The picture follows a rotation style. -/
theorem setRotationStyle (pictured : stage.Pictured) (id : TargetId) (style : RotationStyle) :
    (stage.setRotationStyle id style).2.Pictured := by
  unfold Stage.setRotationStyle
  split
  case isTrue => exact pictured.posed id (fun _ => ⟨rfl, rfl⟩) fun _ => rfl
  case isFalse => exact pictured

/-- The size of a target changes the scale of its drawable, and not the direction. -/
theorem setSize (pictured : stage.Pictured) (id : TargetId) (size : α) :
    (stage.setSize id size).2.Pictured := by
  unfold Stage.setSize
  split
  case h_1 => exact pictured
  case h_2 target found =>
    split
    case isTrue => exact pictured
    case isFalse =>
      refine pictured.forwarded id (fun _ => ⟨rfl, rfl⟩) fun other present => ?_
      obtain rfl := Option.some.inj (found.symm.trans present)
      unfold Target.appearance Target.renderedPose
      cases target.rotationStyle <;> rfl

/-- The picture follows a change of costume. -/
theorem setCostume (pictured : stage.Pictured) (id : TargetId) (number : Int) :
    (stage.setCostume id number).2.Pictured := by
  unfold Stage.setCostume
  split
  case h_1 => exact pictured
  case h_2 target found =>
    have marked : (stage.mark (costumeOverflows target.costumeCount number)).Pictured :=
      pictured.congr rfl rfl
    exact marked.forwarded id (fun _ => ⟨rfl, rfl⟩) fun _ _ => rfl

/-- The picture follows an effect that is set. -/
theorem setEffect (pictured : stage.Pictured) (id : TargetId) (effect : String) (strength : α) :
    (stage.setEffect id effect strength).2.Pictured := by
  unfold Stage.setEffect
  split
  case isTrue => exact pictured
  case isFalse =>
    split
    case h_1 => exact pictured
    case h_2 => exact pictured.forwarded id (fun _ => ⟨rfl, rfl⟩) fun _ _ => rfl

/-- The picture follows effects that are cleared. -/
theorem clearEffects (pictured : stage.Pictured) (id : TargetId) :
    (stage.clearEffects id).Pictured := by
  unfold Stage.clearEffects
  split
  case isTrue => exact pictured.forwarded id (fun _ => ⟨rfl, rfl⟩) fun _ _ => rfl
  case isFalse => exact pictured

/-- Showing a target asks for a redraw in any case, and is a forwarded change otherwise. -/
theorem setVisible (pictured : stage.Pictured) (id : TargetId) (visible : Bool) :
    (stage.setVisible id visible).2.Pictured := by
  unfold Stage.setVisible
  split
  case h_1 => exact pictured
  case h_2 target found =>
    have shown := pictured
    obtain ⟨renderer, attached, mirrors⟩ := shown
    obtain ⟨drawable, named, -⟩ := mirrors.drawn (OrderedMap.mem_values_iff.mpr ⟨id, found⟩)
    rw [attached, named]
    split
    case isTrue => exact pictured
    case isFalse =>
      exact pictured.update ({ · with visible := visible })
        { AppearanceChange.none with visible := some visible } found named rfl
        (by rw [attached]; rfl) (fun _ => ⟨rfl, rfl⟩) rfl

/-- The picture follows a bubble that is shown or cleared. -/
theorem setBubble (pictured : stage.Pictured) (id : TargetId) (bubble : Option Bubble) :
    (stage.setBubble id bubble).2.Pictured := by
  unfold Stage.setBubble
  split
  case h_1 => exact pictured
  case h_2 =>
    exact pictured.unseen id ({ · with bubble := bubble.filter fun bubble => bubble.text ≠ "" })
      rfl rfl fun _ => ⟨rfl, rfl⟩

/-- Drawables that change places show what they showed before. -/
theorem setLayerOrder (pictured : stage.Pictured) (id : TargetId) (position : Int)
    (relative : Bool) : (stage.setLayerOrder id position relative).2.Pictured := by
  unfold Stage.setLayerOrder
  split
  case h_1 drawable renderer named attached =>
    refine pictured.reorder (fun renderer => (renderer.setOrder drawable position relative).2)
      rfl (by rw [attached]; rfl) (fun renderer => ?_) fun renderer => ?_
    · unfold Renderer.setOrder
      split
      case h_1 => exact .refl _
      case h_2 => exact OrderedMap.entries_move _ _ _
    · unfold Renderer.setOrder
      split <;> rfl
  case h_2 => exact pictured

/-- The picture knows nothing of the target that is edited. -/
theorem setEditing (pictured : stage.Pictured) (id : TargetId) :
    (stage.setEditing id).2.Pictured := by
  unfold Stage.setEditing
  split
  case isTrue => exact pictured.congr rfl rfl
  case isFalse => exact pictured

/-- A target goes with its drawable, and the others stay shown. -/
theorem dispose (pictured : stage.Pictured) (id : TargetId) : (stage.dispose id).2.Pictured := by
  cases found : stage.target? id with
  | none =>
    rw [dispose_absent found]
    exact pictured
  | some target =>
    obtain ⟨renderer, attached, mirrors⟩ := pictured
    obtain ⟨drawable, named, shown⟩ := mirrors.drawn (OrderedMap.mem_values_iff.mpr ⟨id, found⟩)
    have destroyed : (stage.dispose id).2.renderer = some (renderer.destroy drawable) := by
      rw [Stage.dispose, found]
      dsimp only
      rw [attached, named]
    have targets : stage.targets.values.Perm (target :: (stage.targets.erase id).values) :=
      (OrderedMap.entries_erase found).map Prod.snd
    have drawables : renderer.drawables.keys.Perm
        (drawable :: (renderer.drawables.erase drawable).keys) :=
      (OrderedMap.entries_erase shown).map Prod.fst
    have remaining : ((stage.targets.erase id).values.map Target.drawable).Perm
        ((renderer.drawables.erase drawable).keys.map some) := by
      have together := (targets.map Target.drawable).symm.trans
        (mirrors.drawables.trans (drawables.map some))
      rw [List.map_cons, List.map_cons, named] at together
      exact together.cons_inv
    refine ⟨_, destroyed, ?_⟩
    rw [(dispose_found found).2.1]
    refine ⟨remaining, fun other member held own => ?_, fun held member => ?_⟩
    · have survives : held ∈ (renderer.drawables.erase drawable).keys := by
        obtain ⟨key, listed, same⟩ :=
          List.mem_map.mp (remaining.mem_iff.mp (List.mem_map_of_mem member))
        rwa [← Option.some.inj (same.trans own)]
      obtain ⟨shownThere, foundThere⟩ := OrderedMap.mem_keys_iff.mp survives
      have before := mirrors.shown other (targets.mem_iff.mpr (List.mem_cons_of_mem _ member))
        held own
      have different : held ≠ drawable := by
        rintro rfl
        rw [OrderedMap.find_erase, if_pos rfl] at foundThere
        cases foundThere
      rw [Renderer.destroy, OrderedMap.find_erase, if_neg different, before]
    · exact mirrors.numbered held (drawables.mem_iff.mpr (List.mem_cons_of_mem _ member))

/-- A target under a vacant name is shown in front of the others. -/
theorem join (pictured : stage.Pictured) {target : Target α}
    (vacant : stage.target? target.id = none) : (stage.add target).Pictured := by
  obtain ⟨renderer, attached, mirrors⟩ := pictured
  have missing : stage.contains target.id = false := by
    rw [contains_eq_isSome, vacant]
    rfl
  have absent : target.id ∉ stage.targets.keys := fun member => by
    rw [← OrderedMap.contains_eq_true, ← Stage.contains, missing] at member
    cases member
  refine ⟨(Stage.present renderer target).2, ?_, ?_⟩
  · simp only [Stage.add, missing, Bool.false_eq_true, if_false, attached]
  · have targets : (stage.add target).targets =
        stage.targets.insert target.id (Stage.present renderer target).1 := by
      simp only [Stage.add, missing, Bool.false_eq_true, if_false, attached]
      cases target.isClone <;> rfl
    rw [targets, OrderedMap.values, OrderedMap.entries_insert_of_absent absent, List.map_append]
    exact mirrors.present target

/-- One of the same name goes before a target is added. -/
theorem add (pictured : stage.Pictured) (target : Target α) : (stage.add target).Pictured := by
  rw [add_eq]
  exact (pictured.dispose target.id).join (vacant_dispose stage target.id)

/-- The picture follows the removal of several targets. -/
theorem disposeAll (ids : List TargetId) {stage : Stage α} (pictured : stage.Pictured) :
    (stage.disposeAll ids).2.Pictured := by
  induction ids generalizing stage with
  | nil => exact pictured
  | cons first rest inductionHypothesis => exact inductionHypothesis (pictured.dispose first)

/-- What every change along a walk through targets preserves, the walk preserves. -/
theorem foldl {change : Stage α → TargetId → Stage α}
    (preserved : ∀ (stage : Stage α) id, stage.Pictured → (change stage id).Pictured)
    (ids : List TargetId) {stage : Stage α} (pictured : stage.Pictured) :
    (ids.foldl change stage).Pictured := by
  induction ids generalizing stage with
  | nil => exact pictured
  | cons first rest inductionHypothesis =>
    exact inductionHypothesis (preserved stage first pictured)

/-- Every operation leaves the targets shown. -/
theorem perform (pictured : stage.Pictured) (operation : StageOperation α) :
    (stage.perform operation).Pictured := by
  cases operation with
  | attach => exact pictured_attach stage
  | add target => exact pictured.add target
  | dispose id => exact pictured.dispose id
  | disposeClones => exact pictured.disposeAll stage.cloneIds
  | setPosition id x y fenced => exact pictured.setPosition id x y fenced
  | setDirection id angle => exact pictured.setDirection id angle
  | setRotationStyle id style => exact pictured.setRotationStyle id style
  | setSize id size => exact pictured.setSize id size
  | setVisible id visible => exact pictured.setVisible id visible
  | setCostume id number => exact pictured.setCostume id number
  | setEffect id effect strength => exact pictured.setEffect id effect strength
  | clearEffects id => exact pictured.clearEffects id
  | setBubble id bubble => exact pictured.setBubble id bubble
  | setLayerOrder id position relative => exact pictured.setLayerOrder id position relative
  | onGreenFlag => exact foldl (fun _ id shown => shown.clearEffects id) _ pictured
  | onStopAll =>
    exact foldl (fun _ id shown => (shown.setBubble id none).clearEffects id) _ pictured
  | setEditing id => exact pictured.setEditing id
  | requestRedraw => exact pictured.congr rfl rfl
  | takeRedraw => exact pictured.congr rfl rfl
  | draw => exact pictured.reorder Renderer.draw rfl rfl (fun _ => .refl _) fun _ => rfl

end Pictured

end Stage

end SpriteMachine
