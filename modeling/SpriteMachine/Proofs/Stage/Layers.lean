import Mathlib.Data.List.Induction
import SpriteMachine.Number.Binary
import SpriteMachine.Proofs.Stage.Picture

/-!
# Backdrops behind sprites

Drawables are in order when every one of the background comes before every sprite. What is made
new comes to the front, and what is moved is kept in front of as many places as there are
backgrounds, whatever it is itself. So sprites keep the order wherever they are sent, and it is
lost just when a backdrop comes or goes somewhere while there is a sprite.
-/

namespace SpriteMachine

namespace Layer

/-- Every background comes before every sprite. -/
def InOrder (layers : List Layer) : Prop :=
  layers.Pairwise fun back front => ¬(back = .sprite ∧ front = .background)

instance (layers : List Layer) : Decidable (InOrder layers) :=
  inferInstanceAs (Decidable (layers.Pairwise _))

variable {layers : List Layer} {layer : Layer}

/-- Without a sprite any layers are in order. -/
theorem inOrder_of_no_sprite (none : sprite ∉ layers) : InOrder layers :=
  List.pairwise_iff_forall_sublist.mpr fun pair both =>
    none (both.1 ▸ pair.subset List.mem_cons_self)

/-- What comes to the front has to be a sprite if there is one. -/
theorem inOrder_concat :
    InOrder (layers ++ [layer]) ↔ InOrder layers ∧ (layer = background → sprite ∉ layers) := by
  rw [InOrder, List.pairwise_append, InOrder]
  simp only [List.pairwise_singleton, List.mem_singleton, forall_eq, true_and]
  refine and_congr_right fun _ => ⟨?_, ?_⟩
  · rintro apart rfl member
    exact apart sprite member ⟨rfl, rfl⟩
  · rintro none back member ⟨rfl, rfl⟩
    exact none rfl member

/-- In order there are the backgrounds, and then the sprites. -/
theorem InOrder.eq_replicate (ordered : InOrder layers) :
    layers = List.replicate (layers.count background) background ++
      List.replicate (layers.count sprite) sprite := by
  induction layers with
  | nil => rfl
  | cons first rest inductionHypothesis =>
    obtain ⟨behind, later⟩ := List.pairwise_cons.mp ordered
    cases first with
    | background =>
      rw [List.count_cons_self, List.count_cons_of_ne (by decide), List.replicate_succ,
        List.cons_append, ← inductionHypothesis later]
    | sprite =>
      have absent : background ∉ rest := fun member => behind background member ⟨rfl, rfl⟩
      have none := List.count_eq_zero_of_not_mem absent
      have sprites := inductionHypothesis later
      rw [none, List.replicate_zero, List.nil_append] at sprites
      rw [List.count_cons_of_ne (by decide), none, List.count_cons_self, List.replicate_zero,
        List.nil_append, List.replicate_succ, ← sprites]

/-- Behind as many places as there are backgrounds come sprites only. -/
theorem InOrder.sprite_of_mem_drop (ordered : InOrder layers) {place : Nat}
    (room : layers.count background ≤ place) (member : layer ∈ layers.drop place) :
    layer = sprite := by
  rw [ordered.eq_replicate, List.drop_append, List.drop_replicate, Nat.sub_eq_zero_of_le room,
    List.replicate_zero, List.nil_append] at member
  exact List.eq_of_mem_replicate (List.mem_of_mem_drop member)

/-- Before any further place comes a sprite, if there is one. -/
theorem InOrder.sprite_mem_take (ordered : InOrder layers) {place : Nat}
    (room : layers.count background < place) (member : sprite ∈ layers) :
    sprite ∈ layers.take place := by
  have many : 0 < layers.count sprite := List.count_pos_iff.mpr member
  rw [ordered.eq_replicate, List.take_append]
  refine List.mem_append_right _ ?_
  rw [List.length_replicate, List.take_replicate, List.mem_replicate]
  exact ⟨by omega, rfl⟩

/-- Somebody is taken out and put in again in front of as many places as there are backgrounds.
That keeps the order for a sprite, and for a background as long as there is no sprite. -/
theorem InOrder.move_iff (ordered : InOrder layers) {source place : Nat}
    (taken : layers[source]? = some layer)
    (room : sprite ∈ layers → layers.count background ≤ place) :
    InOrder ((layers.eraseIdx source).take place ++ layer :: (layers.eraseIdx source).drop place) ↔
      (layer = background → sprite ∉ layers) := by
  obtain ⟨inside, here⟩ := List.getElem?_eq_some_iff.mp taken
  have together : (layer :: layers.eraseIdx source).Perm layers :=
    here ▸ List.getElem_cons_eraseIdx_perm inside
  have rest : InOrder (layers.eraseIdx source) := ordered.sublist (List.eraseIdx_sublist _ _)
  have counted := together.count_eq background
  cases layer with
  | sprite =>
    refine iff_of_true ?_ fun impossible => by cases impossible
    rw [List.count_cons_of_ne (by decide)] at counted
    have enough := room (together.mem_iff.mp List.mem_cons_self)
    have sprites : ∀ front ∈ sprite :: (layers.eraseIdx source).drop place, front = sprite :=
      List.forall_mem_cons.mpr ⟨rfl, fun front member =>
        rest.sprite_of_mem_drop (counted ▸ enough) member⟩
    refine List.pairwise_append.mpr ⟨rest.sublist (List.take_sublist _ _),
      List.pairwise_cons.mpr ⟨fun front member both => ?_, rest.sublist (List.drop_sublist _ _)⟩,
      fun back _ front member both => ?_⟩
    · cases (sprites front (List.mem_cons_of_mem _ member)).symm.trans both.2
    · cases (sprites front member).symm.trans both.2
  | background =>
    -- The others have one background less, so a sprite comes before the place.
    rw [List.count_cons_self] at counted
    constructor
    · intro moved _ present
      have enough := room present
      have remaining : sprite ∈ layers.eraseIdx source :=
        (List.mem_cons.mp (together.mem_iff.mpr present)).resolve_left (by decide)
      have early : sprite ∈ (layers.eraseIdx source).take place :=
        rest.sprite_mem_take (by omega) remaining
      exact (List.pairwise_append.mp moved).2.2 sprite early background List.mem_cons_self
        ⟨rfl, rfl⟩
    · intro none
      refine inOrder_of_no_sprite fun member => none rfl (together.mem_iff.mp ?_)
      exact (List.perm_middle.trans (.of_eq (by rw [List.take_append_drop]))).mem_iff.mp member

end Layer

variable {α : Type}

namespace Renderer

variable {renderer : Renderer α} {id : DrawableId} {drawable : Drawable α}

/-- The place of a drawable is where it stands. -/
theorem entry_of_order {current : Nat} (placed : renderer.order? id = some current)
    (found : renderer.drawables.find? id = some drawable) :
    renderer.drawables.entries[current]? = some (id, drawable) := by
  obtain ⟨inside, named, -⟩ := List.idxOf?_eq_some_iff.mp placed
  have within : current < renderer.drawables.entries.length := by
    simpa [OrderedMap.keys] using inside
  have key : renderer.drawables.entries[current].1 = id := by
    simpa [OrderedMap.keys] using named
  have held : renderer.drawables.find? renderer.drawables.entries[current].1 =
      some renderer.drawables.entries[current].2 :=
    OrderedMap.mem_entries_iff.mp (List.getElem_mem within)
  rw [key, found] at held
  exact List.getElem?_eq_some_iff.mpr ⟨within, Prod.ext key (Option.some.inj held).symm⟩

/-- The renderer counts its backgrounds where it says how many there are. -/
theorem backgroundCount_eq (renderer : Renderer α) :
    renderer.backgroundCount = renderer.layers.count .background := by
  rw [backgroundCount, layers, List.count_eq_countP, List.countP_map]
  exact List.countP_congr fun drawable _ => by simp

/-- A drawable is moved in an orderly picture. A sprite stays in front of the backgrounds, and a
background comes in front of a sprite if there is one. -/
theorem inOrder_setOrder (ordered : Layer.InOrder renderer.layers)
    (found : renderer.drawables.find? id = some drawable) (position : Int) (relative : Bool) :
    Layer.InOrder (renderer.setOrder id position relative).2.layers ↔
      (drawable.layer = .background → .sprite ∉ renderer.layers) := by
  unfold setOrder
  split
  case h_1 missing =>
    exact absurd (OrderedMap.mem_keys_iff.mpr ⟨drawable, found⟩)
      (List.idxOf?_eq_none_iff.mp missing)
  case h_2 current placed =>
    have taken := entry_of_order placed found
    have length : renderer.layers.length = renderer.drawables.size := by
      simp [layers, OrderedMap.values, OrderedMap.size]
    simp only [layers, OrderedMap.values]
    rw [OrderedMap.entries_move_of_taken taken]
    simp only [List.map_append, List.map_cons, List.map_take, List.map_drop, ← List.eraseIdx_map]
    refine Layer.InOrder.move_iff ordered (by simp [layers, OrderedMap.values, taken])
      fun present => ?_
    have room : renderer.layers.count .background < renderer.layers.length :=
      Nat.lt_of_le_of_ne List.count_le_length fun all => by
        cases List.count_eq_length.mp all .sprite present
    change renderer.layers.count .background ≤ _
    rw [backgroundCount_eq]
    omega

end Renderer

/-- Only the stage target is drawn as a background. -/
theorem Target.layer_eq_background {target : Target α} :
    target.layer = .background ↔ target.isStage = true := by
  unfold layer
  split <;> simp_all

/-- Every other target is drawn as a sprite. -/
theorem Target.layer_eq_sprite {target : Target α} :
    target.layer = .sprite ↔ target.isStage = false := by
  unfold layer
  split <;> simp_all

namespace Stage

/-- A renderer is attached, and it paints every backdrop before every sprite. -/
def BackdropsBehind (stage : Stage α) : Prop :=
  ∃ layers, stage.layers = some layers ∧ Layer.InOrder layers

instance (stage : Stage α) : Decidable stage.BackdropsBehind :=
  decidable_of_iff (∃ layers ∈ stage.layers, Layer.InOrder layers) Iff.rfl

/-- What an operation must heed so that the backdrops stay behind the sprites: a renderer is
attached while the backdrops come first among the targets, a backdrop is added while there is no
sprite but one that it replaces, and a backdrop is moved while there is no sprite. All else is
free. -/
def HeedsBackdrops (stage : Stage α) : StageOperation α → Prop
  | .attach => Layer.InOrder (stage.targets.values.map Target.layer)
  | .add target => target.isStage = true → ∀ id other, stage.target? id = some other →
      id ≠ target.id → other.isStage = true
  | .setLayerOrder id _ _ => ∀ target, stage.target? id = some target → target.isStage = true →
      ∀ name other, stage.target? name = some other → other.isStage = true
  | _ => True

variable [Scalar α] {stage before after : Stage α} {renderer : Renderer α}
  {targets : List (Target α)} {target : Target α}

/-- There is a sprite in the picture when there is one among the targets. -/
theorem Mirrors.sprite_mem_layers (mirrors : Mirrors targets renderer) :
    .sprite ∈ renderer.layers ↔ ∃ target ∈ targets, target.isStage = false := by
  constructor
  · intro member
    obtain ⟨shape, held, layer⟩ := List.mem_map.mp member
    obtain ⟨drawable, found⟩ := OrderedMap.mem_values_iff.mp held
    have listed := mirrors.drawables.mem_iff.mpr
      (List.mem_map_of_mem (OrderedMap.mem_keys_iff.mpr ⟨shape, found⟩))
    obtain ⟨target, present, named⟩ := List.mem_map.mp listed
    have shown := mirrors.shown target present drawable named
    rw [found] at shown
    rw [Option.some.inj shown] at layer
    exact ⟨target, present, Target.layer_eq_sprite.mp layer⟩
  · rintro ⟨target, present, isSprite⟩
    obtain ⟨drawable, -, shown⟩ := mirrors.drawn present
    exact List.mem_map.mpr ⟨target.drawn, OrderedMap.mem_values_iff.mpr ⟨drawable, shown⟩,
      Target.layer_eq_sprite.mpr isSprite⟩

/-- There is no sprite in the picture when every target is a backdrop. -/
theorem Mirrors.sprite_not_mem_layers (mirrors : Mirrors stage.targets.values renderer) :
    .sprite ∉ renderer.layers ↔
      ∀ id target, stage.target? id = some target → target.isStage = true := by
  rw [mirrors.sprite_mem_layers]
  constructor
  · intro none id target found
    refine (Bool.eq_false_or_eq_true target.isStage).resolve_right fun isSprite => ?_
    exact none ⟨target, OrderedMap.mem_values_iff.mpr ⟨id, found⟩, isSprite⟩
  · rintro all ⟨target, member, isSprite⟩
    obtain ⟨id, found⟩ := OrderedMap.mem_values_iff.mp member
    rw [all id target found] at isSprite
    cases isSprite

/-- The drawable of a new target comes in front of all that are there. -/
theorem Mirrors.layers_present (mirrors : Mirrors targets renderer) (target : Target α) :
    (Stage.present renderer target).2.layers = renderer.layers ++ [target.layer] := by
  simp only [Renderer.layers, OrderedMap.values]
  rw [mirrors.entries_present, List.map_append, List.map_append]
  rfl

/-- The drawables of several new targets come to the front one after another. -/
theorem Mirrors.layers_presentAll (mirrors : Mirrors targets renderer) (added : List (Target α)) :
    (Stage.presentAll renderer added).2.layers = renderer.layers ++ added.map Target.layer := by
  induction added generalizing targets renderer with
  | nil => exact (List.append_nil _).symm
  | cons first rest inductionHypothesis =>
    change (Stage.presentAll (Stage.present renderer first).2 rest).2.layers = _
    rw [inductionHypothesis (mirrors.present first), mirrors.layers_present, List.append_assoc]
    rfl

omit [Scalar α] in
/-- Only the layers tell whether the backdrops are behind. -/
theorem BackdropsBehind.congr (same : after.layers = before.layers) :
    after.BackdropsBehind ↔ before.BackdropsBehind := by
  rw [BackdropsBehind, same, BackdropsBehind]

omit [Scalar α] in
/-- With a renderer attached, the backdrops are behind when its layers are in order. -/
theorem backdropsBehind_attached (attached : stage.renderer = some renderer) :
    stage.BackdropsBehind ↔ Layer.InOrder renderer.layers := by
  simp [BackdropsBehind, layers_attached attached]

/-- A renderer that is attached paints the targets in their order. -/
theorem backdropsBehind_attach (stage : Stage α) :
    (stage.attach .fresh).BackdropsBehind ↔ stage.HeedsBackdrops .attach := by
  have layers := Mirrors.fresh.layers_presentAll stage.targets.values
  rw [backdropsBehind_attached rfl, layers]
  rfl

/-- A target under a vacant name comes in front of the others. -/
theorem BackdropsBehind.join_iff (behind : stage.BackdropsBehind) (pictured : stage.Pictured)
    (vacant : stage.target? target.id = none) :
    (stage.add target).BackdropsBehind ↔ (target.isStage = true →
      ∀ id other, stage.target? id = some other → other.isStage = true) := by
  obtain ⟨renderer, attached, mirrors⟩ := pictured
  have ordered := (backdropsBehind_attached attached).mp behind
  rw [← mirrors.sprite_not_mem_layers, ← Target.layer_eq_background,
    backdropsBehind_attached (add_attached attached vacant).1, mirrors.layers_present,
    Layer.inOrder_concat]
  exact and_iff_right ordered

/-- Whoever goes leaves the others in order. -/
theorem BackdropsBehind.dispose (behind : stage.BackdropsBehind) (pictured : stage.Pictured)
    (id : TargetId) : (stage.dispose id).2.BackdropsBehind := by
  cases found : stage.target? id with
  | none =>
    rw [dispose_absent found]
    exact behind
  | some target =>
    obtain ⟨renderer, attached, mirrors⟩ := pictured
    have ordered := (backdropsBehind_attached attached).mp behind
    obtain ⟨drawable, named, -⟩ := mirrors.drawn (OrderedMap.mem_values_iff.mpr ⟨id, found⟩)
    rw [backdropsBehind_attached (dispose_attached attached found named).1]
    exact ordered.sublist (layers_destroy renderer drawable)

/-- The backdrops stay behind however many targets are removed. -/
theorem BackdropsBehind.disposeAll (ids : List TargetId) {stage : Stage α}
    (behind : stage.BackdropsBehind) (pictured : stage.Pictured) :
    (stage.disposeAll ids).2.BackdropsBehind := by
  induction ids generalizing stage with
  | nil => exact behind
  | cons first rest inductionHypothesis =>
    exact inductionHypothesis (behind.dispose pictured first) (pictured.dispose first)

/-- One of the same name goes before a target is added. -/
theorem BackdropsBehind.add_iff (behind : stage.BackdropsBehind) (pictured : stage.Pictured) :
    (stage.add target).BackdropsBehind ↔ stage.HeedsBackdrops (.add target) := by
  rw [add_eq, (behind.dispose pictured target.id).join_iff (pictured.dispose target.id)
    (vacant_dispose stage target.id)]
  refine imp_congr_right fun _ => forall₂_congr fun id other => ?_
  rw [target_dispose]
  by_cases same : id = target.id <;> simp [same]

/-- A sprite may be moved anywhere, and a backdrop where there are no sprites. -/
theorem BackdropsBehind.setLayerOrder_iff (behind : stage.BackdropsBehind)
    (pictured : stage.Pictured) (id : TargetId) (position : Int) (relative : Bool) :
    (stage.setLayerOrder id position relative).2.BackdropsBehind ↔
      stage.HeedsBackdrops (.setLayerOrder id position relative) := by
  cases found : stage.target? id with
  | none =>
    simp only [Stage.setLayerOrder, HeedsBackdrops, found, Option.bind_none]
    simp [behind]
  | some target =>
    obtain ⟨renderer, attached, mirrors⟩ := pictured
    have ordered := (backdropsBehind_attached attached).mp behind
    obtain ⟨drawable, named, shown⟩ := mirrors.drawn (OrderedMap.mem_values_iff.mpr ⟨id, found⟩)
    have moved : (stage.setLayerOrder id position relative).2.renderer =
        some (renderer.setOrder drawable position relative).2 := by
      simp only [Stage.setLayerOrder, found, Option.bind_some, named, attached]
    have sorted := Renderer.inOrder_setOrder ordered shown position relative
    change _ ↔ (target.layer = .background → _) at sorted
    rw [Target.layer_eq_background, mirrors.sprite_not_mem_layers] at sorted
    simp only [HeedsBackdrops, found, Option.some.injEq, forall_eq']
    rw [backdropsBehind_attached moved, sorted]

/-- From an orderly picture an operation makes an orderly one just when it heeds the backdrops. -/
theorem BackdropsBehind.perform_iff (behind : stage.BackdropsBehind) (pictured : stage.Pictured)
    (operation : StageOperation α) :
    (stage.perform operation).BackdropsBehind ↔ stage.HeedsBackdrops operation := by
  cases operation with
  | attach => exact backdropsBehind_attach stage
  | add target => exact behind.add_iff pictured
  | dispose id => exact iff_true_intro (behind.dispose pictured id)
  | disposeClones => exact iff_true_intro (behind.disposeAll stage.cloneIds pictured)
  | setLayerOrder id position relative =>
    exact behind.setLayerOrder_iff pictured id position relative
  | takeRedraw => exact iff_true_intro ((congr rfl).mpr behind)
  | _ => exact iff_true_intro ((congr (pictured.repaints_perform rfl).layers).mpr behind)

/-- The backdrops stay behind all sprites as long as every operation heeds them, and no longer.
Whatever was done before a renderer is attached, it paints every backdrop before every sprite
after any number of the operations that follow just when it finds the backdrops first, none of
the operations adds a backdrop to a stage with another sprite and none moves one there. -/
theorem backdrops_stay_behind (maxClones : Nat) (before after : List (StageOperation α)) :
    (∀ done, done <+: after →
        ((((empty maxClones).run before).attach .fresh).run done).BackdropsBehind) ↔
      ((empty maxClones).run before).HeedsBackdrops .attach ∧
        ∀ done operation, done ++ [operation] <+: after →
          ((((empty maxClones).run before).attach .fresh).run done).HeedsBackdrops operation := by
  have pictured := fun done => (pictured_attach ((empty maxClones).run before)).run done
  have step : ∀ done operation,
      (((empty maxClones).run before).attach .fresh).run (done ++ [operation]) =
        ((((empty maxClones).run before).attach .fresh).run done).perform operation :=
    fun done operation => List.foldl_concat perform _ operation done
  constructor
  · intro behind
    refine ⟨(backdropsBehind_attach _).mp (behind [] List.nil_prefix),
      fun done operation early => ?_⟩
    rw [← (behind done ((List.prefix_append done _).trans early)).perform_iff (pictured done),
      ← step]
    exact behind _ early
  · rintro ⟨first, heeds⟩ done
    induction done using List.reverseRecOn with
    | nil => exact fun _ => (backdropsBehind_attach _).mpr first
    | append_singleton done operation inductionHypothesis =>
      intro early
      have behind := inductionHypothesis ((List.prefix_append done _).trans early)
      rw [step, behind.perform_iff (pictured done)]
      exact heeds done operation early

/-- A backdrop that is added behind a sprite covers it, and so does one that is sent back in the
presence of a sprite. -/
theorem late_backdrop_covers :
    ¬(((empty defaultMaxClones : Stage Float).attach .fresh).run
        [.add (.sprite ⟨"cat"⟩ "Cat"), .add (.stage ⟨"stage"⟩)]).BackdropsBehind ∧
      ¬(((empty defaultMaxClones : Stage Float).attach .fresh).run
        [.add (.stage ⟨"stage"⟩), .add (.sprite ⟨"cat"⟩ "Cat"),
          .setLayerOrder ⟨"stage"⟩ 0 false]).BackdropsBehind := by
  decide +kernel

end Stage

end SpriteMachine
