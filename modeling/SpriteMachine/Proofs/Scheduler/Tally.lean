import SpriteMachine.Proofs.Scheduler.Census
import SpriteMachine.Proofs.Scheduler.Stop
import SpriteMachine.Proofs.Scheduler.Stroke

/-!
# Steps that tally

A step of a scheduler tallies when clones are accounted for behind it if they were before.
Whatever concerns threads and worker alone tallies, since neither stage nor notices take part.
Making a clone, removing one, stopping everything and disposing of everything change the stage
and give the notices that go with it.
-/

namespace SpriteMachine

namespace Scheduler

variable {τ α : Type} {limit : Nat} {first second third before after : Scheduler τ α}

/-- The clones of a scheduler are accounted for. -/
def Census (limit : Nat) (scheduler : Scheduler τ α) : Prop :=
  Stage.Census limit scheduler.stage scheduler.notices scheduler.ids

/-- A step behind which clones are still accounted for. -/
def Tallies (before after : Scheduler τ α) : Prop :=
  ∀ limit, Census limit before → Census limit after

namespace Tallies

/-- To do nothing leaves the clones accounted for. -/
theorem refl (scheduler : Scheduler τ α) : Tallies scheduler scheduler := fun _ census => census

/-- Two steps leave the clones accounted for when each does. -/
theorem trans (before : Tallies first second) (after : Tallies second third) :
    Tallies first third :=
  fun limit census => after limit (before limit census)

/-- Targets are renewed at most, and nothing is announced. -/
theorem still (stage : Stage.Renews before.stage after.stage)
    (notices : after.notices = before.notices)
    (ids : IdSource.Continues before.ids after.ids) : Tallies before after := by
  intro limit census
  have later := (Stage.Census.renew census stage).continued ids
  rwa [← notices] at later

/-- Targets that are renewed in place stay accounted for. -/
theorem ofStage (scheduler : Scheduler τ α) {stage : Stage α}
    (renews : Stage.Renews scheduler.stage stage) :
    Tallies scheduler { scheduler with stage := stage } :=
  still renews rfl (.refl _)

/-- Whatever is done to threads and worker. -/
theorem ofUndisturbed {bridge : Bridge τ α}
    (undisturbed : Undisturbed { before with bridge := bridge } after)
    (ids : IdSource.Continues before.ids after.ids) : Tallies before after :=
  still (undisturbed.stage ▸ .refl _) undisturbed.notices ids

/-- To retire threads leaves the clones accounted for. -/
theorem retireAll (ids : List ThreadId) (scheduler : Scheduler τ α) :
    Tallies scheduler (scheduler.retireAll ids) :=
  ofUndisturbed (retireAll_undisturbed ids scheduler) (retireAll_ids scheduler ids ▸ .refl _)

/-- To end a thread leaves the clones accounted for. -/
theorem endThread (scheduler : Scheduler τ α) (id : ThreadId) :
    Tallies scheduler (scheduler.endThread id).2 := by
  unfold Scheduler.endThread
  split <;> exact refl scheduler

/-- To add a thread leaves the clones accounted for. -/
theorem addThread (scheduler : Scheduler τ α) (target : TargetId) (hasListener : Bool) :
    Tallies scheduler (scheduler.addThread target hasListener).2 :=
  still (.refl _) rfl (IdSource.draw_continues _ _)

/-- To adopt threads leaves the clones accounted for. -/
theorem adoptAll (entries : List (ScriptId × Registration)) (scheduler : Scheduler τ α) :
    Tallies scheduler (scheduler.adoptAll entries).2 := by
  induction entries generalizing scheduler with
  | nil => exact refl scheduler
  | cons entry rest inductionHypothesis =>
    exact (addThread scheduler entry.2.target false).trans (inductionHypothesis _)

/-- To suspend a thread leaves the clones accounted for. -/
theorem suspend (scheduler : Scheduler τ α) (id : ThreadId) (frame : Frame α) :
    Tallies scheduler (scheduler.suspend id frame) := refl scheduler

variable [Transport τ α]

/-- Threads end, and the worker is told. -/
theorem dismiss (scheduler : Scheduler τ α) (ids : List ThreadId) :
    Tallies scheduler ((scheduler.retireAll ids).tellStopped ids) :=
  (retireAll ids scheduler).trans (refl _)

/-- To start hats leaves the clones accounted for. -/
theorem startHats (scheduler : Scheduler τ α) (hat : String) (filter : HatFilter) :
    Tallies scheduler (scheduler.startHats hat filter).2 := by
  obtain ⟨bridge, undisturbed⟩ := startHats_undisturbed scheduler hat filter
  exact ofUndisturbed undisturbed (startHats_strokes scheduler hat filter).keeps.ids

/-- To stop a thread leaves the clones accounted for. -/
theorem stopThread (scheduler : Scheduler τ α) (id : ThreadId) :
    Tallies scheduler (scheduler.stopThread id).2 := by
  obtain ⟨bridge, undisturbed⟩ := stopThread_undisturbed scheduler id
  exact ofUndisturbed undisturbed (stopThread_strokes scheduler id).keeps.ids

/-- To end every thread leaves the clones accounted for. -/
theorem endEveryThread (scheduler : Scheduler τ α) :
    Tallies scheduler scheduler.endEveryThread :=
  ofUndisturbed (endEveryThread_undisturbed scheduler) (endEveryThread_strokes scheduler).keeps.ids

/-- To open a backend leaves the clones accounted for. -/
theorem openBackend (scheduler : Scheduler τ α) (url : String) :
    Tallies scheduler (scheduler.openBackend url).2 := by
  unfold Scheduler.openBackend
  split
  case h_1 => exact refl scheduler
  case h_2 => split <;> exact refl scheduler

variable [Scalar α]

/-- A notice that is about no clone leaves the clones accounted for. -/
theorem ofEmit (scheduler : Scheduler τ α) (notice : Notice) (aside : notice.IsAside) :
    Tallies scheduler (scheduler.emit notice) :=
  fun _ census => Stage.Census.aside census aside

/-- To stop the threads of a target leaves the clones accounted for. -/
theorem stopForTarget (scheduler : Scheduler τ α) (target : TargetId) (keep : Option ThreadId) :
    Tallies scheduler (scheduler.stopForTarget target keep).2 :=
  (dismiss scheduler _).trans (ofEmit _ _ ⟨rfl, rfl⟩)

/-- The removals are announced one after another. -/
theorem announceRemoved_notices (targets : List TargetId) (scheduler : Scheduler τ α) :
    (scheduler.announceRemoved targets).notices =
      targets.foldl (fun notices id => .targetWasRemoved id :: notices) scheduler.notices := by
  induction targets generalizing scheduler with
  | nil => rfl
  | cons first rest inductionHypothesis =>
    exact inductionHypothesis (scheduler.emit (.targetWasRemoved first))

/-- The removal of all clones is announced for each of them. -/
theorem disposeClones (scheduler : Scheduler τ α) : Tallies scheduler scheduler.disposeClones := by
  intro limit census
  obtain ⟨named, removed⟩ := Stage.Census.removeClones census census.keyed.nodup_cloneIds
    fun _ member => member
  obtain ⟨motors, notices, same⟩ := announceRemoved_eq scheduler.stage.cloneIds
    { scheduler with stage := (scheduler.stage.disposeAll scheduler.stage.cloneIds).2 }
  have announced := announceRemoved_notices scheduler.stage.cloneIds
    { scheduler with stage := (scheduler.stage.disposeAll scheduler.stage.cloneIds).2 }
  unfold Scheduler.disposeClones
  dsimp only [Stage.disposeClones]
  rw [named]
  rw [same] at announced ⊢
  dsimp only at announced
  rw [← announced] at removed
  exact removed

/-- A stop of everything removes and announces every clone. -/
theorem stopAll (scheduler : Scheduler τ α) : Tallies scheduler scheduler.stopAll := by
  have announced := ofEmit scheduler .projectStopAll ⟨rfl, rfl⟩
  have cleared := announced.trans (ofStage _ (.onStopAll _))
  have emptied := (cleared.trans (endEveryThread _)).trans (disposeClones _)
  unfold Scheduler.stopAll
  dsimp only
  generalize Scheduler.disposeClones (_ : Scheduler τ α) = left at emptied
  exact emptied.trans (still (.requestRedraw _) rfl (.refl _))

/-- Clearing everything removes and announces every clone. -/
theorem cleared (scheduler : Scheduler τ α) : Tallies scheduler scheduler.cleared := by
  have stopped := (stopAll scheduler).trans (ofEmit _ .projectStart ⟨rfl, rfl⟩)
  unfold Scheduler.cleared
  dsimp only
  generalize scheduler.stopAll.emit .projectStart = stopping at stopped
  exact stopped.trans (still (.onGreenFlag _) rfl (.refl _))

/-- The green flag removes and announces every clone before it starts its hats. -/
theorem greenFlag (scheduler : Scheduler τ α) : Tallies scheduler scheduler.greenFlag.2 :=
  (cleared scheduler).trans (startHats _ greenFlagHat .any)

/-- A clone joins under a name that was drawn for it. -/
theorem spawn {scheduler : Scheduler τ α} {source : TargetId} {parent : Target α}
    (room : scheduler.stage.hasRoom = true) (found : scheduler.stage.target? source = some parent) :
    Tallies scheduler ({ scheduler with
      ids := (scheduler.ids.draw (scheduler.stage.targets.keys.map TargetId.text)).2
      stage := scheduler.stage.add (parent.clone
        ⟨(scheduler.ids.draw (scheduler.stage.targets.keys.map TargetId.text)).1⟩) }.emit
          (.targetWasCreated
            ⟨(scheduler.ids.draw (scheduler.stage.targets.keys.map TargetId.text)).1⟩
            (some source))) := by
  intro limit census
  have untaken := IdSource.draw_not_taken census.distinct
    (scheduler.stage.targets.keys.map TargetId.text)
  have vacant : scheduler.stage.target? (parent.clone
      ⟨(scheduler.ids.draw (scheduler.stage.targets.keys.map TargetId.text)).1⟩).id = none := by
    rw [Option.eq_none_iff_forall_ne_some]
    intro target present
    exact untaken (List.mem_map.mpr ⟨_, OrderedMap.mem_keys_iff.mpr ⟨target, present⟩, rfl⟩)
  obtain ⟨drawable, joins⟩ := Stage.add_vacant vacant
  have below : scheduler.stage.cloneCount < limit :=
    census.maxClones ▸ of_decide_eq_true room
  exact Stage.Census.spawn census joins below found rfl
    (IdSource.draw_continues _ (scheduler.stage.targets.keys.map TargetId.text))
    (IdSource.draw_fresh census.distinct _) (IdSource.draw_issued _ _)

/-- A clone that is made is counted and announced with its source, and a refusal changes nothing. -/
theorem makeClone (scheduler : Scheduler τ α) (source : TargetId) :
    Tallies scheduler (scheduler.makeClone source).2 := by
  unfold Scheduler.makeClone
  split
  case isTrue => exact refl scheduler
  case isFalse room =>
    split
    case h_1 => exact refl scheduler
    case h_2 parent found =>
      split
      case isTrue => exact refl scheduler
      case isFalse =>
        have spawned := spawn (by simpa using room) found
        dsimp only
        split
        case isTrue => exact spawned.trans (startHats _ cloneHat _)
        case isFalse => exact spawned

/-- A clone goes with its threads. -/
theorem disposeClone (scheduler : Scheduler τ α) (id : TargetId) :
    Tallies scheduler (scheduler.disposeClone id).2 := by
  unfold Scheduler.disposeClone
  split
  case h_1 => exact refl scheduler
  case h_2 target found =>
    split
    case isTrue => exact refl scheduler
    case isFalse clone =>
      have isClone : target.isClone = true := by simpa using clone
      intro limit census
      have told := dismiss scheduler (scheduler.activeThreadsOn id) limit census
      have present : ((scheduler.retireAll (scheduler.activeThreadsOn id)).tellStopped
          (scheduler.activeThreadsOn id)).stage.target? id = some target := by
        rw [tellStopped, (retireAll_undisturbed _ scheduler).stage, found]
      exact Stage.Census.remove told present fun other descendant stands _ =>
        told.childless_clone present isClone other descendant stands

/-- To start the scripts of a key leaves the clones accounted for. -/
theorem pressKey (scheduler : Scheduler τ α) (key : String) :
    Tallies scheduler (scheduler.pressKey key).2 := by
  have announced := ofEmit scheduler (.keyPressed key) ⟨rfl, rfl⟩
  have first := announced.trans
    (startHats (scheduler.emit (.keyPressed key)) keyPressedHat ⟨some key, none⟩)
  unfold Scheduler.pressKey
  dsimp only
  split
  case isTrue =>
    split
    case h_1 fault left result =>
      rw [result] at first
      exact first
    case h_2 started left result =>
      rw [result] at first
      have second := first.trans (startHats left keyPressedHat ⟨some "any", none⟩)
      split
      case h_1 last lastResult =>
        rw [lastResult] at second
        exact second
      case h_2 last lastResult =>
        rw [lastResult] at second
        exact second
  case isFalse => exact announced

/-- Posted data leaves the clones accounted for, whatever device it is for. -/
theorem postData (scheduler : Scheduler τ α) (device : String) (data : Json) :
    Tallies scheduler (scheduler.postData device data).2 := by
  unfold Scheduler.postData
  split
  case h_1 => exact refl scheduler
  case h_2 => exact refl scheduler
  case h_3 key devices posted =>
    exact fun limit census => pressKey { scheduler with devices := devices } key limit census

/-- Without clones all targets may be removed, one after another. -/
theorem disposeTargets (names : List TargetId) {scheduler : Scheduler τ α}
    (alone : scheduler.stage.cloneIds = []) :
    Tallies scheduler (scheduler.disposeTargets names) := by
  induction names generalizing scheduler with
  | nil => exact refl scheduler
  | cons first rest inductionHypothesis =>
    intro limit census
    cases found : scheduler.stage.target? first with
    | none =>
      have absent : scheduler.disposeTargets (first :: rest) = scheduler.disposeTargets rest := by
        rw [Scheduler.disposeTargets, List.foldl_cons, Stage.dispose, found]
        rfl
      rw [absent]
      exact inductionHypothesis alone limit census
    | some target =>
      have removal : scheduler.stage.dispose first =
        (some target, (scheduler.stage.dispose first).2) :=
        Prod.ext (Stage.dispose_found found).1 rfl
      have present : scheduler.disposeTargets (first :: rest) =
          ({ scheduler with stage := (scheduler.stage.dispose first).2 }.emit
            (.targetWasRemoved first)).disposeTargets rest := by
        rw [Scheduler.disposeTargets, List.foldl_cons, removal]
        rfl
      have removed := Stage.Census.remove census found fun other descendant stands different =>
        census.childless_alone alone other descendant stands different
      rw [present]
      refine inductionHypothesis ?_ limit removed
      change (scheduler.stage.dispose first).2.cloneIds = []
      rw [census.keyed.cloneIds_dispose, alone, List.erase_nil]

/-- No clones are left when everything was stopped. -/
theorem stopAll_alone {scheduler : Scheduler τ α} (census : Census limit scheduler) :
    scheduler.stopAll.stage.cloneIds = [] := by
  rw [List.eq_nil_iff_forall_not_mem]
  intro id member
  obtain ⟨target, found, isClone⟩ :=
    (stopAll scheduler limit census).keyed.mem_cloneIds.mp member
  rw [(stopAll_stops scheduler).targets census.keyed, Option.filter_eq_some_iff, isClone] at found
  exact Bool.false_ne_true found.2

/-- To dispose of a scheduler leaves the clones accounted for. -/
theorem dispose (scheduler : Scheduler τ α) : Tallies scheduler scheduler.dispose := by
  intro limit census
  have stopped := stopAll scheduler limit census
  have emptied := disposeTargets scheduler.stopAll.stage.targets.keys (stopAll_alone census)
    limit stopped
  unfold Scheduler.dispose
  dsimp only
  generalize scheduler.stopAll.disposeTargets _ = left at emptied
  exact Stage.Census.aside emptied ⟨rfl, rfl⟩

/-- To start a scheduler leaves the clones accounted for. -/
theorem start (scheduler : Scheduler τ α) : Tallies scheduler scheduler.start := by
  unfold Scheduler.start
  split
  case isTrue => exact refl scheduler
  case isFalse => exact (refl scheduler).trans (ofEmit _ _ ⟨rfl, rfl⟩)

end Tallies

end Scheduler

end SpriteMachine
