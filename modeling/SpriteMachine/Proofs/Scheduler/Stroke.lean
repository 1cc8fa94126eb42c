import SpriteMachine.Proofs.Scheduler.Standing

/-!
# The strokes of an act

Every act of a block comes down to strokes: a thread is retired or ended, threads that have
ended are removed, a new thread that rests is registered, and the worker is told something
or asked to start threads. A new thread of a hat is registered only when no active thread
runs for its script on its instance.
-/

namespace SpriteMachine

/-- A message that neither answers a call nor brings scripts or threads. -/
def HostMessage.IsOrder {α : Type} : HostMessage α → Prop
  | connected => True
  | prepare _ => True
  | stopThreads _ => True
  | stopAll => True
  | _ => False

namespace Scheduler

variable {τ α : Type}

/-- A thread that may be registered beside those there are. -/
structure Registrable (scheduler : Scheduler τ α) (thread : ThreadId → Thread α) : Prop where
  named : ∀ id, (thread id).id = id
  rests : ∀ id, (thread id).Rests
  single : scheduler.Keyed → ∀ id pair, RunsFor (thread id) pair →
    scheduler.activeOn pair.1 pair.2 = []

/-- Retiring threads gives none another name. -/
theorem keyed_of_retireAll {scheduler : Scheduler τ α} {ids : List ThreadId}
    (keyed : (scheduler.retireAll ids).Keyed) : scheduler.Keyed := by
  intro id thread found
  have kept := keyed id (if id ∈ ids then thread.finish else thread)
    (by rw [find_retireAll, found, Option.map_some])
  rw [← kept]
  split <;> rfl

/-- The threads that ran for a pair have ended once they were retired. -/
theorem activeOn_retired {scheduler : Scheduler τ α} {script : ScriptId} {target : TargetId}
    (keyed : (scheduler.retireAll (scheduler.activeOn script target)).Keyed) :
    (scheduler.retireAll (scheduler.activeOn script target)).activeOn script target = [] := by
  rw [List.eq_nil_iff_forall_not_mem]
  intro id member
  obtain ⟨thread, stands, runs⟩ := (mem_activeOn keyed).mp member
  rw [standing_retireAll] at stands
  split at stands
  case isTrue => cases stands
  case isFalse spared =>
    exact spared ((mem_activeOn (keyed_of_retireAll keyed)).mpr ⟨thread, stands, runs⟩)

/-- The thread of a candidate may be registered once its pair is free. -/
theorem forHat_registrable {scheduler : Scheduler τ α} (hat : String) (candidate : HatCandidate)
    (single : scheduler.Keyed → scheduler.activeOn candidate.script candidate.target = []) :
    scheduler.Registrable fun id =>
      .forHat id candidate.target ⟨candidate.script, hat, candidate.option⟩ := by
  refine ⟨fun _ => rfl, fun _ => Thread.forHat_rests _ _ _, ?_⟩
  rintro keyed id ⟨script, target⟩ ⟨located, binding, bound, same⟩
  obtain rfl := Option.some.inj bound
  obtain rfl : candidate.target = target := located
  obtain rfl : candidate.script = script := same
  exact single keyed

/-- A plain thread may be registered beside any others. -/
theorem plain_registrable (scheduler : Scheduler τ α) (target : TargetId) (hasListener : Bool) :
    scheduler.Registrable fun id => .plain id target hasListener := by
  refine ⟨fun _ => rfl, fun _ => Thread.plain_rests _ _ _, ?_⟩
  rintro _ id pair ⟨_, binding, bound, _⟩
  cases bound

variable [Transport τ α]

/-- One stroke. -/
inductive Stroke : Scheduler τ α → Scheduler τ α → Prop where
  | quiet {before after : Scheduler τ α} (quiet : Quiet before after) : Stroke before after
  | retire (scheduler : Scheduler τ α) (id : ThreadId) : Stroke scheduler (scheduler.retire id)
  | finish (scheduler : Scheduler τ α) (id : ThreadId) :
      Stroke scheduler (scheduler.endThread id).2
  | clear (scheduler : Scheduler τ α) {keep : ThreadId → Thread α → Bool}
      (ended : ∀ id thread, scheduler.threads.find? id = some thread →
        keep id thread = false → thread.isDone = true) :
      Stroke scheduler { scheduler with threads := scheduler.threads.filter keep }
  | adopt (scheduler : Scheduler τ α) {thread : ThreadId → Thread α}
      (registrable : scheduler.Registrable thread) :
      Stroke scheduler (scheduler.nextThreadId.2.adopt (thread scheduler.nextThreadId.1))
  | tell (scheduler : Scheduler τ α) (message : HostMessage α) (order : message.IsOrder) :
      Stroke scheduler { scheduler with bridge := (scheduler.bridge.post message).2 }
  | ask (scheduler : Scheduler τ α) (hat : String) (option : Option String)
      (starts : List ThreadStart) :
      Stroke scheduler
        { scheduler with bridge := (scheduler.bridge.startHats hat option starts).2 }

/-- A stroke keeps the settings, and names stay issued. -/
theorem Stroke.keeps {before after : Scheduler τ α} (stroke : Stroke before after) :
    Keeps before after := by
  cases stroke with
  | quiet quiet => exact ⟨quiet.config, quiet.registry, quiet.ids⟩
  | finish id =>
    unfold endThread
    split
    case isTrue => exact ⟨rfl, rfl, .refl _⟩
    case isFalse => exact .refl before
  | adopt registrable => exact ⟨rfl, rfl, IdSource.draw_continues _ _⟩
  | _ => exact ⟨rfl, rfl, .refl _⟩

/-- Strokes one after another. -/
abbrev Strokes : Scheduler τ α → Scheduler τ α → Prop := Relation.ReflTransGen Stroke

/-- Strokes keep settings and names. -/
theorem Strokes.keeps {before after : Scheduler τ α} (strokes : Strokes before after) :
    Keeps before after := by
  induction strokes with
  | refl => exact .refl before
  | tail _ stroke inductionHypothesis => exact inductionHypothesis.trans stroke.keeps

/-- To retire threads is one stroke for each. -/
theorem retireAll_strokes (ids : List ThreadId) (scheduler : Scheduler τ α) :
    Strokes scheduler (scheduler.retireAll ids) := by
  induction ids generalizing scheduler with
  | nil => exact .refl
  | cons first rest inductionHypothesis =>
    exact (inductionHypothesis (scheduler.retire first)).head (.retire scheduler first)

/-- Nothing is said about no threads. -/
theorem tellStopped_strokes (scheduler : Scheduler τ α) (ids : List ThreadId) :
    Strokes scheduler (scheduler.tellStopped ids) := by
  by_cases nobody : ids = []
  · rw [tellStopped, Bridge.stopThreads, if_pos nobody]
  · rw [tellStopped, Bridge.stopThreads, if_neg nobody]
    exact .single (.tell scheduler (.stopThreads ids) trivial)

/-- To begin threads for candidates is a sequence of strokes. -/
theorem beginAll_strokes (hat : String) (restarting : Bool) (candidates : List HatCandidate)
    (scheduler : Scheduler τ α) :
    Strokes scheduler (beginAll hat restarting scheduler candidates).2 := by
  induction candidates generalizing scheduler with
  | nil => exact .refl
  | cons candidate rest inductionHypothesis =>
    unfold beginAll
    dsimp only
    split
    case isTrue => exact inductionHypothesis scheduler
    case isFalse =>
      have retired := retireAll_strokes
        (scheduler.activeOn candidate.script candidate.target) scheduler
      refine (retired.tail ?_).trans (inductionHypothesis _)
      exact .adopt _ (forHat_registrable hat candidate activeOn_retired)

/-- To add a thread is one stroke. -/
theorem addThread_stroke (scheduler : Scheduler τ α) (target : TargetId) (hasListener : Bool) :
    Stroke scheduler (scheduler.addThread target hasListener).2 :=
  .adopt scheduler (plain_registrable scheduler target hasListener)

/-- To adopt threads is one stroke for each. -/
theorem adoptAll_strokes (entries : List (ScriptId × Registration)) (scheduler : Scheduler τ α) :
    Strokes scheduler (scheduler.adoptAll entries).2 := by
  induction entries generalizing scheduler with
  | nil => exact .refl
  | cons entry rest inductionHypothesis =>
    exact (inductionHypothesis _).head (addThread_stroke scheduler entry.2.target false)

/-- To ask the worker for starts is a sequence of strokes. -/
theorem requestStarts_strokes (scheduler : Scheduler τ α) (hat : String) (option : Option String)
    (starts : List ThreadStart) :
    Strokes scheduler (scheduler.requestStarts hat option starts).2 := by
  have asked := Stroke.ask scheduler hat option starts
  unfold requestStarts
  split
  case h_1 accepted bridge result =>
    rw [result] at asked
    exact (retireAll_strokes _ _).head asked
  case h_2 fault bridge result =>
    rw [result] at asked
    exact (retireAll_strokes _ _).head asked

/-- To start hats is a sequence of strokes. -/
theorem startHats_strokes (scheduler : Scheduler τ α) (hat : String) (filter : HatFilter) :
    Strokes scheduler (scheduler.startHats hat filter).2 := by
  unfold startHats
  split
  case h_1 => exact .refl
  case h_2 restarting _ =>
    have begins := beginAll_strokes hat restarting (scheduler.hatCandidates hat filter) scheduler
    generalize beginAll hat restarting scheduler (scheduler.hatCandidates hat filter) = result
      at begins
    obtain ⟨⟨starts, replaced⟩, begun⟩ := result
    have told := begins.trans (tellStopped_strokes begun replaced)
    dsimp only
    split
    case isTrue => exact told
    case isFalse => exact told.trans (requestStarts_strokes _ hat filter.option starts)

/-- To stop a thread is a sequence of strokes. -/
theorem stopThread_strokes (scheduler : Scheduler τ α) (id : ThreadId) :
    Strokes scheduler (scheduler.stopThread id).2 := by
  cases found : scheduler.threads.find? id with
  | none =>
    rw [stopThread, endThread_missing found]
  | some thread =>
    rw [stopThread_found found]
    have ended := (Relation.ReflTransGen.single (Stroke.finish scheduler id)).tail (.retire _ id)
    exact ended.trans (tellStopped_strokes _ [id])

/-- To end every thread is a sequence of strokes. -/
theorem endEveryThread_strokes (scheduler : Scheduler τ α) :
    Strokes scheduler scheduler.endEveryThread := by
  refine (retireAll_strokes scheduler.threads.keys scheduler).tail (.clear _ ?_)
  intro id thread found _
  rw [find_retireAll] at found
  obtain ⟨before, present, rfl⟩ := Option.map_eq_some_iff.mp found
  rw [if_pos (OrderedMap.mem_keys_iff.mpr ⟨before, present⟩), Thread.isDone, Thread.finish]
  rfl

variable [Scalar α]

/-- To stop everything is a sequence of strokes. -/
theorem stopAll_strokes (scheduler : Scheduler τ α) : Strokes scheduler scheduler.stopAll := by
  have announced := Relation.ReflTransGen.single
    (Stroke.quiet (Quiet.ofEmit scheduler .projectStopAll))
  have cleared := announced.tail (.quiet (Quiet.ofStage _ (.onStopAll _)))
  have emptied := (cleared.trans (endEveryThread_strokes _)).tail
    (.quiet (disposeClones_mild _).toQuiet)
  unfold stopAll
  dsimp only
  generalize disposeClones (_ : Scheduler τ α) = left at emptied
  refine (emptied.tail (.tell left .stopAll trivial)).tail (.quiet ?_)
  exact ⟨rfl, rfl, rfl, rfl, rfl, rfl, .refl _, .same rfl rfl,
    fun _ _ known => known⟩

/-- Every act comes down to strokes. -/
theorem Act.strokes {before after : Scheduler τ α} (act : Act before after) :
    Strokes before after := by
  cases act with
  | quiet quiet => exact .single (.quiet quiet)
  | startHats hat filter => exact startHats_strokes before hat filter
  | dismiss target chosen =>
    exact (retireAll_strokes _ before).trans (tellStopped_strokes _ _)
  | stopThread thread => exact stopThread_strokes before thread
  | stopAll => exact stopAll_strokes before

/-- All that blocks do to the threads is a sequence of strokes. -/
theorem Acts.strokes {before after : Scheduler τ α} (acts : Acts before after) :
    Strokes before after := by
  induction acts with
  | refl => exact .refl
  | tail _ act inductionHypothesis => exact inductionHypothesis.trans act.strokes

end Scheduler

end SpriteMachine
