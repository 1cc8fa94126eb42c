import Mathlib.Data.List.Nodup
import SpriteMachine.Proofs.Scheduler.Advance
import SpriteMachine.Scheduler.Loading

/-!
# The threads that stand

A thread stands while it is live and has not ended. Retiring threads takes their
standing, registering one gives it standing, and beginning the threads of a hat does both
for pairs of a script and an instance that differ from each other: the threads that begin
rest, those that they replace stand no more, and all others stand as before.
-/

namespace SpriteMachine

namespace Scheduler

variable {τ α : Type} {scheduler before after : Scheduler τ α}

/-- The thread of a name while it has not ended. -/
def standing (scheduler : Scheduler τ α) (id : ThreadId) : Option (Thread α) :=
  (scheduler.threads.find? id).filter Thread.isActive

/-- A thread stands when it is known and active. -/
theorem standing_eq_some {id : ThreadId} {thread : Thread α} :
    scheduler.standing id = some thread ↔
      scheduler.threads.find? id = some thread ∧ thread.isActive = true :=
  Option.filter_eq_some_iff

/-- The live threads are those that stand. -/
theorem isLive_eq_standing (scheduler : Scheduler τ α) (id : ThreadId) :
    scheduler.isLive id = (scheduler.standing id).isSome := by
  rw [isLive, standing]
  cases scheduler.threads.find? id with
  | none => rfl
  | some thread => cases active : thread.isActive <;> simp [active]

/-- A step of the host on its own threads: worker, stage and settings are left alone. -/
structure Framed (before after : Scheduler τ α) : Prop where
  config : after.config = before.config
  registry : after.registry = before.registry
  bridge : after.bridge = before.bridge
  stage : after.stage = before.stage

/-- To do nothing is framed. -/
theorem Framed.refl (scheduler : Scheduler τ α) : Framed scheduler scheduler :=
  ⟨rfl, rfl, rfl, rfl⟩

/-- Two framed steps are one. -/
theorem Framed.trans {first second third : Scheduler τ α} (before : Framed first second)
    (after : Framed second third) : Framed first third :=
  ⟨after.config.trans before.config, after.registry.trans before.registry,
    after.bridge.trans before.bridge, after.stage.trans before.stage⟩

/-- Beyond that, devices, scripts, reported values and notices stay as they are. -/
structure Undisturbed (before after : Scheduler τ α) : Prop extends Framed before after where
  devices : after.devices = before.devices
  scripts : after.scripts = before.scripts
  returns : after.returns = before.returns
  notices : after.notices = before.notices

/-- To do nothing disturbs nothing. -/
theorem Undisturbed.refl (scheduler : Scheduler τ α) : Undisturbed scheduler scheduler :=
  ⟨.refl scheduler, rfl, rfl, rfl, rfl⟩

/-- Two steps that disturb nothing are one. -/
theorem Undisturbed.trans {first second third : Scheduler τ α} (before : Undisturbed first second)
    (after : Undisturbed second third) : Undisturbed first third :=
  ⟨before.toFramed.trans after.toFramed, after.devices.trans before.devices,
    after.scripts.trans before.scripts, after.returns.trans before.returns,
    after.notices.trans before.notices⟩

/-- Whatever is done to the bridge besides. -/
theorem Undisturbed.withBridge (undisturbed : Undisturbed before after) (bridge : Bridge τ α) :
    Undisturbed { before with bridge := bridge } { after with bridge := bridge } :=
  ⟨⟨undisturbed.config, undisturbed.registry, rfl, undisturbed.stage⟩, undisturbed.devices,
    undisturbed.scripts, undisturbed.returns, undisturbed.notices⟩

/-- To retire threads disturbs nothing else. -/
theorem retireAll_undisturbed (ids : List ThreadId) (scheduler : Scheduler τ α) :
    Undisturbed scheduler (scheduler.retireAll ids) := by
  induction ids generalizing scheduler with
  | nil => exact .refl scheduler
  | cons first rest inductionHypothesis =>
    have one : Undisturbed scheduler (scheduler.retire first) :=
      ⟨⟨rfl, rfl, rfl, rfl⟩, rfl, rfl, rfl, rfl⟩
    exact one.trans (inductionHypothesis (scheduler.retire first))

/-- To retire threads counts nothing. -/
theorem retireAll_stats (ids : List ThreadId) (scheduler : Scheduler τ α) :
    (scheduler.retireAll ids).stats = scheduler.stats := by
  induction ids generalizing scheduler with
  | nil => rfl
  | cons first rest inductionHypothesis => exact inductionHypothesis (scheduler.retire first)

/-- To retire threads is framed. -/
theorem retireAll_framed (ids : List ThreadId) (scheduler : Scheduler τ α) :
    Framed scheduler (scheduler.retireAll ids) :=
  (retireAll_undisturbed ids scheduler).toFramed

/-- To begin threads disturbs nothing else, however many candidates there are. -/
theorem beginAll_undisturbed (hat : String) (restarting : Bool) (candidates : List HatCandidate)
    (scheduler : Scheduler τ α) :
    Undisturbed scheduler (beginAll hat restarting scheduler candidates).2 := by
  induction candidates generalizing scheduler with
  | nil => exact .refl scheduler
  | cons candidate rest inductionHypothesis =>
    unfold beginAll
    dsimp only
    split
    case isTrue => exact inductionHypothesis scheduler
    case isFalse =>
      have retired := retireAll_undisturbed (scheduler.activeOn candidate.script candidate.target)
        scheduler
      have one : ∀ middle : Scheduler τ α,
          Undisturbed middle (middle.beginCandidate hat candidate).2 :=
        fun _ => ⟨⟨rfl, rfl, rfl, rfl⟩, rfl, rfl, rfl, rfl⟩
      exact (retired.trans (one _)).trans (inductionHypothesis _)

/-- To begin threads is framed. -/
theorem beginAll_framed (hat : String) (restarting : Bool) (candidates : List HatCandidate)
    (scheduler : Scheduler τ α) :
    Framed scheduler (beginAll hat restarting scheduler candidates).2 :=
  (beginAll_undisturbed hat restarting candidates scheduler).toFramed

section Hatting

variable [Transport τ α]

/-- Starting hats disturbs nothing but threads and worker. -/
theorem startHats_undisturbed (scheduler : Scheduler τ α) (hat : String) (filter : HatFilter) :
    ∃ bridge, Undisturbed { scheduler with bridge := bridge }
      (scheduler.startHats hat filter).2 := by
  unfold startHats
  split
  case h_1 => exact ⟨scheduler.bridge, .refl scheduler⟩
  case h_2 restarting _ =>
    have begins := beginAll_undisturbed hat restarting (scheduler.hatCandidates hat filter)
      scheduler
    generalize beginAll hat restarting scheduler (scheduler.hatCandidates hat filter) = result
      at begins
    obtain ⟨⟨starts, replaced⟩, begun⟩ := result
    dsimp only
    split
    case isTrue => exact ⟨_, begins.withBridge _⟩
    case isFalse =>
      unfold requestStarts
      split
      case h_1 accepted bridge asked =>
        exact ⟨bridge, (begins.withBridge bridge).trans (retireAll_undisturbed _ _)⟩
      case h_2 fault bridge asked =>
        exact ⟨bridge, (begins.withBridge bridge).trans (retireAll_undisturbed _ _)⟩

/-- To start hats keeps the settings. -/
theorem startHats_settings (scheduler : Scheduler τ α) (hat : String) (filter : HatFilter) :
    (scheduler.startHats hat filter).2.config = scheduler.config ∧
      (scheduler.startHats hat filter).2.registry = scheduler.registry := by
  obtain ⟨bridge, undisturbed⟩ := startHats_undisturbed scheduler hat filter
  exact ⟨undisturbed.config, undisturbed.registry⟩

/-- To stop a thread disturbs nothing but the link to the worker. -/
theorem stopThread_undisturbed (scheduler : Scheduler τ α) (id : ThreadId) :
    ∃ bridge, Undisturbed { scheduler with bridge := bridge } (scheduler.stopThread id).2 := by
  cases found : scheduler.threads.find? id with
  | none =>
    rw [stopThread, endThread_missing found]
    exact ⟨scheduler.bridge, .refl scheduler⟩
  | some thread =>
    rw [stopThread_found found, endThread_found found]
    exact ⟨_, ⟨rfl, rfl, rfl, rfl⟩, rfl, rfl, rfl, rfl⟩

end Hatting

/-- Only the live set decides which threads stand. -/
theorem standing_congr (same : after.threads = before.threads) (id : ThreadId) :
    after.standing id = before.standing id := by
  rw [standing, same, standing]

/-- The name of a thread that stands was issued. -/
theorem issued_of_standing (orderly : Orderly scheduler) {id : ThreadId} {thread : Thread α}
    (stands : scheduler.standing id = some thread) : scheduler.ids.Issued id.text :=
  orderly.issued id thread (standing_eq_some.mp stands).1

/-- Of the threads that are retired none stands, and all others do as before. -/
@[simp]
theorem standing_retireAll (scheduler : Scheduler τ α) (ids : List ThreadId) (id : ThreadId) :
    (scheduler.retireAll ids).standing id = if id ∈ ids then none else scheduler.standing id := by
  rw [standing, find_retireAll, standing]
  cases scheduler.threads.find? id with
  | none => simp
  | some thread =>
    by_cases member : id ∈ ids <;> simp [member, Thread.isActive, Thread.finish, Thread.isDone]

/-- A thread that is adopted stands, and all others do as before. -/
theorem standing_adopt (scheduler : Scheduler τ α) (thread : Thread α)
    (active : thread.isActive = true) (id : ThreadId) :
    (scheduler.adopt thread).standing id =
      if id = thread.id then some thread else scheduler.standing id := by
  rw [standing, adopt, OrderedMap.find_insert, standing]
  split
  case isTrue => rw [Option.filter_some, if_pos active]
  case isFalse => rfl

/-- A thread that goes on stands as it was changed, and the others stand as before. -/
theorem standing_modify {id : ThreadId} {change : Thread α → Thread α}
    (threads : after.threads = before.threads.modify id change)
    (kept : ∀ thread, before.threads.find? id = some thread →
      (change thread).isActive = thread.isActive) (other : ThreadId) :
    after.standing other =
      if other = id then (before.standing other).map change else before.standing other := by
  rw [standing, threads, OrderedMap.find_modify, standing]
  by_cases same : other = id
  · subst same
    rw [if_pos rfl, if_pos rfl]
    cases found : before.threads.find? other with
    | none => rfl
    | some thread =>
      rw [Option.map_some, Option.filter_some, Option.filter_some, kept thread found]
      split <;> rfl
  · rw [if_neg same, if_neg same]

/-- A thread that is finished stands no more. -/
theorem standing_finish {id : ThreadId}
    (threads : after.threads = before.threads.modify id Thread.finish) (other : ThreadId) :
    after.standing other = if other = id then none else before.standing other := by
  rw [standing, threads, OrderedMap.find_modify, standing]
  by_cases same : other = id
  · rw [if_pos same, if_pos same]
    cases before.threads.find? other <;> rfl
  · rw [if_neg same, if_neg same]

/-- Threads that are removed do not stand, and the others stand as before. -/
theorem standing_remove (keep : ThreadId → Thread α → Bool) {id : ThreadId}
    (threads : after.threads = before.threads.filter keep)
    (gone : before.standing id = none) : after.standing id = none := by
  rw [standing] at gone ⊢
  rw [threads, OrderedMap.find_filter]
  cases found : before.threads.find? id with
  | none => rfl
  | some thread =>
    rw [found] at gone
    rw [Option.filter_some]
    split
    case isTrue => exact gone
    case isFalse => rfl

/-- Removing threads that do not stand leaves those that do. -/
theorem standing_filter (keep : ThreadId → Thread α → Bool)
    (threads : after.threads = before.threads.filter keep)
    (kept : ∀ id thread, before.standing id = some thread → keep id thread = true)
    (id : ThreadId) : after.standing id = before.standing id := by
  rw [standing, threads, OrderedMap.find_filter, standing]
  cases found : before.threads.find? id with
  | none => rfl
  | some thread =>
    by_cases active : thread.isActive
    · have stays := kept id thread (standing_eq_some.mpr ⟨found, active⟩)
      rw [Option.filter_some, if_pos stays]
    · rw [Option.filter_some, Option.filter_some, if_neg active]
      split
      case isTrue => rw [Option.filter_some, if_neg active]
      case isFalse => rfl

/-- Nobody stands when every thread was retired. -/
theorem standing_retireKeys (scheduler : Scheduler τ α) (id : ThreadId) :
    (scheduler.retireAll scheduler.threads.keys).standing id = none := by
  rw [standing_retireAll]
  split
  case isTrue => rfl
  case isFalse absent =>
    rw [standing]
    cases found : scheduler.threads.find? id with
    | none => rfl
    | some thread =>
      exact absurd (OrderedMap.mem_keys_iff.mpr ⟨thread, found⟩) absent

/-- When every thread was ended none stands. -/
theorem standing_endEveryThread (scheduler : Scheduler τ α) (id : ThreadId) :
    scheduler.endEveryThread.standing id = none :=
  standing_remove (fun _ thread => (scheduler.endEveryThread.stage.target? thread.target).any
    fun target => !target.isClone) rfl (standing_retireKeys scheduler id)

/-- A thread that runs for a script on an instance. -/
def RunsFor (thread : Thread α) (pair : ScriptId × TargetId) : Prop :=
  thread.target = pair.2 ∧ ∃ binding, thread.binding = some binding ∧ binding.script = pair.1

/-- A thread runs a script when its binding names it. -/
theorem any_script {thread : Thread α} {script : ScriptId} :
    (thread.binding.any fun binding => binding.script = script) = true ↔
      ∃ binding, thread.binding = some binding ∧ binding.script = script := by
  cases thread.binding <;> simp

/-- The active threads of a script on an instance are those that stand and run for it. -/
theorem mem_activeOn (keyed : scheduler.Keyed) {script : ScriptId} {target : TargetId}
    {id : ThreadId} :
    id ∈ scheduler.activeOn script target ↔
      ∃ thread, scheduler.standing id = some thread ∧ RunsFor thread (script, target) := by
  constructor
  · intro member
    obtain ⟨thread, inside, rfl⟩ := List.mem_map.mp member
    obtain ⟨value, chosen⟩ := List.mem_filter.mp inside
    obtain ⟨id, found⟩ := OrderedMap.mem_values_iff.mp value
    simp only [Bool.and_eq_true, decide_eq_true_iff] at chosen
    rw [keyed id thread found]
    exact ⟨thread, standing_eq_some.mpr ⟨found, chosen.1.1⟩, chosen.1.2,
      any_script.mp chosen.2⟩
  · rintro ⟨thread, stands, located, bound⟩
    obtain ⟨found, active⟩ := standing_eq_some.mp stands
    refine List.mem_map.mpr ⟨thread, List.mem_filter.mpr ⟨?_, ?_⟩, keyed id thread found⟩
    · exact OrderedMap.mem_values_iff.mpr ⟨id, found⟩
    · simp only [Bool.and_eq_true, decide_eq_true_iff]
      exact ⟨⟨active, located⟩, any_script.mpr bound⟩

/-- The pair of a script and an instance that a candidate stands for. -/
def HatCandidate.pair (candidate : HatCandidate) : ScriptId × TargetId :=
  (candidate.script, candidate.target)

/-- What beginning threads does to those that stand. -/
structure Begun (before after : Scheduler τ α) (pairs : List (ScriptId × TargetId))
    (starts : List ThreadStart) (replaced : List ThreadId) : Prop where
  fresh : ∀ start ∈ starts, ¬ before.ids.Issued start.thread.text
  distinct : (starts.map ThreadStart.thread).Nodup
  rests : ∀ start ∈ starts, ∃ thread, after.standing start.thread = some thread ∧ thread.Rests
  ended : ∀ id ∈ replaced, after.standing id = none
  within : ∀ id ∈ replaced, ∃ thread, before.standing id = some thread ∧
    ∃ pair ∈ pairs, RunsFor thread pair
  others : ∀ id, id ∉ starts.map ThreadStart.thread → id ∉ replaced →
    after.standing id = before.standing id

/-- The thread that is begun for a candidate stands, and all others do as before. -/
theorem standing_beginCandidate (scheduler : Scheduler τ α) (hat : String)
    (candidate : HatCandidate) (id : ThreadId) :
    (scheduler.beginCandidate hat candidate).2.standing id =
      if id = (scheduler.beginCandidate hat candidate).1.thread then
        some (.forHat id candidate.target ⟨candidate.script, hat, candidate.option⟩)
      else scheduler.standing id := by
  rw [standing, beginCandidate_find, standing]
  split
  case isTrue => rw [Option.filter_some, if_pos (Thread.forHat_rests _ _ _).active]
  case isFalse => rfl

/-- What one candidate does: the threads that run for its pair stand no more, and a new
thread rests that runs for this pair alone. -/
structure BegunOne (before after : Scheduler τ α) (pair : ScriptId × TargetId)
    (start : ThreadStart) (replaced : List ThreadId) : Prop where
  fresh : ¬ before.ids.Issued start.thread.text
  issued : after.ids.Issued start.thread.text
  kept : ∀ id : ThreadId, before.ids.Issued id.text → after.ids.Issued id.text
  begun : ∃ thread, after.standing start.thread = some thread ∧ thread.Rests ∧
    ∀ other, RunsFor thread other → other = pair
  chosen : ∀ id, id ∈ replaced ↔ ∃ thread, before.standing id = some thread ∧ RunsFor thread pair
  known : ∀ id ∈ replaced, before.ids.Issued id.text
  others : ∀ id, id ≠ start.thread →
    after.standing id = if id ∈ replaced then none else before.standing id

/-- A candidate whose running threads are retired first has one thread afterwards. -/
theorem beginCandidate_begunOne (orderly : Orderly before) (hat : String)
    (candidate : HatCandidate) :
    BegunOne before
      ((before.retireAll (before.activeOn candidate.script candidate.target)).beginCandidate
        hat candidate).2 candidate.pair
      ((before.retireAll (before.activeOn candidate.script candidate.target)).beginCandidate
        hat candidate).1
      (before.activeOn candidate.script candidate.target) := by
  obtain ⟨continues, unissued, issued⟩ := nextThreadId_fresh
    (before.retireAll (before.activeOn candidate.script candidate.target))
  rw [retireAll_ids] at continues unissued
  refine ⟨unissued orderly.distinct, issued, fun _ => continues.issued_of, ?_,
    fun _ => mem_activeOn orderly.keyed, fun _ => activeOn_issued orderly, ?_⟩
  · refine ⟨_, (standing_beginCandidate _ hat candidate _).trans (if_pos rfl),
      Thread.forHat_rests _ _ _, ?_⟩
    rintro ⟨script, target⟩ ⟨located, binding, bound, same⟩
    obtain rfl := Option.some.inj bound
    exact Prod.ext same.symm located.symm
  · intro id other
    rw [standing_beginCandidate, if_neg other, standing_retireAll]

/-- A candidate whose pair does not come again, and then the others. -/
theorem BegunOne.cons {middle : Scheduler τ α} {pair : ScriptId × TargetId}
    {pairs : List (ScriptId × TargetId)} {start : ThreadStart} {starts : List ThreadStart}
    {now replaced : List ThreadId} (one : BegunOne before middle pair start now)
    (single : pair ∉ pairs) (rest : Begun middle after pairs starts replaced) :
    Begun before after (pair :: pairs) (start :: starts) (now ++ replaced) := by
  obtain ⟨thread, begun, rests, bound⟩ := one.begun
  have unstarted : ∀ id : ThreadId, middle.ids.Issued id.text →
      id ∉ starts.map ThreadStart.thread := by
    intro id issued member
    obtain ⟨other, present, rfl⟩ := List.mem_map.mp member
    exact rest.fresh other present issued
  have unreplaced : start.thread ∉ replaced := by
    intro member
    obtain ⟨found, stands, other, present, runs⟩ := rest.within _ member
    obtain rfl := Option.some.inj (begun.symm.trans stands)
    exact single (bound other runs ▸ present)
  have newName : ∀ id : ThreadId, before.ids.Issued id.text → id ≠ start.thread := by
    rintro id issued rfl
    exact one.fresh issued
  refine ⟨?_, ?_, ?_, ?_, ?_, ?_⟩
  · intro other member
    rcases List.mem_cons.mp member with rfl | later
    · exact one.fresh
    · exact fun issued => rest.fresh other later (one.kept _ issued)
  · rw [List.map_cons, List.nodup_cons]
    exact ⟨unstarted _ one.issued, rest.distinct⟩
  · intro other member
    rcases List.mem_cons.mp member with rfl | later
    · exact ⟨thread, (rest.others _ (unstarted _ one.issued) unreplaced).trans begun, rests⟩
    · exact rest.rests other later
  · intro id member
    by_cases later : id ∈ replaced
    · exact rest.ended id later
    · have here : id ∈ now := (List.mem_append.mp member).resolve_right later
      have issued := one.known id here
      rw [rest.others id (unstarted id (one.kept id issued)) later,
        one.others id (newName id issued), if_pos here]
  · intro id member
    rcases List.mem_append.mp member with here | later
    · obtain ⟨found, stands, runs⟩ := (one.chosen id).mp here
      exact ⟨found, stands, pair, List.mem_cons_self, runs⟩
    · obtain ⟨found, stands, other, present, runs⟩ := rest.within id later
      have different : id ≠ start.thread := fun same => unreplaced (same ▸ later)
      rw [one.others id different] at stands
      split at stands
      case isTrue => cases stands
      case isFalse => exact ⟨found, stands, other, List.mem_cons_of_mem _ present, runs⟩
  · intro id absent kept
    rw [List.map_cons, List.mem_cons, not_or] at absent
    rw [List.mem_append, not_or] at kept
    rw [rest.others id absent.2 kept.2, one.others id absent.1, if_neg kept.1]

/-- More pairs may be named than threads begin for. -/
theorem Begun.widen {pair : ScriptId × TargetId} {pairs : List (ScriptId × TargetId)}
    {starts : List ThreadStart} {replaced : List ThreadId}
    (begun : Begun before after pairs starts replaced) :
    Begun before after (pair :: pairs) starts replaced := by
  refine ⟨begun.fresh, begun.distinct, begun.rests, begun.ended, ?_, begun.others⟩
  intro id member
  obtain ⟨thread, stands, other, present, runs⟩ := begun.within id member
  exact ⟨thread, stands, other, List.mem_cons_of_mem _ present, runs⟩

/-- Beginning the threads of candidates whose pairs differ. -/
theorem beginAll_begun (hat : String) (restarting : Bool) {candidates : List HatCandidate}
    (single : (candidates.map HatCandidate.pair).Nodup) {scheduler : Scheduler τ α}
    (orderly : Orderly scheduler) :
    Begun scheduler (beginAll hat restarting scheduler candidates).2
      (candidates.map HatCandidate.pair) (beginAll hat restarting scheduler candidates).1.1
      (beginAll hat restarting scheduler candidates).1.2 := by
  induction candidates generalizing scheduler with
  | nil =>
    refine ⟨?_, List.nodup_nil, ?_, ?_, ?_, fun _ _ _ => rfl⟩
    all_goals
      intro _ member
      cases member
  | cons candidate rest inductionHypothesis =>
    obtain ⟨absent, singleRest⟩ := List.nodup_cons.mp single
    unfold beginAll
    dsimp only
    split
    case isTrue => exact (inductionHypothesis singleRest orderly).widen
    case isFalse =>
      have one := beginCandidate_begunOne orderly hat candidate
      have advances := (retireAll_advances scheduler
        (scheduler.activeOn candidate.script candidate.target)
        fun orderly id member => activeOn_issued orderly member).trans
          (beginCandidate_advances _ hat candidate)
      exact one.cons absent (inductionHypothesis singleRest (advances orderly).1)

/-- A thread that is added stands, and all others do as before. -/
theorem standing_addThread (scheduler : Scheduler τ α) (target : TargetId) (hasListener : Bool)
    (id : ThreadId) :
    (scheduler.addThread target hasListener).2.standing id =
      if id = (scheduler.addThread target hasListener).1 then
        some (.plain (scheduler.addThread target hasListener).1 target hasListener)
      else scheduler.standing id := by
  have rests : ∀ id, (Thread.plain id target hasListener : Thread α).isActive = true :=
    fun id => (Thread.plain_rests id target hasListener).active
  exact standing_adopt scheduler.nextThreadId.2 _ (rests _) id

/-- Registering the threads of a batch replaces nobody. -/
theorem adoptAll_begun (entries : List (ScriptId × Registration)) {scheduler : Scheduler τ α}
    (orderly : Orderly scheduler) :
    Begun scheduler (scheduler.adoptAll entries).2 [] (scheduler.adoptAll entries).1 [] := by
  have nobody : ∀ {property : ThreadId → Prop}, ∀ id ∈ ([] : List ThreadId), property id := by
    intro _ _ member
    cases member
  induction entries generalizing scheduler with
  | nil =>
    refine ⟨?_, List.nodup_nil, ?_, nobody, nobody, fun _ _ _ => rfl⟩
    all_goals
      intro _ member
      cases member
  | cons entry rest inductionHypothesis =>
    obtain ⟨script, registration⟩ := entry
    obtain ⟨continues, unissued, issued⟩ := nextThreadId_fresh scheduler
    have advances : Advances scheduler (scheduler.addThread registration.target false).2 :=
      adopt_advances scheduler (fun id => .plain id registration.target false) (fun _ => rfl)
        (fun _ => rfl)
    have stands := standing_addThread scheduler registration.target false
    have begun := inductionHypothesis (advances orderly).1
    have unstarted : ∀ id : ThreadId,
        (scheduler.addThread registration.target false).2.ids.Issued id.text →
          id ∉ ((scheduler.addThread registration.target false).2.adoptAll rest).1.map
            ThreadStart.thread := by
      intro id known member
      obtain ⟨start, present, rfl⟩ := List.mem_map.mp member
      exact begun.fresh start present known
    refine ⟨?_, ?_, ?_, nobody, nobody, ?_⟩
    · intro start member
      rcases List.mem_cons.mp member with rfl | later
      · exact unissued orderly.distinct
      · exact fun known => begun.fresh start later (continues.issued_of known)
    · exact List.nodup_cons.mpr ⟨unstarted _ issued, begun.distinct⟩
    · intro start member
      rcases List.mem_cons.mp member with rfl | later
      · refine ⟨_, (begun.others _ (unstarted _ issued) List.not_mem_nil).trans
          ((stands _).trans (if_pos rfl)), Thread.plain_rests _ _ _⟩
      · exact begun.rests start later
    · intro id absent _
      obtain ⟨other, later⟩ := not_or.mp (mt List.mem_cons.mpr absent)
      exact (begun.others id later List.not_mem_nil).trans ((stands id).trans (if_neg other))

/-- To adopt threads is framed. -/
theorem adoptAll_framed (entries : List (ScriptId × Registration)) (scheduler : Scheduler τ α) :
    Framed scheduler (scheduler.adoptAll entries).2 := by
  induction entries generalizing scheduler with
  | nil => exact .refl scheduler
  | cons entry rest inductionHypothesis =>
    have one : Framed scheduler (scheduler.addThread entry.2.target false).2 :=
      ⟨rfl, rfl, rfl, rfl⟩
    exact one.trans (inductionHypothesis _)

/-- The threads of a batch are started on its scripts in order. -/
theorem adoptAll_scripts (entries : List (ScriptId × Registration)) (scheduler : Scheduler τ α) :
    (scheduler.adoptAll entries).1.map ThreadStart.script = entries.map Prod.fst := by
  induction entries generalizing scheduler with
  | nil => rfl
  | cons entry rest inductionHypothesis =>
    exact congrArg (entry.1 :: ·) (inductionHypothesis _)

/-- The instances of a sprite are listed without repetition. -/
theorem instancesOf_nodup {stage : Stage α} (keyed : stage.Keyed) (owner : TargetId) :
    (stage.instancesOf owner).Nodup := by
  have names : (stage.targets.values.map Target.id).Nodup := by
    rw [keyed.ids]
    exact stage.targets.keys_nodup
  exact names.sublist (List.filter_sublist.map Target.id)

/-- No pair of a script and an instance is a candidate twice. -/
theorem hatCandidates_single (keyed : scheduler.stage.Keyed) (hat : String) (filter : HatFilter) :
    ((scheduler.hatCandidates hat filter).map HatCandidate.pair).Nodup := by
  have scripts : ((scheduler.scripts.entries.filter fun entry =>
      matchesHat hat filter.option entry.2).map Prod.fst).Nodup :=
    scheduler.scripts.distinct.sublist (List.filter_sublist.map Prod.fst)
  have shape : (scheduler.hatCandidates hat filter).map HatCandidate.pair =
      (scheduler.scripts.entries.filter fun entry =>
        matchesHat hat filter.option entry.2).flatMap fun entry =>
          ((scheduler.stage.instancesOf entry.2.target).filter fun target =>
            filter.target.all (· = target)).map fun target => (entry.1, target) := by
    simp [hatCandidates, List.map_flatMap, HatCandidate.pair, Function.comp_def]
  rw [shape, List.nodup_flatMap]
  constructor
  · intro entry _
    refine List.Nodup.map ?_ ((instancesOf_nodup keyed entry.2.target).filter _)
    intro left right same
    exact (Prod.mk.inj same).2
  · refine (List.pairwise_map.mp scripts).imp ?_
    intro left right different pair inLeft inRight
    obtain ⟨_, _, rfl⟩ := List.mem_map.mp inLeft
    obtain ⟨_, _, same⟩ := List.mem_map.mp inRight
    exact different (Prod.mk.inj same).1.symm

/-- Threads begin for candidates only, in their order. -/
theorem beginAll_sublist (hat : String) (restarting : Bool) (candidates : List HatCandidate)
    (scheduler : Scheduler τ α) :
    ((beginAll hat restarting scheduler candidates).1.1.map ThreadStart.script).Sublist
      (candidates.map HatCandidate.script) := by
  induction candidates generalizing scheduler with
  | nil => exact .slnil
  | cons candidate rest inductionHypothesis =>
    unfold beginAll
    dsimp only
    split
    case isTrue => exact (inductionHypothesis scheduler).cons _
    case isFalse => exact (inductionHypothesis _).cons_cons _

/-- Every start is of the script of a candidate. -/
theorem beginAll_scripts (hat : String) (restarting : Bool)
    (candidates : List HatCandidate) (scheduler : Scheduler τ α) :
    ∀ start ∈ (beginAll hat restarting scheduler candidates).1.1,
      ∃ candidate ∈ candidates, candidate.script = start.script := fun start member =>
  List.mem_map.mp ((beginAll_sublist hat restarting candidates scheduler).subset
    (List.mem_map.mpr ⟨start, member, rfl⟩))

/-- Every thread that begins is counted. -/
theorem beginAll_registered (hat : String) (restarting : Bool) (candidates : List HatCandidate)
    (scheduler : Scheduler τ α) :
    (beginAll hat restarting scheduler candidates).2.stats.threadsRegistered =
      scheduler.stats.threadsRegistered +
        (beginAll hat restarting scheduler candidates).1.1.length := by
  induction candidates generalizing scheduler with
  | nil => rfl
  | cons candidate rest inductionHypothesis =>
    unfold beginAll
    dsimp only
    split
    case isTrue => exact inductionHypothesis scheduler
    case isFalse =>
      have one : ∀ middle : Scheduler τ α,
          (middle.beginCandidate hat candidate).2.stats.threadsRegistered =
            middle.stats.threadsRegistered + 1 := fun _ => rfl
      rw [inductionHypothesis, one, retireAll_stats]
      exact Nat.add_right_comm _ 1 _

/-- The candidates of a hat are scripts that the host keeps. -/
theorem hatCandidates_kept {hat : String}
    {filter : HatFilter} {candidate : HatCandidate}
    (member : candidate ∈ scheduler.hatCandidates hat filter) :
    ∃ registration, scheduler.scripts.find? candidate.script = some registration := by
  obtain ⟨entry, chosen, inside⟩ := List.mem_flatMap.mp member
  obtain ⟨target, -, rfl⟩ := List.mem_map.mp inside
  exact ⟨entry.2, OrderedMap.mem_entries_iff.mp (List.mem_filter.mp chosen).1⟩

end Scheduler

end SpriteMachine
