import Mathlib.Data.List.Forall2
import Mathlib.Data.List.ProdSigma
import SpriteMachine.Proofs.Scheduler.Standing

/-!
# Which threads a hat begins

Of the candidates of a hat, whose pairs of script and instance differ, those begin whose
pair is free, or all when the hat restarts. A thread that begins does not make the pair of
another candidate less free, nor does one that it replaces make it more free, so it does not
matter that candidates are dealt with one after another.
-/

namespace SpriteMachine

namespace Scheduler

variable {τ α : Type} {before middle after : Scheduler τ α}

/-- Whether a thread begins for a candidate. -/
def admits (scheduler : Scheduler τ α) (restarting : Bool) (candidate : HatCandidate) : Bool :=
  restarting || scheduler.activeOn candidate.script candidate.target = []

/-- The thread of a start began for a candidate. -/
def BegunFor (hat : String) (after : Scheduler τ α) (candidate : HatCandidate)
    (start : ThreadStart) : Prop :=
  after.threads.find? start.thread = some
    (.forHat start.thread candidate.target ⟨candidate.script, hat, candidate.option⟩)

/-- What a hat does to the live threads: one begins for each chosen candidate, those that run
for their pairs are finished, and the others stay. -/
structure Dispatched (hat : String) (before after : Scheduler τ α) (chosen : List HatCandidate)
    (starts : List ThreadStart) (replaced : List ThreadId) : Prop where
  begun : List.Forall₂ (BegunFor hat after) chosen starts
  ended : ∀ id, id ∈ replaced ↔
    ∃ candidate ∈ chosen, id ∈ before.activeOn candidate.script candidate.target
  others : ∀ id, id ∉ starts.map ThreadStart.thread → after.threads.find? id =
    (before.threads.find? id).map fun thread => if id ∈ replaced then thread.finish else thread

/-- A thread runs for one pair at most. -/
theorem RunsFor.unique {thread : Thread α} {left right : ScriptId × TargetId}
    (first : RunsFor thread left) (second : RunsFor thread right) : left = right := by
  obtain ⟨located, binding, bound, script⟩ := first
  obtain ⟨there, other, same, again⟩ := second
  obtain rfl := Option.some.inj (bound.symm.trans same)
  exact Prod.ext (script.symm.trans again) (located.symm.trans there)

/-- Beginning a thread leaves the threads that run for other pairs. -/
theorem BegunOne.active {pair other : ScriptId × TargetId} {start : ThreadStart}
    {replaced : List ThreadId} (one : BegunOne before middle pair start replaced)
    (orderly : Orderly before) (orderlyMiddle : Orderly middle) (different : other ≠ pair)
    (id : ThreadId) :
    id ∈ middle.activeOn other.1 other.2 ↔ id ∈ before.activeOn other.1 other.2 := by
  rw [mem_activeOn orderly.keyed, mem_activeOn orderlyMiddle.keyed]
  obtain ⟨begun, stands, -, bound⟩ := one.begun
  by_cases same : id = start.thread
  · rw [same]
    constructor
    · rintro ⟨thread, found, runs⟩
      obtain rfl := Option.some.inj (stands.symm.trans found)
      exact absurd (bound other runs) different
    · rintro ⟨thread, found, -⟩
      exact absurd (issued_of_standing orderly found) one.fresh
  · rw [one.others id same]
    split
    case isTrue taken =>
      obtain ⟨thread, found, runs⟩ := (one.chosen id).mp taken
      constructor
      · rintro ⟨_, none, -⟩
        cases none
      · rintro ⟨_, again, otherwise⟩
        obtain rfl := Option.some.inj (found.symm.trans again)
        exact absurd (otherwise.unique runs) different
    case isFalse => exact Iff.rfl

/-- Beginning a thread decides nothing about other pairs. -/
theorem BegunOne.admits {candidate other : HatCandidate} {start : ThreadStart}
    {replaced : List ThreadId} (one : BegunOne before middle candidate.pair start replaced)
    (orderly : Orderly before) (orderlyMiddle : Orderly middle)
    (different : other.pair ≠ candidate.pair) (restarting : Bool) :
    middle.admits restarting other = before.admits restarting other := by
  have active := one.active orderly orderlyMiddle different
  have vacant : middle.activeOn other.script other.target = [] ↔
      before.activeOn other.script other.target = [] := by
    rw [List.eq_nil_iff_forall_not_mem, List.eq_nil_iff_forall_not_mem]
    exact forall_congr' fun id => not_congr (active id)
  rw [Scheduler.admits, Scheduler.admits, decide_eq_decide.mpr vacant]

/-- A candidate that is admitted, and then the others. -/
theorem Dispatched.cons {hat : String} {candidate : HatCandidate} {chosen : List HatCandidate}
    {start : ThreadStart} {starts : List ThreadStart} {replaced : List ThreadId}
    (one : BegunOne before middle candidate.pair start
      (before.activeOn candidate.script candidate.target))
    (orderly : Orderly before) (orderlyMiddle : Orderly middle)
    (finds : ∀ id, middle.threads.find? id = if id = start.thread then
      some (.forHat id candidate.target ⟨candidate.script, hat, candidate.option⟩)
      else (before.retireAll
        (before.activeOn candidate.script candidate.target)).threads.find? id)
    (differ : ∀ other ∈ chosen, other.pair ≠ candidate.pair)
    (fresh : ∀ other ∈ starts, ¬ middle.ids.Issued other.thread.text)
    (later : Dispatched hat middle after chosen starts replaced) :
    Dispatched hat before after (candidate :: chosen) (start :: starts)
      (before.activeOn candidate.script candidate.target ++ replaced) := by
  have replaces : ∀ id, id ∈ replaced ↔
      ∃ other ∈ chosen, id ∈ before.activeOn other.script other.target := by
    intro id
    rw [later.ended]
    refine exists_congr fun other => and_congr_right fun member => ?_
    exact one.active orderly orderlyMiddle (differ other member) id
  have unstarted : start.thread ∉ starts.map ThreadStart.thread := by
    intro member
    obtain ⟨other, present, same⟩ := List.mem_map.mp member
    exact fresh other present (same ▸ one.issued)
  have unreplaced : start.thread ∉ replaced := by
    intro member
    obtain ⟨other, -, active⟩ := (replaces start.thread).mp member
    exact one.fresh (activeOn_issued orderly active)
  refine ⟨.cons ?_ later.begun, fun id => ?_, fun id absent => ?_⟩
  · rw [BegunFor, later.others _ unstarted, finds, if_pos rfl, Option.map_some,
      if_neg unreplaced]
  · rw [List.mem_append, replaces]
    simp only [List.mem_cons, exists_eq_or_imp]
  · rw [List.map_cons, List.mem_cons, not_or] at absent
    rw [later.others id absent.2, finds, if_neg absent.1, find_retireAll, Option.map_map]
    refine congrArg (Option.map · (before.threads.find? id)) (funext fun thread => ?_)
    by_cases here : id ∈ before.activeOn candidate.script candidate.target
    · by_cases there : id ∈ replaced <;> simp [here, there, Thread.finish]
    · by_cases there : id ∈ replaced <;> simp [here, there]

/-- The candidates of a hat are dispatched as the live threads stand before the first. -/
theorem beginAll_dispatched (hat : String) (restarting : Bool) {candidates : List HatCandidate}
    (single : (candidates.map HatCandidate.pair).Nodup) (orderly : Orderly before) :
    Dispatched hat before (beginAll hat restarting before candidates).2
      (candidates.filter (before.admits restarting))
      (beginAll hat restarting before candidates).1.1
      (beginAll hat restarting before candidates).1.2 := by
  induction candidates generalizing before with
  | nil =>
    refine ⟨.nil, fun id => ?_, fun id _ => ?_⟩
    · exact ⟨fun member => absurd member List.not_mem_nil,
        fun ⟨_, member, _⟩ => absurd member List.not_mem_nil⟩
    · change before.threads.find? id = _
      cases before.threads.find? id <;> rfl
  | cons candidate rest inductionHypothesis =>
    obtain ⟨absent, singleRest⟩ := List.nodup_cons.mp single
    unfold beginAll
    dsimp only
    split
    case isTrue taken =>
      rw [List.filter_cons_of_neg (by simpa [admits] using taken.symm)]
      exact inductionHypothesis singleRest orderly
    case isFalse free =>
      have one := beginCandidate_begunOne orderly hat candidate
      have advances := (retireAll_advances before
        (before.activeOn candidate.script candidate.target)
        fun orderly id member => activeOn_issued orderly member).trans
          (beginCandidate_advances _ hat candidate)
      have finds := fun id => beginCandidate_find
        (before.retireAll (before.activeOn candidate.script candidate.target)) hat candidate id
      have orderlyMiddle := (advances orderly).1
      rw [List.filter_cons_of_pos (by simpa [admits, or_iff_not_imp_right] using free)]
      have later := inductionHypothesis singleRest orderlyMiddle
      have begunLater := beginAll_begun hat restarting singleRest orderlyMiddle
      generalize ((before.retireAll (before.activeOn candidate.script
        candidate.target)).beginCandidate
        hat candidate) = begun at one orderlyMiddle finds later begunLater
      obtain ⟨start, middle⟩ := begun
      dsimp only at one orderlyMiddle finds later begunLater ⊢
      generalize beginAll hat restarting middle rest = result at later begunLater
      obtain ⟨⟨starts, replaced⟩, after⟩ := result
      dsimp only at later begunLater ⊢
      have differ : ∀ other ∈ rest, other.pair ≠ candidate.pair :=
        fun other member same => absent (List.mem_map.mpr ⟨other, member, same⟩)
      have chosen : rest.filter (middle.admits restarting) =
          rest.filter (before.admits restarting) :=
        List.filter_congr fun other member =>
          one.admits orderly orderlyMiddle (differ other member) restarting
      rw [chosen] at later
      exact .cons one orderly orderlyMiddle finds
        (fun other member => differ other (List.mem_filter.mp member).1) begunLater.fresh later

section Choosing

variable {scheduler : Scheduler τ α}

instance (thread : Thread α) (pair : ScriptId × TargetId) : Decidable (RunsFor thread pair) :=
  inferInstanceAs (Decidable (thread.target = pair.2 ∧
    ∃ binding ∈ thread.binding, binding.script = pair.1))

/-- A script that is registered for a hat, with a wanted option up to the case of ASCII
letters, and its sprite or a live clone of it, the wanted target if there is one. -/
def Suits (hat : String) (filter : HatFilter) (pair : (ScriptId × Registration) × Target α) :
    Prop :=
  pair.1.2.event = hat ∧
    (∀ wanted ∈ filter.option, ∃ option ∈ pair.1.2.option, Text.sameIgnoringCase option wanted) ∧
    (pair.2.cloneOf = none ∧ pair.2.id = pair.1.2.target ∨ pair.2.cloneOf = some pair.1.2.target) ∧
    ∀ wanted ∈ filter.target, pair.2.id = wanted

instance (hat : String) (filter : HatFilter) (pair : (ScriptId × Registration) × Target α) :
    Decidable (Suits hat filter pair) :=
  inferInstanceAs (Decidable (_ ∧ _))

/-- The hat restarts, or no active thread runs for a script on an instance. -/
def Free (scheduler : Scheduler τ α) (restarting : Bool)
    (pair : (ScriptId × Registration) × Target α) : Prop :=
  restarting = true ∨ ∀ thread ∈ scheduler.threads.values, thread.isActive = true →
    ¬ RunsFor thread (pair.1.1, pair.2.id)

instance (scheduler : Scheduler τ α) (restarting : Bool)
    (pair : (ScriptId × Registration) × Target α) : Decidable (scheduler.Free restarting pair) :=
  inferInstanceAs (Decidable (_ ∨ _))

/-- The scripts and instances that a hat is to start, in the order of registration and then
of the targets. -/
def due (scheduler : Scheduler τ α) (hat : String) (filter : HatFilter) (restarting : Bool) :
    List ((ScriptId × Registration) × Target α) :=
  (scheduler.scripts.entries ×ˢ scheduler.stage.targets.values).filter fun pair =>
    Suits hat filter pair ∧ scheduler.Free restarting pair

/-- The candidate of a registered script on a target. -/
def HatCandidate.ofPair (pair : (ScriptId × Registration) × Target α) : HatCandidate :=
  ⟨pair.1.1, pair.2.id, pair.1.2.option⟩

/-- A script suits when it matches the hat, belongs to the instance, and the instance is wanted. -/
theorem suits_iff {hat : String} {filter : HatFilter} {script : ScriptId}
    {registration : Registration} {target : Target α} :
    Suits hat filter ((script, registration), target) ↔
      matchesHat hat filter.option registration = true ∧
        target.scriptOwner = registration.target ∧ filter.target.all (· = target.id) = true := by
  have owner : target.scriptOwner = registration.target ↔
      target.cloneOf = none ∧ target.id = registration.target ∨
        target.cloneOf = some registration.target := by
    unfold Target.scriptOwner
    cases target.cloneOf <;> simp
  have option : (filter.option.all fun wanted =>
      registration.option.any (Text.sameIgnoringCase · wanted)) = true ↔
        ∀ wanted ∈ filter.option, ∃ option ∈ registration.option,
          Text.sameIgnoringCase option wanted = true := by
    cases filter.option <;> cases registration.option <;> simp
  have wanted : filter.target.all (· = target.id) = true ↔
      ∀ wanted ∈ filter.target, target.id = wanted := by
    cases filter.target <;> simp [eq_comm]
  rw [owner, wanted, matchesHat, Bool.and_eq_true, decide_eq_true_iff, option, and_assoc]
  exact Iff.rfl

/-- The candidates of a hat are the suited pairs. -/
theorem hatCandidates_suited (hat : String) (filter : HatFilter) :
    scheduler.hatCandidates hat filter =
      ((scheduler.scripts.entries ×ˢ scheduler.stage.targets.values).filter
        fun pair => Suits hat filter pair).map HatCandidate.ofPair := by
  unfold hatCandidates Stage.instancesOf
  induction scheduler.scripts.entries with
  | nil => rfl
  | cons entry rest inductionHypothesis =>
    obtain ⟨script, registration⟩ := entry
    rw [List.product_cons, List.filter_append, List.map_append, ← inductionHypothesis,
      List.filter_map, List.map_map]
    by_cases concerned : matchesHat hat filter.option registration = true
    · rw [List.filter_cons, if_pos concerned, List.flatMap_cons]
      dsimp only
      rw [List.filter_map, List.map_map, List.filter_filter]
      refine congrArg (List.map _ · ++ _) (List.filter_congr fun target _ => ?_)
      simp [suits_iff, concerned, Bool.and_comm]
    · rw [List.filter_cons, if_neg concerned]
      have nobody : (scheduler.stage.targets.values.filter
          ((fun pair => decide (Suits hat filter pair)) ∘
            Prod.mk (script, registration))) = [] := by
        refine List.filter_eq_nil_iff.mpr fun target _ => ?_
        simp [suits_iff, concerned]
      rw [nobody]
      rfl

/-- The candidates that are admitted are those due. -/
theorem admitted_due (hat : String) (filter : HatFilter) (restarting : Bool) :
    (scheduler.hatCandidates hat filter).filter (scheduler.admits restarting) =
      (scheduler.due hat filter restarting).map HatCandidate.ofPair := by
  have free : ∀ pair : (ScriptId × Registration) × Target α,
      scheduler.admits restarting (.ofPair pair) = decide (scheduler.Free restarting pair) := by
    intro pair
    rw [Bool.eq_iff_iff, decide_eq_true_iff, admits, Bool.or_eq_true, decide_eq_true_iff]
    refine or_congr Iff.rfl ?_
    rw [HatCandidate.ofPair, activeOn, List.map_eq_nil_iff, List.filter_eq_nil_iff]
    refine forall₂_congr fun thread _ => ?_
    rw [Bool.and_eq_true, Bool.and_eq_true, decide_eq_true_iff, any_script, and_assoc, not_and]
    exact Iff.rfl
  rw [hatCandidates_suited, List.filter_map, List.filter_filter, due]
  refine congrArg (List.map _) (List.filter_congr fun pair _ => ?_)
  rw [Function.comp_apply, free, Bool.and_comm, Bool.decide_and]

/-- The threads that run for a pair that is due are finished under restarting hats only. -/
theorem due_replaced (keyed : scheduler.Keyed) {hat : String} {filter : HatFilter}
    {restarting : Bool} {id : ThreadId} {thread : Thread α}
    (found : scheduler.threads.find? id = some thread) :
    (∃ candidate ∈ (scheduler.due hat filter restarting).map HatCandidate.ofPair,
        id ∈ scheduler.activeOn candidate.script candidate.target) ↔
      restarting = true ∧ thread.isActive = true ∧
        ∃ pair ∈ scheduler.due hat filter restarting, RunsFor thread (pair.1.1, pair.2.id) := by
  constructor
  · rintro ⟨candidate, chosen, active⟩
    obtain ⟨pair, member, rfl⟩ := List.mem_map.mp chosen
    obtain ⟨other, stands, runs⟩ := (mem_activeOn keyed).mp active
    obtain ⟨again, live⟩ := standing_eq_some.mp stands
    obtain rfl := Option.some.inj (found.symm.trans again)
    refine ⟨?_, live, pair, member, runs⟩
    rcases (decide_eq_true_iff.mp (List.mem_filter.mp member).2).2 with restarts | nobody
    · exact restarts
    · exact absurd runs (nobody thread (OrderedMap.mem_values_iff.mpr ⟨id, found⟩) live)
  · rintro ⟨-, live, pair, member, runs⟩
    exact ⟨.ofPair pair, List.mem_map_of_mem member,
      (mem_activeOn keyed).mpr ⟨thread, standing_eq_some.mpr ⟨found, live⟩, runs⟩⟩

end Choosing

end Scheduler

end SpriteMachine
