import SpriteMachine.Proofs.Scheduler.Act
import SpriteMachine.Proofs.Scheduler.Chronicle
import SpriteMachine.Proofs.Thread

/-!
# Every step moves forward

The changes that a scheduler makes to its live set are few: a thread is registered under
a new name, ended, removed, or goes on in a way that leaves its name and its end alone.
Each of them advances the scheduler; so does all that is made of them.
-/

namespace SpriteMachine

namespace Scheduler

variable {τ α : Type} {scheduler before after : Scheduler τ α}

section Changes

/-- A step that touches neither the live set nor the chronicle. -/
theorem Advances.still (keeps : Keeps before after)
    (threads : after.threads = before.threads) (chronicle : after.chronicle = before.chronicle) :
    Advances before after := by
  refine .ofChange [] keeps ?_ chronicle (Nat.zero_le 1) ?_ ?_ ?_
  · intro _ id thread found
    rw [threads] at found
    exact .same found
  all_goals
    intros
    contradiction

/-- A thread goes on under its name and with its end as it was. -/
theorem Advances.modify (id : ThreadId) (change : Thread α → Thread α)
    (keeps : Keeps before after)
    (threads : after.threads = before.threads.modify id change)
    (chronicle : after.chronicle = before.chronicle)
    (named : ∀ thread, before.threads.find? id = some thread → (change thread).id = thread.id)
    (done : ∀ thread, before.threads.find? id = some thread →
      (change thread).isDone = thread.isDone) : Advances before after := by
  refine .ofChange [] keeps ?_ chronicle (Nat.zero_le 1) ?_ ?_ ?_
  · intro _ other thread found
    rw [threads, OrderedMap.find_modify] at found
    split at found
    case isTrue same =>
      subst same
      obtain ⟨earlier, present, rfl⟩ := Option.map_eq_some_iff.mp found
      refine Or.inl ⟨earlier, present, named earlier present, ?_, ?_⟩
      · intro ended
        rw [done earlier present, ended]
      · intro ended
        rw [done earlier present] at ended
        exact Or.inl ended
    case isFalse => exact .same found
  all_goals
    intros
    contradiction

/-- A thread is ended and the deed recorded. -/
theorem Advances.finish {id : ThreadId} {deed : Deed α} (ends : deed.Ends id)
    (keeps : Keeps before after)
    (threads : after.threads = before.threads.modify id Thread.finish)
    (chronicle : after.chronicle = deed :: before.chronicle)
    (issued : Orderly before → before.ids.Issued id.text) : Advances before after := by
  refine .ofChange [deed] keeps ?_ chronicle (Nat.le_refl 1) ?_ ?_ ?_
  · intro _ other thread found
    rw [threads, OrderedMap.find_modify] at found
    split at found
    case isTrue same =>
      subst same
      obtain ⟨earlier, present, rfl⟩ := Option.map_eq_some_iff.mp found
      exact Or.inl ⟨earlier, present, rfl, fun _ => rfl,
        fun _ => Or.inr ⟨deed, List.mem_singleton_self deed, ends⟩⟩
    case isFalse => exact .same found
  · intro orderly other member
    rw [List.mem_singleton.mp member, ends.thread_eq]
    exact issued orderly
  · intro other member named ended
    rw [List.mem_singleton.mp member] at ended
    obtain rfl : named = id := ended.thread_eq.symm.trans ends.thread_eq
    rw [isLive, threads, OrderedMap.find_modify, if_pos rfl]
    cases before.threads.find? named <;> rfl
  · intro other member named invoked
    rw [List.mem_singleton.mp member] at invoked
    exact absurd invoked ends.not_invokes

/-- Threads are removed. -/
theorem Advances.remove (keep : ThreadId → Thread α → Bool)
    (keeps : Keeps before after)
    (threads : after.threads = before.threads.filter keep)
    (chronicle : after.chronicle = before.chronicle) : Advances before after := by
  refine .ofChange [] keeps ?_ chronicle (Nat.zero_le 1) ?_ ?_ ?_
  · intro _ id thread found
    rw [threads, OrderedMap.find_filter, Option.filter_eq_some_iff] at found
    exact .same found.1
  all_goals
    intros
    contradiction

/-- A thread is registered under a new name. -/
theorem Advances.adopt {thread : Thread α}
    (keeps : Keeps before after)
    (threads : after.threads = before.threads.insert thread.id thread)
    (chronicle : after.chronicle = before.chronicle) (active : thread.isDone = false)
    (fresh : Orderly before → ¬ before.ids.Issued thread.id.text)
    (issued : after.ids.Issued thread.id.text) : Advances before after := by
  refine .ofChange [] keeps ?_ chronicle (Nat.zero_le 1) ?_ ?_ ?_
  · intro orderly id found present
    rw [threads, OrderedMap.find_insert] at present
    split at present
    case isTrue same =>
      obtain rfl := Option.some.inj present
      rw [same]
      exact Or.inr ⟨fresh orderly, issued, rfl, active⟩
    case isFalse => exact .same present
  all_goals
    intros
    contradiction

/-- An invocation for a live thread is recorded. -/
theorem Advances.note {id : ThreadId} {target : TargetId} {frame : Frame α}
    (keeps : Keeps before after)
    (threads : after.threads = before.threads)
    (chronicle : after.chronicle = .invoked id target frame :: before.chronicle)
    (live : before.isLive id = true) : Advances before after := by
  refine .ofChange [.invoked id target frame] keeps ?_ chronicle (Nat.le_refl 1) ?_ ?_ ?_
  · intro _ other thread found
    rw [threads] at found
    exact .same found
  · intro orderly deed member
    obtain ⟨thread, found, -⟩ := find_of_isLive live
    rw [List.mem_singleton.mp member]
    exact orderly.issued id thread found
  · intro deed member other ended
    rw [List.mem_singleton.mp member] at ended
    obtain same | same := ended <;> cases same
  · intro deed member other invoked
    rw [List.mem_singleton.mp member] at invoked
    obtain rfl : other = id := invoked.thread_eq.symm
    exact live

end Changes

section Threads

/-- To end a thread that is unknown is refused and changes nothing. -/
theorem endThread_missing {id : ThreadId} (absent : scheduler.threads.find? id = none) :
    scheduler.endThread id = (.error (.notFound id), scheduler) := by
  rw [endThread, OrderedMap.contains_eq_isSome, absent]
  rfl

/-- To end a thread finishes it and drops the value it reported; its end is entered. -/
theorem endThread_found {id : ThreadId} {thread : Thread α}
    (found : scheduler.threads.find? id = some thread) :
    scheduler.endThread id = (.ok (), { scheduler with
      threads := scheduler.threads.modify id Thread.finish
      chronicle := .ended id :: scheduler.chronicle }) := by
  rw [endThread, OrderedMap.contains_eq_isSome, found]
  rfl

/-- To end a thread is a step forward. -/
theorem endThread_advances (scheduler : Scheduler τ α) (id : ThreadId) :
    Advances scheduler (scheduler.endThread id).2 := by
  cases found : scheduler.threads.find? id with
  | none =>
    rw [endThread_missing found]
    exact .refl scheduler
  | some thread =>
    rw [endThread_found found]
    exact .finish (Or.inl rfl) ⟨rfl, rfl, .refl _⟩ rfl rfl
      fun orderly => orderly.issued id thread found

/-- Retiring a thread whose name was issued. -/
theorem retire_advances (scheduler : Scheduler τ α) (id : ThreadId)
    (issued : Orderly scheduler → scheduler.ids.Issued id.text) :
    Advances scheduler (scheduler.retire id) :=
  .finish (Or.inr rfl) ⟨rfl, rfl, .refl _⟩ rfl rfl issued

/-- To retire threads issues no name. -/
@[simp]
theorem retireAll_ids (scheduler : Scheduler τ α) (ids : List ThreadId) :
    (scheduler.retireAll ids).ids = scheduler.ids := by
  induction ids generalizing scheduler with
  | nil => rfl
  | cons first rest inductionHypothesis => exact inductionHypothesis (scheduler.retire first)

/-- To retire threads whose names were issued is a step forward. -/
theorem retireAll_advances (scheduler : Scheduler τ α) (ids : List ThreadId)
    (issued : Orderly scheduler → ∀ id ∈ ids, scheduler.ids.Issued id.text) :
    Advances scheduler (scheduler.retireAll ids) := by
  induction ids generalizing scheduler with
  | nil => exact .refl scheduler
  | cons first rest inductionHypothesis =>
    intro orderly
    have known := issued orderly
    have retires := retire_advances scheduler first fun _ => known first List.mem_cons_self
    refine (retires.trans (inductionHypothesis (scheduler.retire first) ?_)) orderly
    exact fun _ id member => known id (List.mem_cons_of_mem _ member)

/-- The names that live threads bear were issued. -/
theorem issued_of_values {thread : Thread α} (orderly : Orderly scheduler)
    (member : thread ∈ scheduler.threads.values) : scheduler.ids.Issued thread.id.text := by
  obtain ⟨id, found⟩ := OrderedMap.mem_values_iff.mp member
  rw [orderly.keyed id thread found]
  exact orderly.issued id thread found

/-- The names of known threads were issued. -/
theorem issued_of_keys {id : ThreadId} (orderly : Orderly scheduler)
    (member : id ∈ scheduler.threads.keys) : scheduler.ids.Issued id.text := by
  obtain ⟨thread, found⟩ := OrderedMap.mem_keys_iff.mp member
  exact orderly.issued id thread found

/-- A drawn thread name is new, and it is issued afterwards. -/
theorem nextThreadId_fresh (scheduler : Scheduler τ α) :
    IdSource.Continues scheduler.ids scheduler.nextThreadId.2.ids ∧
      (scheduler.ids.Distinct → ¬ scheduler.ids.Issued scheduler.nextThreadId.1.text) ∧
      scheduler.nextThreadId.2.ids.Issued scheduler.nextThreadId.1.text :=
  ⟨IdSource.draw_continues _ _, fun distinct => IdSource.draw_fresh distinct _,
    IdSource.draw_issued _ _⟩

/-- Registering a thread under a new name. -/
theorem adopt_advances (scheduler : Scheduler τ α) (thread : ThreadId → Thread α)
    (named : ∀ id, (thread id).id = id) (active : ∀ id, (thread id).isDone = false) :
    Advances scheduler
      (scheduler.nextThreadId.2.adopt (thread scheduler.nextThreadId.1)) := by
  obtain ⟨continues, fresh, issued⟩ := nextThreadId_fresh scheduler
  refine .adopt ⟨rfl, rfl, continues⟩ rfl rfl (active _) (fun orderly => ?_) ?_
  · rw [named]
    exact fresh orderly.distinct
  · rw [named]
    exact issued

end Threads

section Hats

/-- Retiring threads ends them and changes no other. -/
theorem find_retireAll (scheduler : Scheduler τ α) (ids : List ThreadId) (id : ThreadId) :
    (scheduler.retireAll ids).threads.find? id =
      (scheduler.threads.find? id).map fun thread =>
        if id ∈ ids then thread.finish else thread := by
  induction ids generalizing scheduler with
  | nil =>
    change scheduler.threads.find? id = _
    cases scheduler.threads.find? id <;> rfl
  | cons first rest inductionHypothesis =>
    change ((scheduler.retire first).retireAll rest).threads.find? id = _
    rw [inductionHypothesis, retire, OrderedMap.find_modify]
    by_cases same : first = id
    · subst same
      cases scheduler.threads.find? first with
      | none => simp
      | some thread => simp [Thread.finish]
    · have other : id ≠ first := fun equal => same equal.symm
      simp [other]

/-- Retired threads are not live. -/
theorem retireAll_ends {scheduler : Scheduler τ α} {ids : List ThreadId} {id : ThreadId}
    (member : id ∈ ids) : (scheduler.retireAll ids).isLive id = false := by
  rw [isLive, find_retireAll]
  cases scheduler.threads.find? id with
  | none => rfl
  | some thread =>
    rw [Option.map_some, if_pos member]
    rfl

/-- The names of the threads that run for a script were issued. -/
theorem activeOn_issued {script : ScriptId} {target : TargetId} {id : ThreadId}
    (orderly : Orderly scheduler) (member : id ∈ scheduler.activeOn script target) :
    scheduler.ids.Issued id.text := by
  obtain ⟨thread, active, rfl⟩ := List.mem_map.mp member
  exact issued_of_values orderly (List.mem_filter.mp active).1

/-- The names of the threads active on a target were issued. -/
theorem activeThreadsOn_issued {target : TargetId} {id : ThreadId} (orderly : Orderly scheduler)
    (member : id ∈ scheduler.activeThreadsOn target) : scheduler.ids.Issued id.text := by
  obtain ⟨thread, active, rfl⟩ := List.mem_map.mp member
  exact issued_of_values orderly (List.mem_filter.mp active).1

/-- A quiet change is a step forward. -/
theorem Quiet.advances (quiet : Quiet before after) : Advances before after :=
  .still ⟨quiet.config, quiet.registry, quiet.ids⟩ quiet.threads quiet.chronicle

/-- What the host tells the worker does not touch its own threads. -/
theorem bridge_advances (scheduler : Scheduler τ α) (bridge : Bridge τ α) :
    Advances scheduler { scheduler with bridge := bridge } :=
  .still ⟨rfl, rfl, .refl _⟩ rfl rfl

/-- To begin a thread for a candidate is a step forward. -/
theorem beginCandidate_advances (scheduler : Scheduler τ α) (hat : String)
    (candidate : HatCandidate) : Advances scheduler (scheduler.beginCandidate hat candidate).2 :=
  adopt_advances scheduler
    (fun id => .forHat id candidate.target ⟨candidate.script, hat, candidate.option⟩)
    (fun _ => rfl) (fun _ => rfl)

/-- The started thread is the one that was registered. -/
theorem beginCandidate_find (scheduler : Scheduler τ α) (hat : String) (candidate : HatCandidate)
    (id : ThreadId) :
    (scheduler.beginCandidate hat candidate).2.threads.find? id =
      if id = (scheduler.beginCandidate hat candidate).1.thread then
        some (.forHat id candidate.target ⟨candidate.script, hat, candidate.option⟩)
      else scheduler.threads.find? id := by
  change (scheduler.threads.insert scheduler.nextThreadId.1 (.forHat scheduler.nextThreadId.1
    candidate.target ⟨candidate.script, hat, candidate.option⟩)).find? id =
      if id = scheduler.nextThreadId.1 then _ else _
  rw [OrderedMap.find_insert]
  split
  case isTrue same => rw [same]
  case isFalse => rfl

/-- What beginning threads does: it advances, issues the names of the threads to start, and
registers no other threads. -/
structure Begins (before after : Scheduler τ α) (starts : List ThreadStart) : Prop where
  advances : Advances before after
  issued : Orderly before → ∀ start ∈ starts, after.ids.Issued start.thread.text
  started : ∀ id, before.threads.find? id = none → after.threads.find? id ≠ none →
    id ∈ starts.map ThreadStart.thread

/-- A candidate and then the others. -/
theorem Begins.cons {active : List ThreadId} {hat : String} {candidate : HatCandidate}
    {starts : List ThreadStart}
    (known : Orderly before → ∀ id ∈ active, before.ids.Issued id.text)
    (rest : Begins ((before.retireAll active).beginCandidate hat candidate).2 after starts) :
    Begins before after
      (((before.retireAll active).beginCandidate hat candidate).1 :: starts) := by
  have first : Advances before ((before.retireAll active).beginCandidate hat candidate).2 :=
    (retireAll_advances before active known).trans (beginCandidate_advances _ hat candidate)
  refine ⟨first.trans rest.advances, ?_, ?_⟩
  · intro orderly start member
    have begun := first orderly
    rcases List.mem_cons.mp member with rfl | later
    · refine (rest.advances begun.1).2.ids.issued_of ?_
      exact (nextThreadId_fresh (before.retireAll active)).2.2
    · exact rest.issued begun.1 start later
  · intro id gone found
    rw [List.map_cons, List.mem_cons]
    by_cases same : id = ((before.retireAll active).beginCandidate hat candidate).1.thread
    · exact Or.inl same
    · refine Or.inr (rest.started id ?_ found)
      rw [beginCandidate_find, if_neg same, find_retireAll, gone]
      rfl

/-- Beginning threads for all candidates registers these threads and no others, by induction on
the candidates. -/
theorem beginAll_begins (hat : String) (restarting : Bool) (candidates : List HatCandidate)
    (scheduler : Scheduler τ α) :
    Begins scheduler (beginAll hat restarting scheduler candidates).2
      (beginAll hat restarting scheduler candidates).1.1 := by
  induction candidates generalizing scheduler with
  | nil =>
    refine ⟨.refl scheduler, ?_, fun _ gone found => absurd gone found⟩
    intro _ start member
    cases member
  | cons candidate rest inductionHypothesis =>
    unfold beginAll
    dsimp only
    split
    case isTrue => exact inductionHypothesis scheduler
    case isFalse =>
      exact .cons (fun orderly id member => activeOn_issued orderly member)
        (inductionHypothesis _)

/-- To end every thread is a step forward. -/
theorem endEveryThread_advances (scheduler : Scheduler τ α) :
    Advances scheduler scheduler.endEveryThread :=
  (retireAll_advances scheduler _ fun orderly _ member => issued_of_keys orderly member).trans
    (.remove (fun _ thread => (scheduler.endEveryThread.stage.target? thread.target).any
      fun target => !target.isClone) ⟨rfl, rfl, .refl _⟩ rfl rfl)

/-- A thread that is found is ended and then retired. -/
theorem endRetire_advances {id : ThreadId} {thread : Thread α}
    (found : scheduler.threads.find? id = some thread) :
    Advances scheduler ((scheduler.endThread id).2.retire id) := by
  refine (endThread_advances scheduler id).trans (retire_advances _ id fun orderly => ?_)
  have finished : (scheduler.endThread id).2.threads.find? id = some thread.finish := by
    rw [endThread_found found, OrderedMap.find_modify, if_pos rfl, found]
    rfl
  exact orderly.issued id thread.finish finished

variable [Transport τ α]

/-- To ask the worker for starts is a step forward, also where it refuses. -/
theorem requestStarts_advances (scheduler : Scheduler τ α) (hat : String)
    (option : Option String) (starts : List ThreadStart)
    (issued : Orderly scheduler → ∀ start ∈ starts, scheduler.ids.Issued start.thread.text) :
    Advances scheduler (scheduler.requestStarts hat option starts).2 := by
  have known : Orderly scheduler → ∀ id ∈ starts.map ThreadStart.thread,
      scheduler.ids.Issued id.text := by
    intro orderly id member
    obtain ⟨start, present, rfl⟩ := List.mem_map.mp member
    exact issued orderly start present
  unfold requestStarts
  split
  case h_1 accepted bridge result =>
    intro orderly
    refine ((bridge_advances scheduler bridge).trans (retireAll_advances _ _ ?_)) orderly
    exact fun _ id member => known orderly id (List.mem_filter.mp member).1
  case h_2 fault bridge result =>
    intro orderly
    exact ((bridge_advances scheduler bridge).trans
      (retireAll_advances _ _ fun _ => known orderly)) orderly

/-- Asking for starts registers no threads. -/
theorem requestStarts_absent {scheduler : Scheduler τ α} {hat : String} {option : Option String}
    {starts : List ThreadStart} {id : ThreadId} (absent : scheduler.threads.find? id = none) :
    (scheduler.requestStarts hat option starts).2.threads.find? id = none := by
  unfold requestStarts
  split
  case h_1 =>
    rw [find_retireAll, absent]
    rfl
  case h_2 =>
    rw [find_retireAll, absent]
    rfl

/-- A thread that the worker does not start is not live. -/
theorem requestStarts_refused {scheduler : Scheduler τ α} {hat : String} {option : Option String}
    {starts : List ThreadStart} {id : ThreadId}
    (member : id ∈ starts.map ThreadStart.thread)
    (refused : ∀ accepted, (scheduler.requestStarts hat option starts).1 = .ok accepted →
      id ∉ accepted) :
    (scheduler.requestStarts hat option starts).2.isLive id = false := by
  unfold requestStarts at refused ⊢
  split
  case h_1 accepted bridge result =>
    rw [result] at refused
    refine retireAll_ends (List.mem_filter.mpr ⟨member, ?_⟩)
    simpa using refused accepted rfl
  case h_2 => exact retireAll_ends member

/-- To start the scripts of a hat is a step forward. -/
theorem startHats_advances (scheduler : Scheduler τ α) (hat : String) (filter : HatFilter) :
    Advances scheduler (scheduler.startHats hat filter).2 := by
  unfold startHats
  split
  case h_1 => exact .refl scheduler
  case h_2 restarting _ =>
    have begins := beginAll_begins hat restarting (scheduler.hatCandidates hat filter) scheduler
    generalize beginAll hat restarting scheduler (scheduler.hatCandidates hat filter) = result
      at begins
    obtain ⟨⟨starts, replaced⟩, begun⟩ := result
    have told : Advances scheduler (begun.tellStopped replaced) :=
      begins.advances.trans (bridge_advances begun _)
    dsimp only
    split
    case isTrue => exact told
    case isFalse =>
      intro orderly
      refine (told.trans (requestStarts_advances _ hat filter.option starts ?_)) orderly
      exact fun _ => begins.issued orderly

/-- A new thread of a hat is live only when the worker accepted to start it. -/
theorem startHats_refused {scheduler : Scheduler τ α} {hat : String} {filter : HatFilter}
    {id : ThreadId} (absent : scheduler.threads.find? id = none)
    (refused : ∀ accepted, (scheduler.startHats hat filter).1 = .ok accepted → id ∉ accepted) :
    (scheduler.startHats hat filter).2.isLive id = false := by
  unfold startHats at refused ⊢
  split
  case h_1 => exact isLive_of_absent absent
  case h_2 restarting hatted =>
    rw [hatted] at refused
    dsimp only at refused
    have begins := beginAll_begins hat restarting (scheduler.hatCandidates hat filter) scheduler
    generalize beginAll hat restarting scheduler (scheduler.hatCandidates hat filter) = result
      at begins refused
    obtain ⟨⟨starts, replaced⟩, begun⟩ := result
    dsimp only at begins refused ⊢
    cases found : begun.threads.find? id with
    | none =>
      split
      case isTrue => exact isLive_of_absent found
      case isFalse => exact isLive_of_absent (requestStarts_absent found)
    | some thread =>
      have started := begins.started id absent fun gone => by
        rw [found] at gone
        cases gone
      split
      case isTrue none =>
        subst none
        cases started
      case isFalse some =>
        rw [if_neg some] at refused
        exact requestStarts_refused started refused

/-- A known thread that is stopped is ended, retired, and the worker is told. -/
theorem stopThread_found {id : ThreadId} {thread : Thread α}
    (found : scheduler.threads.find? id = some thread) :
    (scheduler.stopThread id).2 = ((scheduler.endThread id).2.retire id).tellStopped [id] := by
  rw [stopThread, endThread_found found]

/-- To stop a thread is a step forward. -/
theorem stopThread_advances (scheduler : Scheduler τ α) (id : ThreadId) :
    Advances scheduler (scheduler.stopThread id).2 := by
  cases found : scheduler.threads.find? id with
  | none =>
    rw [stopThread, endThread_missing found]
    exact .refl scheduler
  | some thread =>
    rw [stopThread_found found]
    exact (endRetire_advances found).trans (bridge_advances _ _)

variable [Scalar α]

/-- To stop everything is a step forward. -/
theorem stopAll_advances (scheduler : Scheduler τ α) : Advances scheduler scheduler.stopAll := by
  have cleared : Advances scheduler
      { scheduler.emit .projectStopAll with
        stage := (scheduler.emit .projectStopAll).stage.onStopAll } :=
    .still ⟨rfl, rfl, .refl _⟩ rfl rfl
  have emptied := cleared.trans (endEveryThread_advances _)
  exact (emptied.trans (disposeClones_mild _).toQuiet.advances).trans
    (.still ⟨rfl, rfl, .refl _⟩ rfl rfl)

/-- Every act of a block advances. -/
theorem Act.advances (act : Act before after) : Advances before after := by
  cases act with
  | quiet quiet => exact quiet.advances
  | startHats hat filter => exact startHats_advances before hat filter
  | dismiss target chosen =>
    refine (retireAll_advances before _ fun orderly id member => ?_).trans (bridge_advances _ _)
    exact activeThreadsOn_issued orderly (List.mem_filter.mp member).1
  | stopThread thread => exact stopThread_advances before thread
  | stopAll => exact stopAll_advances before

/-- All that blocks do advances. -/
theorem Acts.advances (acts : Acts before after) : Advances before after := by
  induction acts with
  | refl => exact .refl before
  | tail _ act inductionHypothesis => exact inductionHypothesis.trans act.advances

end Hats

end Scheduler

end SpriteMachine
