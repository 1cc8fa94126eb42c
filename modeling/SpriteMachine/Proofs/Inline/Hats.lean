import SpriteMachine.Proofs.Inline.Fit

/-!
# Starts and stops keep host and worker in agreement

Threads that the host ends are loose until the worker is told, and threads that it begins
are loose until the worker has answered which of them it started. Behind every operation
that starts or stops threads none is loose.
-/

namespace SpriteMachine

variable {α : Type}

namespace Scheduler

variable {scheduler before after : Scheduler (Inline α) α} {hand : Option (ThreadId × Token)}
  {loose : ThreadId → Prop}

/-- Threads that were retired are loose until the worker knows. -/
theorem Sound.retireAll (sound : Sound hand loose scheduler) {ids : List ThreadId}
    (issued : ∀ id ∈ ids, scheduler.ids.Issued id.text) :
    Sound hand (fun id => loose id ∨ id ∈ ids) (scheduler.retireAll ids) := by
  refine sound.host (retireAll_framed ids scheduler)
    (retireAll_advances scheduler ids fun _ => issued) ?_ ?_ sound.inHand
  · intro id tied
    rw [not_or] at tied
    refine Or.inl ⟨tied.1, ?_, rfl⟩
    rw [standing_retireAll, if_neg tied.2]
  · intro id thread token stands _
    rw [standing_retireAll] at stands
    split at stands
    case isTrue => cases stands
    case isFalse => exact Or.inl stands

/-- Threads without standing are loose in any way. -/
theorem Sound.endEveryThread (sound : Sound hand loose scheduler) :
    Sound hand (fun _ => True) scheduler.endEveryThread := by
  have framed : Framed scheduler scheduler.endEveryThread := by
    have retired := retireAll_framed scheduler.threads.keys scheduler
    exact ⟨retired.config, retired.registry, retired.bridge, retired.stage⟩
  refine sound.host framed (endEveryThread_advances scheduler) ?_ ?_ sound.inHand
  · exact fun _ tied => absurd trivial tied
  · intro id thread token stands _
    rw [standing_endEveryThread] at stands
    cases stands

/-- Threads that begin, before the worker is told of any, are loose, as are those that
they replace. -/
theorem Sound.begun {pairs : List (ScriptId × TargetId)} {starts : List ThreadStart}
    {replaced : List ThreadId} (sound : Sound hand loose before)
    (framed : Framed before after) (advances : Advances before after)
    (begun : Begun before after pairs starts replaced) :
    Sound hand (fun id => (loose id ∨ id ∈ starts.map ThreadStart.thread) ∨ id ∈ replaced)
      after := by
  refine sound.host framed advances ?_ ?_ sound.inHand
  · intro id tied
    rw [not_or, not_or] at tied
    exact Or.inl ⟨tied.1.1, begun.others id tied.1.2 tied.2, rfl⟩
  · intro id thread token stands waits
    by_cases old : id ∈ replaced
    · rw [begun.ended id old] at stands
      cases stands
    · by_cases new : id ∈ starts.map ThreadStart.thread
      · obtain ⟨start, member, rfl⟩ := List.mem_map.mp new
        obtain ⟨found, same, rests⟩ := begun.rests start member
        obtain rfl := Option.some.inj (same.symm.trans stands)
        exact absurd (rests.1.symm.trans waits.1) (by decide)
      · rw [begun.others id new old] at stands
        exact Or.inl stands

/-- A thread was registered and the worker is to start it: it rests, and nobody has heard
of it. -/
structure Ready (hand : Option (ThreadId × Token)) (scheduler : Scheduler (Inline α) α)
    (id : ThreadId) : Prop where
  rests : ∃ thread, scheduler.standing id = some thread ∧ thread.Rests
  issued : scheduler.ids.Issued id.text
  vacant : scheduler.worker.seat id = .vacant
  unheard : about id scheduler.queue = []
  free : carried hand id = none

/-- Threads that the worker starts fit when they have arrived. -/
theorem Sound.arrive {starting : List ThreadId} {sent : List (WorkerMessage α)}
    (sound : Sound hand (fun id => loose id ∨ id ∈ starting) before)
    (posted : Posted (· ∈ starting) before sent after)
    (ready : ∀ id ∈ starting, Ready hand before id)
    (arrived : ∀ id ∈ starting,
      ScriptWorker.Arrived id (after.worker.seat id) (about id sent)) :
    Sound hand loose after := by
  refine sound.post posted (Or.inl rfl) ?_ ?_
  · intro id told
    by_cases member : id ∈ starting
    · exact ⟨(ready id member).issued, arrived id member⟩
    · exact absurd (posted.moves.spared id member).2 told
  · intro id tied
    by_cases member : id ∈ starting
    · right
      obtain ⟨thread, stands, rests⟩ := (ready id member).rests
      rw [(ready id member).free, stands, (ready id member).unheard, List.nil_append]
      exact fits_of_arrived rests (arrived id member)
    · left
      exact ⟨member, not_or.mpr ⟨tied, member⟩, rfl⟩

/-- Threads that the worker does not start fit when they are retired. -/
theorem Sound.refuse {refused : List ThreadId}
    (sound : Sound hand (fun id => loose id ∨ id ∈ refused) scheduler)
    (issued : ∀ id ∈ refused, scheduler.ids.Issued id.text)
    (vacant : ∀ id ∈ refused, scheduler.worker.seat id = .vacant) :
    Sound hand loose (scheduler.retireAll refused) := by
  have stands := standing_retireAll scheduler refused
  refine sound.host (retireAll_framed refused scheduler)
    (retireAll_advances scheduler refused fun _ => issued) ?_ ?_ sound.inHand
  · intro id tied
    by_cases member : id ∈ refused
    · right
      rw [stands, if_pos member, vacant id member]
      exact .gone _ _
    · left
      exact ⟨not_or.mpr ⟨tied, member⟩, (stands id).trans (if_neg member), rfl⟩
  · intro id thread token found _
    rw [stands] at found
    split at found
    case isTrue => cases found
    case isFalse => exact Or.inl found

variable [Scalar α]

/-- What giving the worker a message does to the bridge. -/
theorem posted_of_handle {touched : ThreadId → Prop} (scheduler : Scheduler (Inline α) α)
    (message : HostMessage α) {sent : List (WorkerMessage α)} {worker : ScriptWorker α}
    (handled : scheduler.worker.handle scheduler.bridge.transport.moment message = (worker, sent))
    (moves : scheduler.worker.Moves touched sent worker) (silent : replies sent = []) :
    Posted touched scheduler sent
      { scheduler with bridge := (scheduler.bridge.post message).2 } := by
  have sends : scheduler.bridge.transport.send message =
      ⟨worker, scheduler.bridge.transport.outbox ++ sent, scheduler.bridge.transport.moment⟩ := by
    unfold Inline.send
    rw [show scheduler.bridge.transport.worker = scheduler.worker from rfl, handled]
  refine ⟨rfl, rfl, ?_, ?_, silent⟩
  · rw [Bridge.post_inline, sends]
    exact moves
  · rw [Bridge.post_inline, sends]
    exact (List.append_assoc ..).symm

/-- The worker is told when threads were ended. -/
theorem tellStopped_posted (scheduler : Scheduler (Inline α) α) {ids : List ThreadId}
    (somebody : ids ≠ []) :
    Posted (· ∈ ids) scheduler (scheduler.worker.stopThreads ids).2 (scheduler.tellStopped ids) ∧
      (scheduler.tellStopped ids).worker = (scheduler.worker.stopThreads ids).1 := by
  have tells : scheduler.tellStopped ids =
      { scheduler with bridge := (scheduler.bridge.post (.stopThreads ids)).2 } := by
    unfold Scheduler.tellStopped Bridge.stopThreads
    rw [if_neg somebody]
  rw [tells]
  exact ⟨posted_of_handle scheduler (.stopThreads ids) rfl
    (ScriptWorker.stopThreads_moves scheduler.worker ids)
    (ScriptWorker.replies_stopThreads scheduler.worker ids), rfl⟩

/-- When nobody was stopped the worker is told nothing. -/
theorem tellStopped_nobody (scheduler : Scheduler (Inline α) α) :
    scheduler.tellStopped [] = scheduler := rfl

/-- Threads whose end the worker is told of fit again. -/
theorem Sound.tellStopped {ids : List ThreadId}
    (sound : Sound hand (fun id => loose id ∨ id ∈ ids) scheduler)
    (gone : ∀ id ∈ ids, ¬ loose id → scheduler.standing id = none) :
    Sound hand loose (scheduler.tellStopped ids) := by
  by_cases nobody : ids = []
  · subst nobody
    rw [tellStopped_nobody]
    refine sound.loosen fun id untied => untied.resolve_right ?_
    exact List.not_mem_nil
  · obtain ⟨posted, worker⟩ := tellStopped_posted scheduler nobody
    have seats := ScriptWorker.stopThreads_seat scheduler.worker ids
    refine sound.post posted (Or.inl rfl) ?_ ?_
    · intro id told
      exact absurd (seats id).2 told
    · intro id tied
      by_cases member : id ∈ ids
      · right
        rw [gone id member tied, worker, (seats id).1, if_pos member]
        exact .gone _ _
      · left
        exact ⟨member, not_or.mpr ⟨tied, member⟩, rfl⟩

/-- Telling the worker of ended threads gives nobody a seat and says nothing. -/
theorem tellStopped_heard (scheduler : Scheduler (Inline α) α) (ids : List ThreadId)
    {id : ThreadId} (vacant : scheduler.worker.seat id = .vacant) :
    (scheduler.tellStopped ids).worker.seat id = .vacant ∧
      about id (scheduler.tellStopped ids).queue = about id scheduler.queue := by
  by_cases nobody : ids = []
  · subst nobody
    exact ⟨vacant, rfl⟩
  · obtain ⟨posted, worker⟩ := tellStopped_posted scheduler nobody
    obtain ⟨seat, silent⟩ := ScriptWorker.stopThreads_seat scheduler.worker ids id
    constructor
    · rw [worker, seat, vacant, ite_self]
    · rw [posted.queue, about_append, silent, List.append_nil]

/-- Retiring threads and telling the worker. -/
theorem Sound.dismiss (sound : Sound hand loose scheduler) {ids : List ThreadId}
    (issued : ∀ id ∈ ids, scheduler.ids.Issued id.text) :
    Sound hand loose ((scheduler.retireAll ids).tellStopped ids) := by
  refine (sound.retireAll issued).tellStopped fun id member _ => ?_
  rw [standing_retireAll, if_pos member]

/-- Ending a thread on both sides. -/
theorem Sound.stopThread (sound : Sound hand loose scheduler) (id : ThreadId) :
    Sound hand loose (scheduler.stopThread id).2 := by
  cases found : scheduler.threads.find? id with
  | none =>
    rw [Scheduler.stopThread, endThread_missing found]
    exact sound
  | some thread =>
    have ended := endThread_found found
    have framed : Framed scheduler ((scheduler.endThread id).2.retire id) := by
      rw [ended]
      exact ⟨rfl, rfl, rfl, rfl⟩
    have gone : ∀ other, ((scheduler.endThread id).2.retire id).standing other =
        if other = id then none else scheduler.standing other := by
      intro other
      rw [standing_finish rfl other, ended]
      split
      case isTrue => rfl
      case isFalse different => rw [standing_finish rfl other, if_neg different]
    rw [stopThread_found found]
    refine Sound.tellStopped (sound.host framed (endRetire_advances found) ?_ ?_ sound.inHand) ?_
    · intro other tied
      rw [not_or, List.mem_singleton] at tied
      exact Or.inl ⟨tied.1, (gone other).trans (if_neg tied.2), rfl⟩
    · intro other found token stands _
      rw [gone] at stands
      split at stands
      case isTrue => cases stands
      case isFalse => exact Or.inl stands
    · intro other member _
      rw [gone, if_pos (List.mem_singleton.mp member)]

/-- When nobody stands and the worker forgets everybody, all fit. -/
theorem Sound.halt (sound : Sound hand loose scheduler) (gone : ∀ id, scheduler.standing id = none)
    (tight : ThreadId → Prop) :
    Sound hand tight { scheduler with bridge := (scheduler.bridge.post .stopAll).2 } := by
  have posted := posted_of_handle scheduler .stopAll rfl
    (ScriptWorker.halt_moves scheduler.worker) (ScriptWorker.replies_halt scheduler.worker)
  have seats := ScriptWorker.halt_seat scheduler.worker
  refine sound.post posted (Or.inl rfl) ?_ ?_
  · intro id told
    exact absurd (seats id).2 told
  · intro id _
    right
    rw [gone id]
    exact .gone _ _

/-- Behind a stop of everything nobody stands and nobody has a seat. -/
theorem Sound.stopAll (sound : Sound hand loose scheduler) (tight : ThreadId → Prop) :
    Sound hand tight scheduler.stopAll := by
  unfold Scheduler.stopAll
  dsimp only
  have announced := sound.quiet (Quiet.ofEmit scheduler .projectStopAll)
  generalize scheduler.emit .projectStopAll = announcing at announced
  have cleared := announced.quiet (Quiet.ofStage announcing (.onStopAll _))
  generalize { announcing with stage := announcing.stage.onStopAll } = clearing at cleared
  have quiet := (disposeClones_mild clearing.endEveryThread).toQuiet
  have emptied := cleared.endEveryThread.quiet quiet
  have gone : ∀ id, clearing.endEveryThread.disposeClones.standing id = none := fun id =>
    (standing_congr quiet.threads id).trans (standing_endEveryThread clearing id)
  generalize clearing.endEveryThread.disposeClones = emptying at emptied gone
  have redrawn : Quiet emptying { emptying with
      returns := .empty
      stage := emptying.stage.requestRedraw } :=
    ⟨rfl, rfl, rfl, rfl, rfl, rfl, .refl _, .same rfl rfl,
      fun _ _ known => known⟩
  exact (emptied.quiet redrawn).halt gone tight

/-- The worker's answer ties the threads that were begun: those that it starts have
arrived, and those that it refuses are retired. -/
theorem Sound.requestStarts {starts : List ThreadStart}
    (sound : Sound hand (fun id => loose id ∨ id ∈ starts.map ThreadStart.thread) scheduler)
    (distinct : (starts.map ThreadStart.thread).Nodup)
    (ready : ∀ id ∈ starts.map ThreadStart.thread, Ready hand scheduler id) (hat : String)
    (option : Option String) :
    Sound hand loose (scheduler.requestStarts hat option starts).2 := by
  have asked := Bridge.startHats_inline sound.patient sound.unaskedOutbox hat option starts
  unfold Scheduler.requestStarts
  rw [asked]
  dsimp only
  rw [show scheduler.bridge.transport.worker = scheduler.worker from rfl]
  generalize scheduler.bridge.transport.moment = now
  have silent : ∀ id, about id ((scheduler.worker.start starts).2.2 ++
      (scheduler.worker.launch now starts).2) =
        about id (scheduler.worker.launch now starts).2 := by
    intro id
    rw [about_append, ScriptWorker.about_start_notice, List.nil_append]
  have moves := (ScriptWorker.launch_moves scheduler.worker now starts).retell silent
  have kept : ((scheduler.worker.admitted starts).map ThreadStart.thread).Sublist
      (starts.map ThreadStart.thread) := List.filter_sublist.map ThreadStart.thread
  have arrives : ∀ id ∈ (scheduler.worker.admitted starts).map ThreadStart.thread,
      ScriptWorker.Arrived id ((scheduler.worker.launch now starts).1.seat id)
        (about id ((scheduler.worker.start starts).2.2 ++
          (scheduler.worker.launch now starts).2)) := by
    intro id member
    have vacant := (ready id (kept.subset member)).vacant
    obtain ⟨start, admitted, rfl⟩ := List.mem_map.mp member
    obtain ⟨token, -, arrival⟩ := ScriptWorker.launch_seat sound.numbered now
      (distinct.sublist kept) admitted vacant
    obtain ⟨seat, told⟩ := Prod.mk.inj arrival
    rw [silent, seat, told]
    exact ScriptWorker.arrive_arrived ..
  generalize (scheduler.worker.admitted starts).map ThreadStart.thread = accepted
    at moves kept arrives
  generalize settled : ({ scheduler with bridge := _ } : Scheduler (Inline α) α) = settling
  have posted : Posted (· ∈ accepted) scheduler ((scheduler.worker.start starts).2.2 ++
      (scheduler.worker.launch now starts).2) settling := by
    rw [← settled]
    refine ⟨rfl, rfl, moves, ?_, ?_⟩
    · simp only [queue, List.append_assoc]
    · rw [replies_append, ScriptWorker.replies_start, ScriptWorker.launch,
        ScriptWorker.replies_advanceAll, List.append_nil]
  have same : settling.ids = scheduler.ids := by rw [← settled]
  refine Sound.refuse (Sound.arrive (sound.loosen ?_) posted ?_ ?_) ?_ ?_
  · rintro id (untied | member)
    · exact Or.inl (Or.inl untied)
    · by_cases admitted : id ∈ accepted
      · exact Or.inr admitted
      · exact Or.inl (Or.inr (List.mem_filter.mpr ⟨member, by simpa using admitted⟩))
  · exact fun id member => ready id (kept.subset member)
  · intro id member
    rw [← settled]
    exact arrives id member
  · intro id member
    rw [same]
    exact (ready id (List.mem_filter.mp member).1).issued
  · intro id member
    obtain ⟨begun, refused⟩ := List.mem_filter.mp member
    rw [(posted.moves.spared id (by simpa using refused)).1]
    exact (ready id begun).vacant

/-- Starting the scripts of a hat keeps both sides in agreement. -/
theorem Sound.startHats (sound : Sound hand tight scheduler) (hat : String)
    (filter : HatFilter) : Sound hand tight (scheduler.startHats hat filter).2 := by
  unfold Scheduler.startHats
  split
  case h_1 => exact sound
  case h_2 restarting _ =>
    have framed := beginAll_framed hat restarting (scheduler.hatCandidates hat filter) scheduler
    have begins := beginAll_begins hat restarting (scheduler.hatCandidates hat filter) scheduler
    have begun := beginAll_begun hat restarting
      (hatCandidates_single sound.keyed hat filter) sound.orderly
    generalize beginAll hat restarting scheduler (scheduler.hatCandidates hat filter) = result
      at framed begins begun
    obtain ⟨⟨starts, replaced⟩, beginning⟩ := result
    dsimp only at framed begins begun ⊢
    have ready : ∀ id ∈ starts.map ThreadStart.thread,
        Ready hand (beginning.tellStopped replaced) id := by
      intro id member
      obtain ⟨start, inside, rfl⟩ := List.mem_map.mp member
      obtain ⟨vacant, unheard⟩ := sound.unissued start.thread (begun.fresh start inside)
      obtain ⟨seat, told⟩ := tellStopped_heard beginning replaced (framed.worker ▸ vacant)
      refine ⟨begun.rests start inside, begins.issued sound.orderly start inside, seat, ?_, ?_⟩
      · rw [told, framed.queue]
        exact unheard
      · exact sound.unhanded (begun.fresh start inside)
    have told := (sound.begun framed begins.advances begun).tellStopped
      fun id member _ => begun.ended id member
    split
    case isTrue nobody =>
      subst nobody
      exact told.loosen fun id untied => untied.resolve_right List.not_mem_nil
    case isFalse => exact told.requestStarts begun.distinct ready hat filter.option

/-- Every act of a block keeps both sides in agreement, also while a call is in hand. -/
theorem Act.sound (act : Act before after) (sound : Sound hand tight before) :
    Sound hand tight after := by
  cases act with
  | quiet quiet => exact sound.quiet quiet
  | startHats hat filter => exact sound.startHats hat filter
  | dismiss target chosen =>
    refine sound.dismiss fun id member => ?_
    exact activeThreadsOn_issued sound.orderly (List.mem_filter.mp member).1
  | stopThread thread => exact sound.stopThread thread
  | stopAll => exact sound.stopAll tight

/-- Host and worker agree after all acts of a block. -/
theorem Acts.sound (acts : Acts before after) (sound : Sound hand tight before) :
    Sound hand tight after := by
  induction acts with
  | refl => exact sound
  | tail _ act inductionHypothesis => exact act.sound inductionHypothesis

end Scheduler

end SpriteMachine
