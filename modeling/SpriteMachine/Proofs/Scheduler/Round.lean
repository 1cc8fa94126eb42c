import SpriteMachine.Proofs.Scheduler.Replay

/-!
# Whom a tick invokes again

The chronicle lists the invocations of a run in order. In the first half of a tick the threads
that yield have their turns one after another, in the order of the live set: each that is still
active is invoked with the top frame of its stack, once, and nobody else is invoked. Whatever
else invokes a block, in the second half of the tick and between two ticks, does it with a
frame that is new.
-/

namespace SpriteMachine

/-- The thread, target and frame of a deed that is an invocation. -/
def Deed.invocation? {α : Type} : Deed α → Option (ThreadId × TargetId × Frame α)
  | invoked thread target frame => some (thread, target, frame)
  | ended _ => none
  | retired _ => none

namespace Thread

variable {α : Type} {registry : Registry} {thread earlier later : Thread α}

/-- A thread yields only with a frame that waits. -/
def Poised (thread : Thread α) : Prop := thread.status = .yielding → thread.waiting ≠ []

/-- A thread that grows yields with the frame that was put on last. -/
theorem Grows.poised (grows : earlier.Grows registry later) (poised : earlier.Poised) :
    later.Poised := by
  induction grows with
  | same => exact poised
  | suspended onward frame waits known inductionHypothesis =>
    intro _
    rw [waiting, setStatus_frames, push, List.filter_cons_of_pos (by simpa using waits)]
    exact List.cons_ne_nil _ _

/-- What a tick makes of a thread yields only with a frame that waits. -/
theorem Resumes.poised (resumes : earlier.Resumes registry later) (poised : earlier.Poised) :
    later.Poised := by
  rcases resumes with grows | ⟨yielding, grows⟩
  · exact grows.poised poised
  · refine grows.poised fun still => ?_
    have running : earlier.woken.status = .running := by
      have awake : (earlier.setStatus .running).status = .running := by
        rw [setStatus, isDone, yielding]
        rfl
      rw [woken]
      unfold popBlock
      split <;> exact awake
    rw [running] at still
    cases still

/-- A thread that rests does not yield. -/
theorem Rests.poised (rests : thread.Rests) : thread.Poised := by
  intro yielding
  rw [rests.1] at yielding
  cases yielding

end Thread

namespace Scheduler

variable {τ α : Type} {before after taken scheduler : Scheduler τ α} {id : ThreadId}

/-- The invocations so far, in order. -/
def invocations (scheduler : Scheduler τ α) : List (ThreadId × TargetId × Frame α) :=
  scheduler.chronicle.reverse.filterMap Deed.invocation?

/-- Further invocations all of which are made with a new frame. -/
def InvokesAnew (before after : Scheduler τ α) : Prop :=
  ∃ recent, after.invocations = before.invocations ++ recent ∧
    ∀ entry ∈ recent, entry.2.2.isFirstRun = true

section Recording

/-- Where nothing more is invoked, nothing is invoked again. -/
theorem InvokesAnew.of_eq (same : after.invocations = before.invocations) :
    InvokesAnew before after :=
  ⟨[], by rw [same, List.append_nil], fun _ none => by cases none⟩

/-- Over two stretches without an invocation made again there is none. -/
theorem InvokesAnew.trans {middle : Scheduler τ α} (early : InvokesAnew before middle)
    (late : InvokesAnew middle after) : InvokesAnew before after := by
  obtain ⟨first, grown, anew⟩ := early
  obtain ⟨second, grownLater, anewLater⟩ := late
  refine ⟨first ++ second, by rw [grownLater, grown, List.append_assoc], fun entry member => ?_⟩
  rcases List.mem_append.mp member with here | there
  · exact anew entry here
  · exact anewLater entry there

/-- Only the chronicle tells what was invoked. -/
theorem invocations_congr (same : after.chronicle = before.chronicle) :
    after.invocations = before.invocations := by
  rw [invocations, same, invocations]

/-- Who is silent adds no invocation. -/
theorem Hushed.invocations (hushed : Hushed before after) :
    after.invocations = before.invocations := by
  obtain ⟨recent, grown, silent⟩ := hushed.chronicle
  have none : recent.reverse.filterMap Deed.invocation? = [] := by
    rw [List.filterMap_eq_nil_iff]
    intro deed member
    cases deed with
    | invoked thread target frame =>
      have listed := List.mem_reverse.mp member
      exact absurd ⟨target, frame, rfl⟩ (silent _ listed thread)
    | ended thread => rfl
    | retired thread => rfl
  rw [Scheduler.invocations, grown, List.reverse_append, List.filterMap_append, none,
    List.append_nil, Scheduler.invocations]

variable [Scalar α] [Transport τ α]

/-- An invocation is one. -/
theorem invoke_invocations (scheduler : Scheduler τ α) (id : ThreadId) (target : TargetId)
    (block : Block) (frame : Frame α) :
    (scheduler.invoke id target block frame).2.invocations =
      scheduler.invocations ++ [(id, target, frame)] := by
  have works := Block.run_works block frame.args
    ⟨scheduler.noteInvocation id target frame, id, target, frame, false⟩
  have noted : (scheduler.noteInvocation id target frame).invocations =
      scheduler.invocations ++ [(id, target, frame)] := by
    simp [invocations, noteInvocation, Deed.invocation?]
  rw [← noted, ← works.acts.strokes.hushed.invocations]
  generalize ran : block.run frame.args
    ⟨scheduler.noteInvocation id target frame, id, target, frame, false⟩ = outcome
  obtain ⟨result, left⟩ := outcome
  rcases invoke_ends ran with ⟨value, -, -, same⟩ | ⟨bridge, results, same⟩
  · exact invocations_congr (same ▸ rfl)
  · exact invocations_congr (same ▸ rfl)

/-- A call is invoked with a new frame. -/
theorem call_anew (scheduler : Scheduler τ α) (id : ThreadId) (opcode : String) (args : Args α)
    (token : Option Token) : InvokesAnew scheduler (scheduler.call id opcode args token).2 := by
  rcases call_forms scheduler id opcode args token with
    ⟨fault, -, failed⟩ | ⟨thread, block, -, -, -, calls⟩
  · rw [failed]
    exact .of_eq rfl
  · rw [calls]
    refine ⟨_, invoke_invocations scheduler id thread.target block _, fun entry member => ?_⟩
    rw [List.mem_singleton.mp member]
    rfl

/-- Between two ticks blocks are invoked with new frames only. -/
theorem perform_anew (scheduler : Scheduler τ α) {operation : Operation τ α}
    (between : operation ≠ .step) : InvokesAnew scheduler (scheduler.perform operation) := by
  by_cases executes : ∃ id opcode args token, operation = .execute id opcode args token
  · obtain ⟨id, opcode, args, token, rfl⟩ := executes
    exact call_anew scheduler id opcode args token
  · refine .of_eq (perform_idles scheduler between ?_).toHushed.invocations
    intro id opcode args token same
    exact executes ⟨id, opcode, args, token, same⟩

/-- So it is when a message is dealt with. -/
theorem handleMessage_anew (scheduler : Scheduler τ α) (bridge : Bridge τ α)
    (message : WorkerMessage α) (report : StepReport) :
    InvokesAnew scheduler
      (handleMessage { scheduler with bridge := bridge } report message).2 := by
  by_cases calls : ∃ target caller opcode args token,
      message = .call target caller opcode args token
  · obtain ⟨target, caller, opcode, args, token, rfl⟩ := calls
    have called : InvokesAnew scheduler
        (call { scheduler with bridge := bridge } caller opcode args (some token)).2 :=
      call_anew { scheduler with bridge := bridge } caller opcode args (some token)
    change InvokesAnew scheduler (handleCall _ _ _ _ _ _).2
    unfold handleCall
    generalize call { scheduler with bridge := bridge } caller opcode args (some token) = result
      at called
    obtain ⟨outcome, left⟩ := result
    cases outcome with
    | ok outcome => exact called
    | error fault =>
      dsimp only
      split
      case isTrue => exact called.trans (.of_eq rfl)
      case isFalse => exact called
  · refine .of_eq (handleMessage_idles bridge ?_ report).1.toHushed.invocations
    intro target caller opcode args token same
    exact calls ⟨target, caller, opcode, args, token, same⟩

/-- Handling the messages of a tick makes no invocation again. -/
theorem drain_anew (budget : Nat) (scheduler : Scheduler τ α) (report : StepReport) :
    InvokesAnew scheduler (drain budget scheduler report).2 := by
  induction budget generalizing scheduler report with
  | zero => exact .of_eq rfl
  | succ budget inductionHypothesis =>
    unfold drain
    split
    case h_1 => exact .of_eq rfl
    case h_2 => exact .of_eq rfl
    case h_3 message bridge received =>
      exact (handleMessage_anew scheduler bridge message _).trans (inductionHypothesis _ _)

end Recording

section Resuming

variable [Scalar α] [Transport τ α]

/-- Threads whose turn is to come: they are known, and each that is active yields with a frame
that waits. -/
structure Queued (scheduler : Scheduler τ α) (ids : List ThreadId) : Prop where
  once : ids.Nodup
  issued : ∀ id ∈ ids, scheduler.ids.Issued id.text
  ready : ∀ id ∈ ids, ∀ thread, scheduler.standing id = some thread →
    thread.status = .yielding ∧ thread.waiting ≠ []

omit [Scalar α] [Transport τ α] in
/-- Behind the first turn the others are still queued. -/
theorem Queued.tail {ids : List ThreadId} (queued : scheduler.Queued (id :: ids)) :
    scheduler.Queued ids where
  once := (List.nodup_cons.mp queued.once).2
  issued other member := queued.issued other (List.mem_cons_of_mem _ member)
  ready other member := queued.ready other (List.mem_cons_of_mem _ member)

/-- Nobody is invoked for a thread that is not active. -/
theorem resume_of_ended (report : StepReport) (ended : scheduler.standing id = none) :
    (scheduler.resume report id).2 = scheduler := by
  unfold resume
  cases found : scheduler.threads.find? id with
  | none => rfl
  | some thread =>
    have done : thread.isDone = true := by
      rw [standing, found, Option.filter_some] at ended
      by_contra active
      have lives : thread.isActive = true := by simpa [Thread.isActive] using active
      rw [if_pos lives] at ended
      cases ended
    have status : thread.status ≠ .yielding := by
      intro yielding
      rw [Thread.isDone, yielding] at done
      cases done
    dsimp only
    rw [if_pos status]

/-- A thread that has its turn is invoked if it is active. -/
theorem resume_invocations (piled : Piled scheduler) (report : StepReport) {ids : List ThreadId}
    (queued : scheduler.Queued (id :: ids)) :
    (scheduler.isLive id = false ∧
      (scheduler.resume report id).2.invocations = scheduler.invocations) ∨
    ∃ thread frame, scheduler.standing id = some thread ∧ thread.waiting.head? = some frame ∧
      (scheduler.resume report id).2.invocations =
        scheduler.invocations ++ [(id, thread.target, frame)] := by
  rw [isLive_eq_standing]
  cases stands : scheduler.standing id with
  | none => exact Or.inl ⟨rfl, by rw [resume_of_ended report stands]⟩
  | some thread =>
    obtain ⟨yielding, waits⟩ := queued.ready id List.mem_cons_self thread stands
    obtain ⟨frame, others, shape⟩ := List.exists_cons_of_ne_nil waits
    have top : thread.waiting.head? = some frame := by
      rw [shape]
      rfl
    obtain ⟨block, taken, -, chronicle, resumes⟩ :=
      resume_takesUp report stands yielding (piled.layered id thread stands) top
    refine Or.inr ⟨thread, frame, rfl, top, ?_⟩
    rw [resumes, invoke_invocations, invocations_congr chronicle]

/-- A turn leaves the threads behind it as they are, or ends them. -/
theorem resume_standing (piled : Piled scheduler) (report : StepReport) {ids : List ThreadId}
    (queued : scheduler.Queued (id :: ids)) {other : ThreadId} (member : other ∈ ids)
    {thread : Thread α} (stands : (scheduler.resume report id).2.standing other = some thread) :
    scheduler.standing other = some thread := by
  have spared : other ≠ id := by
    rintro rfl
    exact (List.nodup_cons.mp queued.once).1 member
  obtain ⟨earlier, rfl, stood | ⟨fresh, -⟩⟩ :=
    (resume_spares scheduler report spared).thread piled.orderly.distinct thread stands
  · exact stood
  · exact absurd (queued.issued other (List.mem_cons_of_mem _ member)) fresh

/-- The turn of the first thread leaves the others queued. -/
theorem Queued.resume {ids : List ThreadId} (queued : scheduler.Queued (id :: ids))
    (piled : Piled scheduler) (report : StepReport) :
    (scheduler.resume report id).2.Queued ids where
  once := queued.tail.once
  issued other member :=
    (resume_advances scheduler report id piled.orderly).2.ids.issued_of
      (queued.tail.issued other member)
  ready other member thread stands :=
    queued.tail.ready other member thread (resume_standing piled report queued member stands)

/-- The scheduler when a thread of several has its turn. -/
def atTurn (scheduler : Scheduler τ α) (report : StepReport) (ids : List ThreadId)
    (id : ThreadId) : Scheduler τ α :=
  (scheduler.resumeAll report (ids.takeWhile (· ≠ id))).2

/-- The first of several threads has its turn at once. -/
theorem atTurn_first (scheduler : Scheduler τ α) (report : StepReport) (rest : List ThreadId) :
    scheduler.atTurn report (id :: rest) id = scheduler := by
  simp [atTurn, resumeAll]

/-- The others have their turns behind the first one. -/
theorem atTurn_later (report : StepReport) {rest : List ThreadId} {other : ThreadId}
    (different : id ≠ other) :
    scheduler.atTurn report (id :: rest) other =
      (scheduler.resume report id).2.atTurn (scheduler.resume report id).1 rest other := by
  simp [atTurn, resumeAll, different]

/-- Every thread that is active when it has its turn is invoked once, in their order, with the
top frame that it had before. -/
theorem resumeAll_invocations (piled : Piled scheduler) (report : StepReport)
    {ids : List ThreadId} (queued : scheduler.Queued ids) :
    ∃ recent, (scheduler.resumeAll report ids).2.invocations = scheduler.invocations ++ recent ∧
      recent.map Prod.fst = ids.filter (fun id => (scheduler.atTurn report ids id).isLive id) ∧
      ∀ entry ∈ recent, ∃ thread, scheduler.standing entry.1 = some thread ∧
        thread.target = entry.2.1 ∧ thread.waiting.head? = some entry.2.2 := by
  induction ids generalizing scheduler report with
  | nil => exact ⟨[], by simp [resumeAll], rfl, fun _ none => by cases none⟩
  | cons id rest inductionHypothesis =>
    have turn : Turn (fun _ _ => True) scheduler (scheduler.resume report id).2 :=
      .phase (.resume scheduler report id)
    obtain ⟨recent, grown, names, entries⟩ := inductionHypothesis (turn.piled piled)
      (scheduler.resume report id).1 (queued.resume piled report)
    have later : rest.filter (fun other =>
          (scheduler.atTurn report (id :: rest) other).isLive other) =
        recent.map Prod.fst := by
      rw [names]
      refine List.filter_congr fun other member => ?_
      have different : id ≠ other := by
        rintro rfl
        exact (List.nodup_cons.mp queued.once).1 member
      rw [atTurn_later report different]
    have stood : ∀ entry ∈ recent, ∃ thread, scheduler.standing entry.1 = some thread ∧
        thread.target = entry.2.1 ∧ thread.waiting.head? = some entry.2.2 := by
      intro entry member
      obtain ⟨thread, stands, aim, top⟩ := entries entry member
      have listed : entry.1 ∈ rest := by
        have named : entry.1 ∈ recent.map Prod.fst := List.mem_map_of_mem member
        rw [names] at named
        exact (List.mem_filter.mp named).1
      exact ⟨thread, resume_standing piled report queued listed stands, aim, top⟩
    rcases resume_invocations piled report queued with
      ⟨ended, same⟩ | ⟨thread, frame, stands, top, same⟩
    · refine ⟨recent, ?_, ?_, stood⟩
      · rw [resumeAll]
        exact grown.trans (by rw [same])
      · rw [List.filter_cons, atTurn_first, ended, later]
        rfl
    · have lives : scheduler.isLive id = true := by
        rw [isLive_eq_standing, stands]
        rfl
      refine ⟨(id, thread.target, frame) :: recent, ?_, ?_, ?_⟩
      · rw [resumeAll]
        exact grown.trans (by rw [same, List.append_assoc, List.singleton_append])
      · rw [List.filter_cons, atTurn_first, lives, later]
        rfl
      · intro entry member
        rcases List.mem_cons.mp member with rfl | behind
        · exact ⟨thread, stands, rfl, top⟩
        · exact stood entry behind

end Resuming

section Ticking

variable [Scalar α] [Transport τ α]

omit [Scalar α] [Transport τ α] in
/-- A frame is on top of those that wait when it is on top of the stack. -/
theorem top_of_waiting {registry : Registry} {thread : Thread α} {frame : Frame α}
    (layered : thread.Layered registry) (top : thread.waiting.head? = some frame) :
    thread.frames.head? = some frame ∧ frame.isFirstRun = false := by
  have waits : frame ∈ thread.waiting := List.mem_of_mem_head? top
  constructor
  · rw [layered.waiting_eq] at top
    cases stack : thread.frames with
    | nil => simp [stack] at top
    | cons first rest =>
      cases rest with
      | nil => simp [stack] at top
      | cons second others => simpa [stack] using top
  · have state : frame.state = .waiting := by simpa using (List.mem_filter.mp waits).2
    rw [Frame.isFirstRun, state]
    rfl

/-- A thread yields only with a frame that waits, in every run. -/
theorem run_poised (piled : Piled scheduler)
    (poised : ∀ id thread, scheduler.standing id = some thread → thread.Poised)
    (operations : List (Operation τ α)) {id : ThreadId} {thread : Thread α}
    (stands : (scheduler.run operations).standing id = some thread) : thread.Poised := by
  induction operations using List.reverseRecOn generalizing thread with
  | nil => exact poised id thread stands
  | append_singleton rest last inductionHypothesis =>
    have before := piled.run rest
    rw [run_append] at stands
    obtain ⟨earlier, resumed, stood | ⟨-, -, rests⟩⟩ :=
      (perform_resumes before.orderly.keyed last id).thread before.orderly.distinct thread stands
    · exact resumed.poised (inductionHypothesis stood)
    · exact resumed.poised rests.poised

omit [Scalar α] [Transport τ α] in
/-- The threads that yield are listed as the live set lists them. -/
theorem yieldedThreads_eq (keyed : scheduler.Keyed) :
    scheduler.yieldedThreads = scheduler.threads.keys.filter fun id =>
      (scheduler.threads.find? id).any (·.status = .yielding) := by
  rw [yieldedThreads, OrderedMap.values, OrderedMap.keys, List.filter_map, List.map_map,
    List.filter_map]
  have found : ∀ entry ∈ scheduler.threads.entries,
      scheduler.threads.find? entry.1 = some entry.2 := fun entry member =>
    OrderedMap.mem_entries_iff.mp member
  have same : scheduler.threads.entries.filter
        ((fun thread => decide (thread.status = .yielding)) ∘ Prod.snd) =
      scheduler.threads.entries.filter
        ((fun id => (scheduler.threads.find? id).any (·.status = .yielding)) ∘ Prod.fst) := by
    refine List.filter_congr fun entry member => ?_
    simp [found entry member]
  rw [← same]
  refine List.map_congr_left fun entry member => ?_
  exact keyed entry.1 entry.2 (found entry (List.mem_of_mem_filter member))

/-- The scheduler when the turns of a tick begin. -/
def swept (scheduler : Scheduler τ α) : Scheduler τ α := scheduler.beginTick.sweep.2

/-- The report of a tick when its turns begin. -/
def sweptReport (scheduler : Scheduler τ α) : StepReport :=
  ⟨scheduler.swept.stats.ticks, scheduler.stage.takeRedraw.1, scheduler.beginTick.sweep.1,
    0, 0, [], []⟩

/-- Behind the sweep a tick resumes those that yield, in order. -/
theorem resumeTick_eq (scheduler : Scheduler τ α) :
    scheduler.resumeTick = scheduler.swept.resumeAll scheduler.sweptReport
      scheduler.swept.yieldedThreads := rfl

/-- Whom a tick invokes again, and that nothing else invokes a call again. -/
structure ResumesFairly (scheduler : Scheduler τ α) : Prop where
  /-- The turns go in the order of the live set, over the threads that yield. -/
  ordered : scheduler.swept.yieldedThreads = scheduler.swept.threads.keys.filter fun id =>
    (scheduler.swept.threads.find? id).any (·.status = .yielding)
  once : scheduler.swept.yieldedThreads.Nodup
  /-- Who is active when its turn comes is invoked with the top frame that it had when the
  turns began, and nobody else is invoked. -/
  resumed : ∃ recent,
    scheduler.resumeTick.2.invocations = scheduler.invocations ++ recent ∧
    recent.map Prod.fst = scheduler.swept.yieldedThreads.filter (fun id =>
      (scheduler.swept.atTurn scheduler.sweptReport scheduler.swept.yieldedThreads id).isLive id) ∧
    ∀ entry ∈ recent, entry.2.2.isFirstRun = false ∧ ∃ thread,
      scheduler.swept.standing entry.1 = some thread ∧ thread.status = .yielding ∧
        thread.target = entry.2.1 ∧ thread.frames.head? = some entry.2.2
  /-- The rest of the tick only invokes what was not invoked before. -/
  drained : InvokesAnew scheduler.resumeTick.2 scheduler.step.2
  /-- So does the host between two ticks. -/
  between : ∀ operation : Operation τ α, operation ≠ .step →
    InvokesAnew scheduler (scheduler.perform operation)

omit [Scalar α] [Transport τ α] in
/-- Those to be resumed are known, active and yielding. -/
theorem mem_yieldedThreads (keyed : scheduler.Keyed) (member : id ∈ scheduler.yieldedThreads) :
    ∃ thread, scheduler.standing id = some thread ∧ thread.status = .yielding := by
  obtain ⟨thread, listed, rfl⟩ := List.mem_map.mp member
  obtain ⟨present, status⟩ := List.mem_filter.mp listed
  have yielding : thread.status = .yielding := by simpa using status
  obtain ⟨key, found⟩ := OrderedMap.mem_values_iff.mp present
  obtain rfl := keyed key thread found
  refine ⟨thread, standing_eq_some.mpr ⟨found, ?_⟩, yielding⟩
  rw [Thread.isActive, Thread.isDone, yielding]
  rfl

/-- In a scheduler whose threads are layered and poised a tick invokes each waiting call once, and
in order. -/
theorem resumesFairly (piled : Piled scheduler)
    (poised : ∀ id thread, scheduler.standing id = some thread → thread.Poised) :
    scheduler.ResumesFairly := by
  have begins : Turn (fun _ _ => True) scheduler scheduler.beginTick := .phase (.begin scheduler)
  have sweeps : Turn (fun _ _ => True) scheduler.beginTick scheduler.swept :=
    .phase (.sweep scheduler.beginTick)
  have sweptPiled : Piled scheduler.swept := sweeps.piled (begins.piled piled)
  have keyed := sweptPiled.orderly.keyed
  have stood : ∀ id thread, scheduler.swept.standing id = some thread →
      scheduler.standing id = some thread := by
    intro id thread stands
    obtain ⟨earlier, rfl, before | ⟨fresh, -⟩⟩ :=
      (swept_stems scheduler id).thread piled.orderly.distinct thread stands
    · exact before
    · refine absurd ?_ fresh
      exact sweptPiled.orderly.issued id earlier (standing_eq_some.mp stands).1
  have queued : scheduler.swept.Queued scheduler.swept.yieldedThreads := by
    refine ⟨yieldedThreads_nodup keyed, fun id member => ?_, fun id member thread stands => ?_⟩
    · obtain ⟨thread, stands, -⟩ := mem_yieldedThreads keyed member
      exact sweptPiled.orderly.issued id thread (standing_eq_some.mp stands).1
    · obtain ⟨found, lives, yielding⟩ := mem_yieldedThreads keyed member
      obtain rfl : found = thread := Option.some.inj (lives.symm.trans stands)
      exact ⟨yielding, poised id found (stood id found stands) yielding⟩
  obtain ⟨recent, grown, names, entries⟩ :=
    resumeAll_invocations sweptPiled scheduler.sweptReport queued
  refine ⟨yieldedThreads_eq keyed, yieldedThreads_nodup keyed, ⟨recent, ?_, names, ?_⟩, ?_, ?_⟩
  · rw [resumeTick_eq, grown]
    rfl
  · intro entry member
    obtain ⟨thread, stands, aim, top⟩ := entries entry member
    have listed : entry.1 ∈ scheduler.swept.yieldedThreads := by
      have named : entry.1 ∈ recent.map Prod.fst := List.mem_map_of_mem member
      rw [names] at named
      exact (List.mem_filter.mp named).1
    obtain ⟨above, again⟩ := top_of_waiting (sweptPiled.layered _ thread stands) top
    exact ⟨again, thread, stands, (queued.ready _ listed thread stands).1, aim, above⟩
  · obtain ⟨recent, grown, anew⟩ := drain_anew scheduler.resumeTick.2.config.maxMessagesPerTick
      scheduler.resumeTick.2 scheduler.resumeTick.1
    refine ⟨recent, ?_, anew⟩
    rw [step_eq, ← grown]
    rfl
  · exact fun operation between => perform_anew scheduler between

omit [Scalar α] [Transport τ α] in
/-- To take up a block enters nothing into the chronicle. -/
theorem TakesUp.chronicle [Transport τ α] {target : TargetId} {block : Block} {frame : Frame α}
    (takes : TakesUp before id target block frame taken) : taken.chronicle = before.chronicle := by
  cases takes with
  | resumed wakes known =>
    obtain ⟨found, yielding, woken, popped, rfl⟩ := wakes
    rfl
  | called received found active known => rfl
  | executed found active known => rfl

/-- An invocation is recorded. -/
theorem Timeline.Call.recorded {allowed : Scheduler τ α → Operation τ α → Prop}
    {start : Scheduler τ α} {timeline : Timeline allowed start} (call : timeline.Call) :
    (timeline.moment (call.index + 1)).invocations =
      (timeline.moment call.index).invocations ++ [(call.thread, call.target, call.frame)] := by
  rw [call.leaves, invoke_invocations, invocations_congr call.takes.chronicle]

/-- The invocations that are recorded between two moments of a timeline are those of its calls. -/
theorem Timeline.recorded {allowed : Scheduler τ α → Operation τ α → Prop}
    {start : Scheduler τ α} (timeline : Timeline allowed start) {index : Nat}
    (within : index < timeline.length) :
    (timeline.moment (index + 1)).invocations = (timeline.moment index).invocations ∨
      ∃ call : timeline.Call, call.index = index ∧ (timeline.moment (index + 1)).invocations =
        (timeline.moment index).invocations ++ [(call.thread, call.target, call.frame)] := by
  rcases (timeline.turns index within).cases with
    ⟨id, target, block, frame, taken, takes, leaves⟩ | idles
  · let call : timeline.Call := ⟨index, within, id, target, block, frame, taken, takes, leaves⟩
    exact Or.inr ⟨call, rfl, call.recorded⟩
  · exact Or.inl idles.toHushed.invocations

/-- Whatever a host does, a call that yields is replayed verbatim and in its turn. Every run can
be seen from moment to moment; so seen, the invocations of a call follow each other on one
thread and target with the same opcode, arguments and token, each with the notes that the one
before it left; and every invocation that is recorded is one of these. Each tick invokes the
threads that yield when its turns begin, once and in the order of the live set, unless they
have ended before their turn; nothing else in a run invokes a call again. -/
theorem yielded_calls_are_replayed (config : SchedulerConfig) (registry : Registry)
    (transport : τ) (motors : Motors (LoopbackLink α) α) {ids : IdSource}
    (distinct : ids.Distinct) :
    (∀ timeline : Timeline (fun _ _ => True) (fresh config registry transport ids motors),
      timeline.Replays ∧ ∀ index < timeline.length,
        (timeline.moment (index + 1)).invocations = (timeline.moment index).invocations ∨
          ∃ call : timeline.Call, call.index = index ∧ (timeline.moment (index + 1)).invocations =
            (timeline.moment index).invocations ++ [(call.thread, call.target, call.frame)]) ∧
    ∀ operations : List (Operation τ α),
      (∃ timeline : Timeline (fun _ _ => True) (fresh config registry transport ids motors),
        timeline.moment timeline.length =
          (fresh config registry transport ids motors).run operations) ∧
      ((fresh config registry transport ids motors).run operations).ResumesFairly := by
  have piled := fresh_piled config registry transport motors distinct
  constructor
  · intro timeline
    exact ⟨timeline.replays piled fun _ => rfl, fun index within => timeline.recorded within⟩
  · intro operations
    refine ⟨Timeline.exists_of_run _ operations, ?_⟩
    refine resumesFairly (piled.run operations) fun id thread stands => ?_
    exact run_poised piled (fun _ _ none => by cases none) operations stands

/-- Two threads that are told to wait for ten seconds. -/
def twoWaits : List (Operation (Inline Rat) Rat) :=
  [.addTarget (.sprite ⟨"cat"⟩ "Cat"), .registerThread ⟨"cat"⟩ false,
    .registerThread ⟨"cat"⟩ false,
    .execute ⟨"#1"⟩ "control_wait" (.ofList [("DURATION", .int 10)]) none,
    .execute ⟨"#0"⟩ "control_wait" (.ofList [("DURATION", .int 10)]) (some ⟨"call"⟩)]

/-- Two threads that wait are resumed in order, and every call of the run is replayed. -/
theorem twoWaits_replayed :
    (standardScheduler.run twoWaits).swept.yieldedThreads = [⟨"#0"⟩, ⟨"#1"⟩] ∧
      (standardScheduler.run twoWaits).ResumesFairly ∧
      ∀ timeline : Timeline (fun _ _ => True) standardScheduler, timeline.Replays := by
  have replayed := yielded_calls_are_replayed .standard .standard (.idle none : Inline Rat)
    (.atRest .reliable Motors.defaultBackoff) IdSource.numbered_distinct
  refine ⟨by decide +kernel, (replayed.2 twoWaits).2, fun timeline => (replayed.1 timeline).1⟩

end Ticking

end Scheduler

end SpriteMachine
