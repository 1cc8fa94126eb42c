import SpriteMachine.Proofs.Inline.Turn

/-!
# Ticks keep host and worker in agreement

The host takes the messages of the worker from the front of the queue. A call goes into
its hand, the last message about a thread ends the thread, and a look at the deadlines
turns calls that expired into last messages.
-/

namespace SpriteMachine

variable {α : Type}

namespace Scheduler

variable {scheduler before after : Scheduler (Inline α) α} {message : WorkerMessage α}
  {id : ThreadId} {token : Token}

/-- The host takes a message from the front of the queue. -/
structure Taken (before : Scheduler (Inline α) α) (message : WorkerMessage α)
    (after : Scheduler (Inline α) α) : Prop where
  host : after = { before with bridge := after.bridge }
  timeout : after.bridge.timeout = before.bridge.timeout
  worker : after.worker = before.worker
  queue : before.queue = message :: after.queue

/-- Taking a message keeps both sides in agreement when the thread that it is about fits
afterwards. -/
theorem Sound.pop {held : Option (ThreadId × Token)} {loose : ThreadId → Prop}
    (sound : Sound none tight before) (taken : Taken before message after)
    (fits : ∀ id, ¬ loose id →
      (message.thread? ≠ some id ∧ carried held id = none) ∨
        Fits before.registry id (carried held id) (before.standing id) (before.worker.seat id)
          (about id after.queue))
    (inHand : ∀ id token, held = some (id, token) →
      before.ids.Issued id.text ∧ before.worker.Traced id token) : Sound held loose after := by
  have host := taken.host
  have ids : after.ids = before.ids := by rw [host]
  have registry : after.registry = before.registry := by rw [host]
  have standing : ∀ id, after.standing id = before.standing id := standing_congr (by rw [host])
  have left : ∀ later, later ∈ after.queue → later ∈ before.queue := by
    intro later member
    rw [taken.queue]
    exact List.mem_cons_of_mem _ member
  refine ⟨?_, ?_, ?_, ?_, ?_, ?_, ?_, ?_, ?_, ?_, ?_⟩
  · rw [host]
    exact (bridge_advances before after.bridge sound.orderly).1
  · rw [host]
    exact sound.keyed
  · rw [host]
    exact sound.strict
  · rw [taken.timeout]
    exact sound.patient
  · rw [taken.worker]
    exact sound.numbered
  · intro id tied
    rw [registry, standing, taken.worker]
    rcases fits id tied with ⟨other, free⟩ | fits
    · have fitsBefore := sound.fits id fun untied => untied
      rw [taken.queue, about_cons_of_ne other] at fitsBefore
      rw [free]
      exact fitsBefore
    · exact fits
  · refine List.eq_nil_iff_forall_not_mem.mpr fun answered member => ?_
    obtain ⟨later, present, answers⟩ := mem_replies.mp member
    have listed := mem_replies.mpr ⟨later, left later present, answers⟩
    rw [sound.unasked] at listed
    cases listed
  · intro id told
    rw [ids]
    refine sound.known id fun nothing => told ?_
    rw [taken.queue] at nothing
    refine List.eq_nil_iff_forall_not_mem.mpr fun later member => ?_
    obtain ⟨present, named⟩ := mem_about.mp member
    have listed : later ∈ about id (message :: after.queue) :=
      mem_about.mpr ⟨List.mem_cons_of_mem _ present, named⟩
    rw [nothing] at listed
    cases listed
  · intro target id opcode args token member
    rw [taken.worker]
    exact sound.calls target id opcode args token (left _ member)
  · intro id thread token stands waits
    rw [standing] at stands
    rw [registry] at waits
    rw [taken.worker]
    exact sound.frames id thread token stands waits
  · intro id token held
    rw [ids, taken.worker]
    exact inHand id token held

/-- The host has taken the call of a thread into its hand. -/
theorem Sound.popCall {target : TargetId} {opcode : String} {args : Args α}
    (sound : Sound none tight before)
    (taken : Taken before (.call target id opcode args token) after) :
    Sound (some (id, token)) tight after := by
  have first : .call target id opcode args token ∈ before.queue := by
    rw [taken.queue]
    exact List.mem_cons_self
  refine sound.pop taken ?_ ?_
  · intro other tied
    by_cases same : other = id
    · subst same
      right
      rw [carried_own]
      have fits := sound.fits other tied
      have told : about other before.queue =
          .call target other opcode args token :: about other after.queue := by
        rw [taken.queue]
        exact about_cons_of_eq rfl _
      generalize about other after.queue = rest at told
      rw [told] at fits
      generalize before.standing other = standing at fits
      generalize before.worker.seat other = seat at fits
      cases fits with
      | gone => exact .gone _ _
      | called rests running _ deadline => exact .held rests running token deadline
      | closed _ rests last => rcases last with same | ⟨reason, same⟩ <;> cases same
      | stranded waits last => rcases last with same | ⟨reason, same⟩ <;> cases same
    · left
      exact ⟨fun named => same (Option.some.inj named).symm, carried_other same⟩
  · intro other next same
    obtain ⟨rfl, rfl⟩ := Prod.mk.inj (Option.some.inj same)
    refine ⟨sound.known id ?_, sound.calls target _ opcode args _ first⟩
    exact List.ne_nil_of_mem (mem_about.mpr ⟨first, rfl⟩)

/-- The host has taken the last message about a thread, which has no seat any more. -/
theorem Sound.popLast (sound : Sound none tight before) (taken : Taken before message after)
    (last : ScriptWorker.IsLast id message) :
    Sound none (· = id) after ∧ after.worker.seat id = .vacant := by
  have named : message.thread? = some id := by
    rcases last with rfl | ⟨reason, rfl⟩ <;> rfl
  constructor
  · refine sound.pop taken ?_ ?_
    · intro other different
      left
      rw [named]
      exact ⟨fun same => different (Option.some.inj same).symm, rfl⟩
    · intro _ _ nothing
      cases nothing
  · rw [taken.worker]
    have fits := sound.fits id fun untied => untied
    have told : about id before.queue = message :: about id after.queue := by
      rw [taken.queue]
      exact about_cons_of_eq named _
    rw [told] at fits
    generalize before.standing id = standing at fits
    generalize before.worker.seat id = seat at fits
    generalize about id after.queue = rest at fits
    cases fits with
    | gone => rfl
    | called => rcases last with same | ⟨reason, same⟩ <;> cases same
    | closed => rfl
    | stranded => rfl

/-- A message about nobody is taken without consequences. -/
theorem Sound.popOther (sound : Sound none tight before) (taken : Taken before message after)
    (nobody : message.thread? = none) : Sound none tight after := by
  refine sound.pop taken ?_ ?_
  · intro other _
    left
    rw [nobody]
    exact ⟨(Option.some_ne_none other).symm, rfl⟩
  · intro _ _ nothing
    cases nothing

/-- A loose thread without a seat fits when it stands no more. -/
theorem Sound.tie (sound : Sound none (· = id) before) (framed : Framed before after)
    (advances : Advances before after) (vacant : before.worker.seat id = .vacant)
    (gone : ∀ other, after.standing other = if other = id then none else before.standing other) :
    Sound none tight after := by
  refine sound.host framed advances ?_ ?_ sound.inHand
  · intro other _
    by_cases same : other = id
    · subst same
      right
      rw [gone, if_pos rfl, vacant]
      exact .gone _ _
    · left
      exact ⟨same, (gone other).trans (if_neg same), rfl⟩
  · intro other thread token stands _
    rw [gone] at stands
    split at stands
    case isTrue => cases stands
    case isFalse => exact Or.inl stands

/-- A name that is unknown does not stand, whatever becomes of it. -/
theorem standing_missing (absent : scheduler.threads.find? id = none) (other : ThreadId) :
    scheduler.standing other = if other = id then none else scheduler.standing other := by
  split
  case isTrue same =>
    rw [same, standing, absent]
    rfl
  case isFalse => rfl

/-- A thread whose script ended is ended, whatever is known of it. -/
theorem Sound.handleEnded (sound : Sound none (· = id) scheduler)
    (vacant : scheduler.worker.seat id = .vacant) (report : StepReport) :
    Sound none tight (scheduler.handleEnded report id).2 := by
  have advances := endThread_advances scheduler id
  rw [handleEnded_left]
  cases found : scheduler.threads.find? id with
  | none =>
    rw [endThread_missing found]
    exact sound.tie (.refl scheduler) (.refl scheduler) vacant (standing_missing found)
  | some thread =>
    rw [endThread_found found] at advances ⊢
    exact sound.tie ⟨rfl, rfl, rfl, rfl⟩ advances vacant (standing_finish rfl)

/-- A thread whose script failed is retired, if it is live. -/
theorem Sound.handleScriptError (sound : Sound none (· = id) scheduler)
    (vacant : scheduler.worker.seat id = .vacant) (report : StepReport) (reason : String) :
    Sound none tight (scheduler.handleScriptError report (some id) reason).2 := by
  have advances := handleScriptError_advances scheduler report (some id) reason
  unfold Scheduler.handleScriptError at advances ⊢
  dsimp only at advances ⊢
  rw [sound.strict, Bool.true_and] at advances ⊢
  split
  case isTrue present =>
    rw [if_pos present] at advances
    exact sound.tie ⟨rfl, rfl, rfl, rfl⟩ advances vacant (standing_finish rfl)
  case isFalse absent =>
    rw [if_neg absent] at advances
    have missing : scheduler.threads.find? id = none := by
      rw [OrderedMap.contains_eq_isSome] at absent
      simpa using absent
    exact sound.tie ⟨rfl, rfl, rfl, rfl⟩ advances vacant (standing_missing missing)

/-- A look at the deadlines when nothing is queued: the calls that expired are those of
waiting threads, whose last messages are queued now. -/
theorem Sound.poll (sound : Sound none tight scheduler) (silent : scheduler.queue = [])
    (posted : Posted (fun id => ∃ call ∈ (scheduler.worker.seat id).calls,
        ScriptWorker.isDue scheduler.bridge.transport.moment call) scheduler
      (scheduler.worker.poll scheduler.bridge.transport.moment).2 after)
    (worker : after.worker = (scheduler.worker.poll scheduler.bridge.transport.moment).1) :
    Sound none tight after := by
  have expires : ∀ id, (∃ call ∈ (scheduler.worker.seat id).calls,
      ScriptWorker.isDue scheduler.bridge.transport.moment call) →
        ∃ thread token message, scheduler.standing id = some thread ∧
          Waits scheduler.registry thread token ∧ ScriptWorker.IsLast id message ∧
            after.worker.seat id = .vacant ∧
              about id (scheduler.worker.poll scheduler.bridge.transport.moment).2 = [message] := by
    rintro id ⟨call, member, due⟩
    have fits := sound.fits id fun untied => untied
    rw [silent, about_nil] at fits
    generalize standing : scheduler.standing id = found at fits
    generalize seated : scheduler.worker.seat id = seat at fits member
    cases fits with
    | gone => cases member
    | yielded waits running deadline =>
      obtain rfl := List.mem_singleton.mp member
      obtain ⟨vacant, told⟩ := ScriptWorker.poll_seat seated due
      exact ⟨_, _, _, rfl, waits, Or.inr ⟨_, rfl⟩, by rw [worker, vacant], told⟩
  refine sound.post posted (Or.inl rfl) ?_ ?_
  · intro id told
    by_cases due : ∃ call ∈ (scheduler.worker.seat id).calls,
        ScriptWorker.isDue scheduler.bridge.transport.moment call
    · obtain ⟨thread, token, message, stands, -, last, vacant, sent⟩ := expires id due
      refine ⟨issued_of_standing sound.orderly stands, ?_⟩
      rw [vacant, sent]
      exact .closed last
    · exact absurd (posted.moves.spared id due).2 told
  · intro id tied
    by_cases due : ∃ call ∈ (scheduler.worker.seat id).calls,
        ScriptWorker.isDue scheduler.bridge.transport.moment call
    · obtain ⟨thread, token, message, stands, waits, last, vacant, sent⟩ := expires id due
      right
      rw [stands, vacant, sent, silent]
      exact .stranded waits last
    · exact Or.inl ⟨due, tied, rfl⟩

/-- The scheduler behind a look of the worker at its deadlines. -/
def refill (scheduler : Scheduler (Inline α) α) : Scheduler (Inline α) α :=
  { scheduler with
    bridge := { scheduler.bridge with transport := scheduler.bridge.transport.refill } }

/-- The worker looks at its deadlines only when nothing is queued. -/
theorem Sound.refill (sound : Sound none tight scheduler) (kept : scheduler.bridge.backlog = []) :
    Sound none tight scheduler.refill := by
  unfold Scheduler.refill Inline.refill
  split
  case isTrue empty =>
    have sent : scheduler.bridge.transport.outbox = [] := List.isEmpty_iff.mp empty
    have silent : scheduler.queue = [] := by rw [queue, kept, sent, List.append_nil]
    refine sound.poll silent ⟨rfl, rfl, ?_, ?_, ?_⟩ rfl
    · exact ScriptWorker.poll_moves scheduler.worker scheduler.bridge.transport.moment
    · rw [silent, queue, kept]
      rfl
    · exact ScriptWorker.replies_poll ..
  case isFalse => exact sound

/-- Sweeping removes threads that do not stand. -/
theorem Sound.sweep (sound : Sound none tight scheduler) : Sound none tight scheduler.sweep.2 := by
  have same : ∀ id, scheduler.sweep.2.standing id = scheduler.standing id :=
    standing_filter (fun _ thread => thread.isActive) rfl
      fun _ _ stands => (standing_eq_some.mp stands).2
  refine sound.host ⟨rfl, rfl, rfl, rfl⟩ (sweep_advances scheduler) ?_ ?_ sound.inHand
  · exact fun id tied => Or.inl ⟨tied, same id, rfl⟩
  · intro id thread token stands _
    rw [same] at stands
    exact Or.inl stands

variable [Scalar α]

/-- Dealing with the call in hand lays it down. -/
theorem Sound.handleCall (sound : Sound (some (id, token)) tight scheduler) (report : StepReport)
    (opcode : String) (args : Args α) :
    Sound none tight (scheduler.handleCall report id opcode args token).2 := by
  have failed : ∀ fault : SchedulerFault, fault.isDesync = true →
      scheduler.call id opcode args (some token) = (.error fault, scheduler) →
        Sound none tight (scheduler.handleCall report id opcode args token).2 := by
    intro fault desync called
    unfold Scheduler.handleCall
    rw [called]
    dsimp only
    rw [if_pos desync]
    exact sound.postFailure fault.message
  cases found : scheduler.threads.find? id with
  | none =>
    refine failed (.notFound id) rfl ?_
    rw [call, found]
  | some thread =>
    by_cases done : thread.isDone = true
    · refine failed (.notFound id) rfl ?_
      rw [call, found]
      exact if_pos done
    · cases offered : scheduler.registry.block? opcode with
      | none =>
        refine failed (.unknownOpcode opcode) rfl ?_
        rw [call, found]
        dsimp only
        rw [if_neg done, offered]
      | some block =>
        have known : scheduler.registry.hasBlock opcode = true := by
          rw [Registry.hasBlock, offered]
          rfl
        have live : scheduler.isLive id = true := by
          rw [isLive_of_find found]
          simpa using done
        have called : scheduler.call id opcode args (some token) =
            scheduler.invoke id thread.target block (.fresh opcode args (some token)) := by
          rw [call, found]
          dsimp only
          rw [if_neg done, offered]
        have asked : (Frame.fresh opcode args (some token)).token = some token := rfl
        have invoked := sound.invoke live thread.target block asked known
        have healthy := fun fault => @invoke_fault _ _ _ _ scheduler id thread.target block
          (.fresh opcode args (some token)) fault
        rw [← called] at invoked healthy
        unfold Scheduler.handleCall
        split
        case h_1 outcome left result =>
          rw [result] at invoked
          exact invoked
        case h_2 fault left result =>
          rw [result] at invoked healthy
          rw [if_neg (by rw [healthy fault rfl]; exact Bool.false_ne_true)]
          exact invoked

/-- Dealing with a message that was taken. -/
theorem Sound.handleMessage (sound : Sound none tight before) (taken : Taken before message after)
    (report : StepReport) : Sound none tight (after.handleMessage report message).2 := by
  cases message with
  | status status =>
    exact (sound.popOther taken rfl).quiet (.ofEmit after (.workerStatus status))
  | scriptError thread reason =>
    cases thread with
    | none =>
      have counted : Quiet after { after with
          stats := { after.stats with scriptErrors := after.stats.scriptErrors + 1 } } :=
        ⟨rfl, rfl, rfl, rfl, rfl, rfl, .refl _, .refl, fun _ _ known => known⟩
      exact (sound.popOther taken rfl).quiet counted
    | some id =>
      obtain ⟨popped, vacant⟩ := sound.popLast taken (Or.inr ⟨reason, rfl⟩)
      exact popped.handleScriptError vacant report reason
  | call target id opcode args token =>
    exact (sound.popCall taken).handleCall report opcode args
  | ended id =>
    obtain ⟨popped, vacant⟩ := sound.popLast taken (Or.inl rfl)
    exact popped.handleEnded vacant report
  | registered token refusal => exact sound.popOther taken rfl
  | started token threads => exact sound.popOther taken rfl

/-- The host takes the first message: one that it kept, or else one of the worker, which may
look at its deadlines before. -/
theorem next_forms (scheduler : Scheduler (Inline α) α) :
    (scheduler.bridge.backlog = [] ∧ scheduler.refill.queue = [] ∧
        scheduler.bridge.next = (.nothing, scheduler.refill.bridge)) ∨
      ∃ message bridge, scheduler.bridge.next = (.message message, bridge) ∧
        (Taken scheduler message { scheduler with bridge := bridge } ∨
          scheduler.bridge.backlog = [] ∧
            Taken scheduler.refill message { scheduler with bridge := bridge }) := by
  cases kept : scheduler.bridge.backlog with
  | cons message rest =>
    refine Or.inr ⟨message, { scheduler.bridge with backlog := rest }, ?_,
      Or.inl ⟨rfl, rfl, rfl, ?_⟩⟩
    · rw [Bridge.next, kept]
    · rw [queue, kept]
      rfl
  | nil =>
    have receives : scheduler.bridge.next =
        (scheduler.bridge.transport.receive.1,
          { scheduler.bridge with transport := scheduler.bridge.transport.receive.2 }) := by
      unfold Bridge.next
      split
      case h_1 message rest more =>
        rw [kept] at more
        cases more
      case h_2 => rfl
    have queue : scheduler.refill.queue = scheduler.bridge.transport.refill.outbox := by
      change scheduler.bridge.backlog ++ _ = _
      rw [kept]
      rfl
    cases sent : scheduler.bridge.transport.refill.outbox with
    | nil =>
      refine Or.inl ⟨rfl, queue.trans sent, ?_⟩
      rw [receives, Inline.receive_nil sent]
      rfl
    | cons message rest =>
      refine Or.inr ⟨message, { scheduler.refill.bridge with
        transport := { scheduler.bridge.transport.refill with outbox := rest } }, ?_,
          Or.inr ⟨rfl, rfl, rfl, rfl, ?_⟩⟩
      · rw [receives, Inline.receive_cons sent]
        rfl
      · rw [queue, sent]
        change _ = message :: (scheduler.bridge.backlog ++ rest)
        rw [kept]
        rfl

/-- What asking the bridge for a message does to both sides. -/
theorem Sound.next (sound : Sound none tight scheduler) {receipt : Receipt α}
    {bridge : Bridge (Inline α) α} (received : scheduler.bridge.next = (receipt, bridge)) :
    (receipt = .nothing ∧ Sound none tight { scheduler with bridge := bridge }) ∨
      ∃ message middle, receipt = .message message ∧ Sound none tight middle ∧
        Taken middle message { scheduler with bridge := bridge } := by
  rcases next_forms scheduler with ⟨kept, -, looked⟩ | ⟨message, left, looked, forms⟩
  · obtain ⟨rfl, rfl⟩ := Prod.mk.inj (looked.symm.trans received)
    exact Or.inl ⟨rfl, sound.refill kept⟩
  · obtain ⟨rfl, rfl⟩ := Prod.mk.inj (looked.symm.trans received)
    rcases forms with taken | ⟨kept, taken⟩
    · exact Or.inr ⟨message, scheduler, rfl, sound, taken⟩
    · exact Or.inr ⟨message, scheduler.refill, rfl, sound.refill kept, taken⟩

/-- Dealing with messages, however many. -/
theorem Sound.drain (budget : Nat) (sound : Sound none tight scheduler) (report : StepReport) :
    Sound none tight (drain budget scheduler report).2 := by
  induction budget generalizing scheduler report with
  | zero => exact sound
  | succ budget inductionHypothesis =>
    unfold Scheduler.drain
    split
    case h_1 bridge received =>
      rcases sound.next received with ⟨-, looked⟩ | ⟨message, middle, same, -⟩
      · exact looked
      · cases same
    case h_2 bridge received =>
      rcases sound.next received with ⟨same, -⟩ | ⟨message, middle, same, -⟩ <;> cases same
    case h_3 message bridge received =>
      rcases sound.next received with ⟨same, -⟩ | ⟨found, middle, same, agreed, taken⟩
      · cases same
      · obtain rfl := Receipt.message.inj same
        exact inductionHypothesis (agreed.handleMessage taken _) _

/-- Host and worker agree when several threads are resumed. -/
theorem Sound.resumeAll (sound : Sound none tight scheduler) (ids : List ThreadId)
    (report : StepReport) : Sound none tight (scheduler.resumeAll report ids).2 := by
  induction ids generalizing scheduler report with
  | nil => exact sound
  | cons first rest inductionHypothesis =>
    exact inductionHypothesis (sound.resume report first) _

/-- A tick keeps both sides in agreement. -/
theorem Sound.step (sound : Sound none tight scheduler) : Sound none tight scheduler.step.2 := by
  have begun : Quiet scheduler { scheduler with
      stage := scheduler.stage.takeRedraw.2
      stats := { scheduler.stats with ticks := scheduler.stats.ticks + 1 } } :=
    ⟨rfl, rfl, rfl, rfl, rfl, rfl, .refl _, .same rfl rfl,
      fun _ _ known => known⟩
  have swept := (sound.quiet begun).sweep
  unfold Scheduler.step
  dsimp only
  generalize Scheduler.sweep { scheduler with
    stage := scheduler.stage.takeRedraw.2
    stats := { scheduler.stats with ticks := scheduler.stats.ticks + 1 } } = sweeping at swept
  have resumed := swept.resumeAll sweeping.2.yieldedThreads
    ⟨sweeping.2.stats.ticks, scheduler.stage.takeRedraw.1, sweeping.1, 0, 0, [], []⟩
  generalize sweeping.2.resumeAll
    ⟨sweeping.2.stats.ticks, scheduler.stage.takeRedraw.1, sweeping.1, 0, 0, [], []⟩
    sweeping.2.yieldedThreads = resuming at resumed
  have drained := resumed.drain resuming.2.config.maxMessagesPerTick resuming.1
  generalize Scheduler.drain resuming.2.config.maxMessagesPerTick resuming.2 resuming.1 = draining
    at drained
  exact drained.quiet
    ⟨rfl, rfl, rfl, rfl, rfl, rfl, .refl _, .same rfl rfl,
      fun _ _ known => known⟩

end Scheduler

end SpriteMachine
