import SpriteMachine.Proofs.Block.Effect
import SpriteMachine.Proofs.Inline.Hats
import SpriteMachine.Proofs.Scheduler.Progress

/-!
# A call in hand

The host takes a call into its hand when it deals with the worker's message or when it
wakes a thread that waits with the call's frame. Whatever the block does meanwhile, the
call leaves the hand by an answer, which lets the worker go on, or onto the stack of its
thread, which then waits.
-/

namespace SpriteMachine

variable {α : Type} {token : Token}

/-- What suspending makes of a resting thread. -/
def Suspended (frame : Frame α) (thread : Thread α) : Thread α :=
  { thread with
    status := .yielding
    frames := { frame with state := .waiting } :: thread.frames }

/-- A thread that rested and is suspended in a call waits under the token of the call. -/
theorem Suspended.waits {registry : Registry} {frame : Frame α} {thread : Thread α}
    (rests : thread.Rests) (called : frame.token = some token)
    (known : registry.hasBlock frame.opcode = true) :
    Waits registry (Suspended frame thread) token := by
  obtain ⟨name, frames⟩ := rests.2
  exact ⟨rfl, _, name, congrArg _ frames, called, known⟩

/-- A waiting thread is woken by taking the frame of its call. -/
theorem Waits.woken {registry : Registry} {thread : Thread α}
    (waits : Waits registry thread token) :
    ∃ frame name, (thread.setStatus .running).popBlock =
        (some frame, { thread with status := .running, frames := [.body name] }) ∧
      frame.token = some token ∧ registry.hasBlock frame.opcode = true := by
  obtain ⟨yielding, frame, name, frames, called, known⟩ := waits
  refine ⟨frame, name, ?_, called, known⟩
  have active : thread.isDone = false := by
    rw [Thread.isDone, yielding]
    rfl
  rw [Thread.setStatus, active, Thread.popBlock]
  simp only [frames]
  rfl

/-- A thread that waits does not rest. -/
theorem Waits.not_rests {registry : Registry} {thread : Thread α}
    (waits : Waits registry thread token) : ¬ thread.Rests :=
  fun rests => absurd (rests.1.symm.trans waits.1) (by decide)

/-- A thread waits for one call. -/
theorem Waits.single {registry : Registry} {thread : Thread α} {other : Token}
    (waits : Waits registry thread token) (waitsOther : Waits registry thread other) :
    other = token := by
  obtain ⟨-, frame, name, frames, called, -⟩ := waits
  obtain ⟨-, frameOther, nameOther, framesOther, calledOther, -⟩ := waitsOther
  obtain ⟨rfl, -⟩ := List.cons.inj (frames.symm.trans framesOther)
  exact Option.some.inj (calledOther.symm.trans called)

namespace Scheduler

variable {τ : Type} {scheduler before after : Scheduler (Inline α) α} {id : ThreadId}

/-- The call in hand is carried for its own thread only. -/
theorem carried_own (id : ThreadId) (token : Token) : carried (some (id, token)) id = some token :=
  if_pos rfl

/-- A call in hand carries nothing for other threads. -/
theorem carried_other {other : ThreadId} (different : other ≠ id) :
    carried (some (id, token)) other = none :=
  if_neg fun same => different same.symm

/-- Only the thread of the call in hand waits for its answer. -/
theorem Sound.owner (sound : Sound (some (id, token)) tight scheduler) {other : ThreadId}
    (owns : scheduler.worker.Owns token other) : other = id :=
  (sound.inHand id token rfl).2.2 other owns

/-- A message that concerns the owner of the call in hand and takes its thread on lays the
call down. -/
theorem Sound.lay {sent : List (WorkerMessage α)}
    (sound : Sound (some (id, token)) tight before)
    (posted : Posted (before.worker.Owns token) before sent after)
    (arrives : ∀ running deadline,
      before.worker.seat id = ⟨some running, [(token, deadline)]⟩ →
        ScriptWorker.Arrived id (after.worker.seat id) (about id sent)) :
    Sound none tight after := by
  have waits : before.worker.Owns token id → ∃ thread running deadline, thread.Rests ∧
      before.standing id = some thread ∧ about id before.queue = [] ∧
        before.worker.seat id = ⟨some running, [(token, deadline)]⟩ := by
    intro owns
    obtain ⟨deadline, member⟩ := ScriptWorker.owns_iff.mp owns
    have fits := sound.fits id fun untied => untied
    rw [carried_own] at fits
    generalize before.standing id = standing at fits
    generalize about id before.queue = queued at fits
    generalize before.worker.seat id = seat at fits member
    cases fits with
    | gone => cases member
    | held rests running _ limit => exact ⟨_, running, limit, rests, rfl, rfl, rfl⟩
    | closed => cases member
  refine sound.post posted (Or.inr rfl) ?_ ?_
  · intro other told
    have owns : before.worker.Owns token other := Classical.byContradiction fun foreign =>
      told (posted.moves.spared other foreign).2
    obtain rfl := sound.owner owns
    obtain ⟨thread, running, deadline, -, -, -, seat⟩ := waits owns
    exact ⟨(sound.inHand other token rfl).1, arrives running deadline seat⟩
  · intro other _
    by_cases owns : before.worker.Owns token other
    · obtain rfl := sound.owner owns
      obtain ⟨thread, running, deadline, rests, stands, unheard, seat⟩ := waits owns
      right
      rw [stands, unheard]
      exact fits_of_arrived rests (arrives running deadline seat)
    · by_cases same : other = id
      · subst same
        right
        obtain ⟨seat, silent⟩ := posted.moves.spared other owns
        rw [seat, silent, List.append_nil]
        have fits := sound.fits other fun untied => untied
        rw [carried_own] at fits
        generalize before.standing other = standing at fits
        generalize about other before.queue = queued at fits
        generalize known : before.worker.seat other = found at fits
        cases fits with
        | gone => exact .gone _ _
        | held rests running _ limit =>
          refine absurd (ScriptWorker.owns_iff.mpr ⟨limit, ?_⟩) owns
          rw [known]
          exact List.mem_singleton_self _
        | closed _ rests last => exact .closed _ rests last
      · left
        exact ⟨owns, fun untied => untied, (carried_other same).symm⟩

/-- The thread of the call in hand rests while it stands. -/
theorem Sound.restsInHand (sound : Sound (some (id, token)) tight scheduler) {thread : Thread α}
    (stands : scheduler.standing id = some thread) : thread.Rests := by
  have fits := sound.fits id fun untied => untied
  rw [carried_own, stands] at fits
  generalize scheduler.worker.seat id = seat at fits
  generalize about id scheduler.queue = queued at fits
  cases fits with
  | held rests => exact rests
  | closed _ rests => exact rests

/-- Only the thread of the call in hand is suspended, if it still stands. -/
theorem Sound.standing_suspend (sound : Sound (some (id, token)) tight scheduler)
    (frame : Frame α) (other : ThreadId) :
    (scheduler.suspend id frame).standing other =
      if other = id then (scheduler.standing other).map (Suspended frame)
      else scheduler.standing other := by
  have suspends : (scheduler.suspend id frame).threads = scheduler.threads.modify id fun thread =>
      if thread.isActive then (thread.push { frame with state := .waiting }).setStatus .yielding
      else thread := rfl
  have kept : ∀ thread, scheduler.threads.find? id = some thread →
      (if thread.isActive then (thread.push { frame with state := .waiting }).setStatus .yielding
        else thread).isActive = thread.isActive := by
    intro thread _
    split
    case isTrue => exact Thread.setStatus_isActive _ (by decide)
    case isFalse => rfl
  rw [standing_modify suspends kept]
  split
  case isTrue same =>
    subst same
    cases stands : scheduler.standing other with
    | none => rfl
    | some thread =>
      have rests := sound.restsInHand stands
      rw [Option.map_some, Option.map_some, if_pos rests.active, rests.suspended]
      rfl
  case isFalse => rfl

/-- A call goes onto the stack of its thread, if the thread still stands. -/
theorem Sound.suspend (sound : Sound (some (id, token)) tight scheduler) {frame : Frame α}
    (called : frame.token = some token) (known : scheduler.registry.hasBlock frame.opcode = true) :
    Sound none tight (scheduler.suspend id frame) := by
  have standing := sound.standing_suspend frame
  have framed : Framed scheduler (scheduler.suspend id frame) := ⟨rfl, rfl, rfl, rfl⟩
  refine sound.host framed (suspend_advances scheduler id frame) ?_ ?_ ?_
  · intro other tied
    by_cases same : other = id
    · subst same
      right
      rw [standing, if_pos rfl]
      have fits := sound.fits other tied
      rw [carried_own] at fits
      generalize scheduler.standing other = found at fits
      generalize about other scheduler.queue = queued at fits
      generalize scheduler.worker.seat other = seat at fits
      cases fits with
      | gone => exact .gone _ _
      | held rests running _ deadline =>
        exact .yielded (Suspended.waits rests called known) running deadline
      | closed _ rests last => exact .stranded (Suspended.waits rests called known) last
    · left
      exact ⟨tied, (standing other).trans (if_neg same), (carried_other same).symm⟩
  · intro other thread found stands waits
    rw [standing] at stands
    split at stands
    case isTrue same =>
      subst same
      obtain ⟨earlier, before, rfl⟩ := Option.map_eq_some_iff.mp stands
      obtain ⟨-, top, name, frames, top_token, -⟩ := waits
      obtain ⟨rfl, -⟩ := List.cons.inj frames
      obtain rfl := Option.some.inj (called.symm.trans top_token)
      exact Or.inr (sound.inHand other token rfl).2
    case isFalse => exact Or.inl stands
  · intro _ _ nothing
    cases nothing

/-- The scheduler behind waking a thread. -/
def wake (scheduler : Scheduler τ α) (id : ThreadId) (woken : Thread α) : Scheduler τ α :=
  { scheduler with threads := scheduler.threads.modify id fun _ => woken }

/-- A thread that is woken stands as it was woken, and all others do as before. -/
theorem standing_wake {scheduler : Scheduler τ α} {thread woken : Thread α}
    (stands : scheduler.standing id = some thread) (active : woken.isActive = true)
    (other : ThreadId) :
    (scheduler.wake id woken).standing other =
      if other = id then some woken else scheduler.standing other := by
  obtain ⟨found, activeBefore⟩ := standing_eq_some.mp stands
  have wakes : (scheduler.wake id woken).threads = scheduler.threads.modify id fun _ => woken := rfl
  rw [standing_modify wakes]
  · split
    case isTrue same => rw [same, stands, Option.map_some]
    case isFalse => rfl
  · intro present same
    obtain rfl : thread = present := Option.some.inj (found.symm.trans same)
    rw [active, activeBefore]

/-- The call of a waiting thread is taken into the hand when the thread is woken. -/
theorem Sound.take (sound : Sound none tight scheduler) {thread woken : Thread α}
    (stands : scheduler.standing id = some thread) (waits : Waits scheduler.registry thread token)
    (rests : woken.Rests) (named : woken.id = thread.id) :
    Sound (some (id, token)) tight (scheduler.wake id woken) := by
  obtain ⟨found, active⟩ := standing_eq_some.mp stands
  have kept : woken.isDone = thread.isDone := by
    simpa [Thread.isActive] using rests.active.trans active.symm
  have framed : Framed scheduler (scheduler.wake id woken) := ⟨rfl, rfl, rfl, rfl⟩
  have advances : Advances scheduler (scheduler.wake id woken) := exchange_advances found named kept
  have woke := standing_wake stands rests.active
  refine sound.host framed advances ?_ ?_ ?_
  · intro other tied
    rw [woke]
    by_cases same : other = id
    · subst same
      right
      rw [if_pos rfl, carried_own]
      have fits := sound.fits other tied
      rw [stands] at fits
      generalize about other scheduler.queue = queued at fits
      generalize scheduler.worker.seat other = seat at fits
      cases fits with
      | called restsBefore => exact absurd restsBefore waits.not_rests
      | yielded waitsBefore running deadline =>
        rw [waits.single waitsBefore]
        exact .held rests running token deadline
      | closed _ restsBefore => exact absurd restsBefore waits.not_rests
      | stranded waitsBefore last => exact .closed _ rests last
    · left
      exact ⟨tied, if_neg same, carried_other same⟩
  · intro other found next standsAfter waitsAfter
    rw [woke] at standsAfter
    split at standsAfter
    case isTrue =>
      obtain rfl := Option.some.inj standsAfter
      exact absurd rests waitsAfter.not_rests
    case isFalse => exact Or.inl standsAfter
  · intro other next same
    obtain ⟨rfl, rfl⟩ := Prod.mk.inj (Option.some.inj same)
    exact ⟨issued_of_standing sound.orderly stands, sound.frames _ thread _ stands waits⟩

/-- A thread that is found to be yielding waits with the frame of a call. -/
theorem Sound.waitsYielding (sound : Sound none tight scheduler) {thread : Thread α}
    (stands : scheduler.standing id = some thread) (yielding : thread.status = .yielding) :
    ∃ token, Waits scheduler.registry thread token := by
  have restless : ¬ thread.Rests := fun rests =>
    absurd (rests.1.symm.trans yielding) (by decide)
  have fits := sound.fits id fun untied => untied
  rw [stands] at fits
  generalize about id scheduler.queue = queued at fits
  generalize scheduler.worker.seat id = seat at fits
  cases fits with
  | called rests => exact absurd rests restless
  | yielded waits => exact ⟨_, waits⟩
  | closed _ rests => exact absurd rests restless
  | stranded waits => exact ⟨_, waits⟩

variable [Scalar α]

/-- The result of a call takes its thread to the next statement. -/
theorem Sound.postResult (sound : Sound (some (id, token)) tight scheduler) (value : Value α) :
    Sound none tight
      { scheduler with bridge := (scheduler.bridge.post (.result token value)).2 } := by
  have posted : Posted (scheduler.worker.Owns token) scheduler
      (scheduler.worker.resume scheduler.bridge.transport.moment token value).2
      { scheduler with bridge := (scheduler.bridge.post (.result token value)).2 } :=
    posted_of_handle scheduler (.result token value) rfl
      (ScriptWorker.resume_moves scheduler.worker _ token value)
      (ScriptWorker.replies_resume ..)
  refine sound.lay posted ?_
  intro running deadline seat
  obtain ⟨next, -, arrival⟩ := ScriptWorker.resume_seat sound.numbered
    scheduler.bridge.transport.moment value seat
  have arrived := ScriptWorker.arrive_arrived scheduler.worker.scripts id
    (running.answered scheduler.worker.scripts value) next
    (scheduler.worker.blockTimeout.map (scheduler.bridge.transport.moment + ·))
  rw [← arrival] at arrived
  exact arrived

/-- The failure of a call ends its thread in the worker. -/
theorem Sound.postFailure (sound : Sound (some (id, token)) tight scheduler) (reason : String) :
    Sound none tight
      { scheduler with bridge := (scheduler.bridge.post (.failure token reason)).2 } := by
  have posted : Posted (scheduler.worker.Owns token) scheduler
      (scheduler.worker.refuse token reason).2
      { scheduler with bridge := (scheduler.bridge.post (.failure token reason)).2 } :=
    posted_of_handle scheduler (.failure token reason) rfl
      (ScriptWorker.refuse_moves scheduler.worker token reason) (ScriptWorker.replies_refuse ..)
  refine sound.lay posted ?_
  intro running deadline seat
  have owns : scheduler.worker.Owns token id := by
    rw [ScriptWorker.owns_iff, seat]
    exact ⟨deadline, List.mem_singleton_self _⟩
  obtain ⟨vacant, told⟩ := ScriptWorker.refuse_seat owns reason
  rw [told]
  exact vacant ▸ .closed (Or.inr ⟨reason, rfl⟩)

/-- Answering a call posts the answer. -/
theorem answer_inline (scheduler : Scheduler (Inline α) α) (token : Token)
    (reply : Token → HostMessage α) :
    scheduler.answer (some token) reply =
      (.ok (), { scheduler with bridge := (scheduler.bridge.post (reply token)).2 }) := rfl

/-- Invoking a block for the call in hand lays the call down. -/
theorem Sound.invoke (sound : Sound (some (id, token)) tight scheduler)
    (live : scheduler.isLive id = true) (target : TargetId) (block : Block) {frame : Frame α}
    (called : frame.token = some token)
    (known : scheduler.registry.hasBlock frame.opcode = true) :
    Sound none tight (scheduler.invoke id target block frame).2 := by
  have noted : Sound (some (id, token)) tight (scheduler.noteInvocation id target frame) := by
    refine sound.host ⟨rfl, rfl, rfl, rfl⟩ (.note ⟨rfl, rfl, .refl _⟩ rfl rfl live) ?_ ?_
      sound.inHand
    · exact fun other tied => Or.inl ⟨tied, rfl, rfl⟩
    · exact fun other thread _ stands _ => Or.inl stands
  have works := Block.run_works block frame.args
    ⟨scheduler.noteInvocation id target frame, id, target, frame, false⟩
  have registry := (works.acts.advances noted.orderly).2.registry
  unfold Scheduler.invoke
  dsimp only
  split
  case h_1 fault left result =>
    rw [result] at works
    rw [called, answer_inline]
    exact (works.acts.sound noted).postFailure fault.message
  case h_2 value left result =>
    rw [result] at works registry
    have worked := works.acts.sound noted
    split
    case isTrue =>
      refine worked.suspend (works.token.trans called) ?_
      rw [registry, works.opcode]
      exact known
    case isFalse =>
      rw [called, answer_inline]
      have delivered : Quiet left.scheduler (left.scheduler.deliver id value) :=
        ⟨rfl, rfl, rfl, rfl, rfl, rfl, .refl _, .refl, fun _ _ known => known⟩
      exact (worked.quiet delivered).postResult value

/-- Resuming a thread invokes the block that it waits with. -/
theorem Sound.resume (sound : Sound none tight scheduler) (report : StepReport) (id : ThreadId) :
    Sound none tight (scheduler.resume report id).2 := by
  unfold Scheduler.resume
  split
  case h_1 => exact sound
  case h_2 thread found =>
    split
    case isTrue => exact sound
    case isFalse yields =>
      have yielding := Decidable.not_not.mp yields
      have active : thread.isActive = true := by
        rw [Thread.isActive, Thread.isDone, yielding]
        rfl
      have stands := standing_eq_some.mpr ⟨found, active⟩
      obtain ⟨token, waits⟩ := sound.waitsYielding stands yielding
      obtain ⟨frame, name, woken, called, known⟩ := waits.woken
      have rests : ({ thread with status := .running, frames := [.body name] } : Thread α).Rests :=
        ⟨rfl, name, rfl⟩
      rw [woken]
      dsimp only
      have taken := sound.take stands waits rests rfl
      generalize ({ thread with status := .running, frames := [.body name] } : Thread α) = waking
        at rests taken
      have live : (scheduler.wake id waking).isLive id = true := by
        rw [isLive_eq_standing, standing_wake stands rests.active, if_pos rfl]
        rfl
      obtain ⟨block, offered⟩ := Option.isSome_iff_exists.mp known
      have invoked := taken.invoke live thread.target block called known
      rw [← wake]
      rw [offered]
      dsimp only
      split
      case h_1 outcome left result =>
        rw [result] at invoked
        exact invoked
      case h_2 fault left result =>
        rw [result] at invoked
        exact invoked

end Scheduler

end SpriteMachine
