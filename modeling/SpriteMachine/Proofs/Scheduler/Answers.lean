import SpriteMachine.Proofs.Scheduler.Ledger

/-!
# Every call is answered once

The ledger is kept by every stroke, by every beat and by every operation of a host, whatever
the backend delivers. So no call is answered twice, and a call that was handed out is
answered, or one frame of its thread waits for its block, or its thread is gone.
-/

namespace SpriteMachine

namespace Scheduler

variable {τ α : Type}

/-- Behind quitting every call is in its place: the threads are gone, and what they asked is open
still. -/
theorem Ledger.quit {scheduler : Scheduler (Tap τ α) α} (ledger : Ledger [] scheduler) :
    Ledger [] scheduler.quit := by
  refine ledger.stirs ⟨rfl, rfl, .refl _, fun token => Nat.zero_le _, ?_, fun _ _ _ _ => ?_⟩
  · intro id thread found
    cases found
  · exact Or.inr (Or.inl rfl)

/-- A scheduler that has just been made was asked nothing. -/
theorem fresh_ledger [Scalar α] (config : SchedulerConfig) (registry : Registry) (behind : Option τ)
    (ids : IdSource) (motors : Motors (LoopbackLink α) α) :
    Ledger [] (fresh config registry (Tap.fresh behind : Tap τ α) ids motors) := by
  refine ⟨⟨rfl, rfl⟩, fun token => Nat.le_refl _, ?_, ?_, ?_⟩
  · intro call none
    cases none
  · intro id thread none
    cases none
  · intro id thread none
    cases none

/-- The ledger at an instant of a tick. The thread of an invocation in hand has a name that
was issued. -/
structure Accounted (instant : Instant (Tap τ α) α) : Prop where
  ledger : Ledger (handed instant.hand) instant.scheduler
  issued : ∀ id frame, instant.hand = some (id, frame) → instant.scheduler.ids.Issued id.text

/-- Between two ticks the ledger accounts for every call. -/
theorem Ledger.accounted {scheduler : Scheduler (Tap τ α) α} (ledger : Ledger [] scheduler)
    (faults : List SchedulerFault) : Accounted ⟨scheduler, none, faults⟩ :=
  ⟨ledger, fun _ _ none => by cases none⟩

variable [Transport τ α]

section Strokes

variable {before after scheduler : Scheduler (Tap τ α) α} {inHand : List (ThreadId × Token)}

/-- A message that answers no call leaves the ledger. -/
theorem Ledger.post (ledger : Ledger inHand scheduler) (reliable : Reliable τ)
    (message : HostMessage α) (silent : message.answered? = none) :
    Ledger inHand { scheduler with bridge := (scheduler.bridge.post message).2 } := by
  have exchanges := (Bridge.post_exchanges reliable ledger.isOpen message).2
  rw [silent] at exchanges
  exact ledger.silent exchanges

/-- A message that answers the call in hand. -/
theorem Ledger.settle (ledger : Ledger inHand scheduler) (reliable : Reliable τ)
    (message : HostMessage α) (settles : inHand.map Prod.snd = message.answered?.toList) :
    Ledger [] { scheduler with bridge := (scheduler.bridge.post message).2 } := by
  refine ledger.exchange (Bridge.post_exchanges reliable ledger.isOpen message).2 ?_ ?_
  · rw [settles, List.map_nil, List.append_nil]
  · intro call held
    rw [← settles]
    exact Or.inl (List.mem_map.mpr ⟨call, held, rfl⟩)

/-- An order answers no call. -/
theorem answered_of_isOrder {message : HostMessage α} (order : message.IsOrder) :
    message.answered? = none := by
  cases message <;> first | rfl | exact order.elim

/-- Every stroke keeps the ledger. -/
theorem Stroke.ledger (stroke : Stroke before after) (reliable : Reliable τ)
    (ledger : Ledger inHand before) : Ledger inHand after := by
  cases stroke with
  | quiet quiet => exact ledger.stirs (.still quiet.bridge quiet.registry quiet.ids quiet.threads)
  | retire id => exact ledger.retire id
  | finish id => exact ledger.endThread id
  | clear ended => exact ledger.stirs (.clear _ rfl rfl rfl rfl ended)
  | adopt registrable => exact ledger.stirs (.adopt registrable ledger.issued)
  | tell message order => exact ledger.post reliable message (answered_of_isOrder order)
  | ask hat option starts =>
    exact ledger.silent (Bridge.startHats_exchanges reliable ledger.isOpen hat option starts)

/-- The ledger is kept however often threads are begun, ended and retired. -/
theorem Strokes.ledger (strokes : Strokes before after) (reliable : Reliable τ)
    (ledger : Ledger inHand before) : Ledger inHand after := by
  induction strokes with
  | refl => exact ledger
  | tail _ stroke inductionHypothesis => exact stroke.ledger reliable inductionHypothesis

/-- The ledger is kept when another backend is opened. -/
theorem Ledger.openBackend (ledger : Ledger [] scheduler) (reliable : Reliable τ) (url : String) :
    Ledger [] (scheduler.openBackend url).2 := by
  have greeted := ledger.post reliable .connected rfl
  unfold Scheduler.openBackend
  split
  case h_1 fault bridge sent =>
    rw [sent] at greeted
    exact greeted
  case h_2 done bridge sent =>
    rw [sent] at greeted
    have prepared := greeted.post reliable (.prepare url) rfl
    dsimp only at prepared
    split
    case h_1 fault later sent =>
      rw [sent] at prepared
      exact prepared
    case h_2 done later sent =>
      rw [sent] at prepared
      exact prepared

end Strokes

variable [Scalar α] {before after : Instant (Tap τ α) α}

/-- Every beat keeps the ledger. -/
theorem Beat.accounted (beat : Beat before after) (reliable : Reliable τ)
    (accounted : Accounted before) : Accounted after := by
  obtain ⟨ledger, issued⟩ := accounted
  have nobody : ∀ {ids : IdSource} (id : ThreadId) (frame : Frame α),
      (none : Option (ThreadId × Frame α)) = some (id, frame) → ids.Issued id.text :=
    fun _ _ none => by cases none
  cases beat with
  | act act =>
    refine ⟨act.strokes.ledger reliable ledger, fun id frame held => ?_⟩
    exact act.strokes.keeps.ids.issued_of (issued id frame held)
  | sweep scheduler faults =>
    have swept : Stirs scheduler scheduler.sweep.2 := by
      refine .clear (fun _ thread => thread.isActive) rfl rfl rfl rfl ?_
      intro id thread found idle
      simpa [Thread.isActive] using idle
    exact ⟨ledger.stirs swept, nobody⟩
  | @wake scheduler id thread woken frame found yielding popped known faults =>
    refine ⟨ledger.wake found popped, fun other block held => ?_⟩
    obtain ⟨taken, -, same⟩ := Option.map_eq_some_iff.mp held
    obtain ⟨rfl, -⟩ := Prod.mk.inj same
    exact ledger.issued id thread found
  | @lose scheduler id thread woken frame found yielding popped unknown faults =>
    have stacked : (thread.setStatus .running).Stacked scheduler.registry :=
      (ledger.laden id thread found).congr (thread.setStatus_frames .running)
    have known := (stacked.popBlock popped).2.2 frame rfl
    rw [unknown] at known
    cases known
  | note live target frame faults =>
    exact ⟨ledger.stirs (.still rfl rfl (.refl _) rfl), issued⟩
  | @suspend scheduler id frame left opcode token known faults =>
    exact ⟨ledger.suspend (issued id frame rfl) opcode token known, nobody⟩
  | answer scheduler id frame reply answers more agreed faults =>
    have held := handed_tokens id frame
    refine ⟨?_, nobody⟩
    cases called : frame.token with
    | none =>
      rw [called] at held
      change Ledger (handed (some (id, frame))) scheduler at ledger
      rw [List.map_eq_nil_iff.mp held] at ledger
      exact ledger
    | some token =>
      rw [called] at held
      have settled : (reply token).answered? = some token := by
        rcases answers with ⟨value, rfl⟩ | ⟨message, rfl⟩ <;> rfl
      have posted := ledger.settle reliable (reply token) (by rw [settled]; exact held)
      dsimp only
      rw [answer_some]
      exact posted
  | @look scheduler receipt bridge looked idle more agreed faults =>
    exact ⟨ledger.silent (Bridge.next_idle ledger.isOpen looked idle), nobody⟩
  | @hear scheduler message bridge received note faults =>
    have heard := ledger.handOut (Bridge.next_handsOut ledger.isOpen received)
    have silent : message.called? = none := by
      cases message <;> first | rfl | exact note.elim
    rw [silent] at heard
    exact ⟨heard, nobody⟩
  | retire scheduler id faults => exact ⟨ledger.retire id, nobody⟩
  | @ended scheduler id bridge received more missing faults =>
    have heard := ledger.handOut (Bridge.next_handsOut ledger.isOpen received)
    exact ⟨heard.endThread id, nobody⟩
  | @call scheduler target id opcode args token bridge received live known faults =>
    refine ⟨ledger.handOut (Bridge.next_handsOut ledger.isOpen received), ?_⟩
    intro other frame held
    obtain ⟨rfl, -⟩ := Prod.mk.inj (Option.some.inj held)
    obtain ⟨thread, found, -⟩ := find_of_isLive live
    exact ledger.issued id thread found
  | @refuse scheduler target id opcode args token bridge received fault refused more due faults =>
    have heard := ledger.handOut (Bridge.next_handsOut ledger.isOpen received)
    exact ⟨heard.settle reliable (.failure token fault.message) rfl, nobody⟩

/-- However many beats a tick has, every call is accounted for. -/
theorem Beats.accounted (beats : Beats before after) (reliable : Reliable τ)
    (accounted : Accounted before) : Accounted after := by
  induction beats with
  | refl => exact accounted
  | tail _ beat inductionHypothesis => exact beat.accounted reliable inductionHypothesis

section Operations

variable {scheduler : Scheduler (Tap τ α) α}

/-- The ledger is kept when scripts are loaded. -/
theorem Ledger.loadScripts (ledger : Ledger [] scheduler) (reliable : Reliable τ) (batch : Batch) :
    Ledger [] (scheduler.loadScripts batch).2 := by
  have linked := (Stroke.quiet (linkKnown_quiet scheduler batch)).ledger reliable ledger
  unfold Scheduler.loadScripts
  split
  case h_1 fault left result =>
    rw [result] at linked
    exact linked
  case h_2 unit left result =>
    rw [result] at linked
    have registered := linked.silent (Bridge.register_exchanges reliable linked.isOpen unit.unit)
    split
    case h_1 fault bridge posted =>
      rw [posted] at registered
      exact registered
    case h_2 done bridge posted =>
      rw [posted] at registered
      exact ((retireAll_strokes _ _).ledger reliable registered).stirs
        (.still rfl rfl (.refl _) rfl)

/-- The ledger is kept when a batch is run at once. -/
theorem Ledger.runBatch (ledger : Ledger [] scheduler) (reliable : Reliable τ) (batch : Batch) :
    Ledger [] (scheduler.runBatch batch).2 := by
  have linked := (Stroke.quiet (linkKnown_quiet scheduler batch)).ledger reliable ledger
  unfold Scheduler.runBatch
  split
  case h_1 fault left result =>
    rw [result] at linked
    exact linked
  case h_2 unit left result =>
    rw [result] at linked
    have adopted := (adoptAll_strokes unit.registrations.entries left).ledger reliable linked
    generalize left.adoptAll unit.registrations.entries = registered at adopted
    obtain ⟨starts, adopting⟩ := registered
    have posted := adopted.post reliable (.runAsync unit.unit.source starts) rfl
    dsimp only
    split
    case h_1 fault bridge sent =>
      rw [sent] at posted
      exact (retireAll_strokes _ _).ledger reliable posted
    case h_2 done bridge sent =>
      rw [sent] at posted
      exact posted

/-- The ledger is kept when the host executes a block by itself. -/
theorem Ledger.execute (ledger : Ledger [] scheduler) (reliable : Reliable τ) (id : ThreadId)
    (opcode : String) (args : Args α) : Ledger [] (scheduler.call id opcode args none).2 := by
  obtain ⟨fault, -, -, failed⟩ | ⟨target, block, live, known, calls⟩ :=
    call_cases scheduler id opcode args none
  · rw [failed]
    exact ledger
  · have started : Accounted ⟨scheduler, some (id, .fresh opcode args none), []⟩ := by
      refine ⟨ledger, fun other frame held => ?_⟩
      obtain ⟨rfl, -⟩ := Prod.mk.inj (Option.some.inj held)
      obtain ⟨thread, found, -⟩ := find_of_isLive live
      exact ledger.issued id thread found
    have invokes := invoke_beats target block (.fresh opcode args none) live known []
    rw [calls]
    exact (invokes.accounted reliable started).ledger

end Operations

end Scheduler

/-- An operation that calls no block for a worker and leaves the records of a tap alone. What
a backend does on its own, it does behind the tap or by putting in messages. -/
def Operation.IsHonest : Operation (Tap τ α) α → Prop
  | .execute _ _ _ token => token = none
  | .changeBridge change => ∀ bridge, (change bridge).backlog = bridge.backlog ∧
      (change bridge).transport.sent = bridge.transport.sent ∧
      (change bridge).transport.delivered = bridge.transport.delivered ∧
      (bridge.transport.IsOpen → (change bridge).transport.IsOpen)
  | _ => True

/-- A backend sends a message of its own. -/
def Operation.putIn (message : WorkerMessage α) : Operation (Tap τ α) α :=
  .changeBridge fun bridge => { bridge with transport := bridge.transport.inject message }

/-- To put in a message leaves the records of the tap alone. -/
theorem Operation.putIn_honest (message : WorkerMessage α) :
    (putIn message : Operation (Tap τ α) α).IsHonest :=
  fun _ => ⟨rfl, rfl, rfl, fun isOpen => ⟨isOpen.uncut, isOpen.sends⟩⟩

namespace Scheduler

variable [Scalar α] [Transport τ α] {scheduler : Scheduler (Tap τ α) α}

/-- Every operation keeps the ledger. -/
theorem Ledger.perform (ledger : Ledger [] scheduler) (reliable : Reliable τ)
    {operation : Operation (Tap τ α) α} (honest : operation.IsHonest) :
    Ledger [] (scheduler.perform operation) := by
  have rhythmic : IsRhythmic operation → Ledger [] (scheduler.perform operation) := by
    intro rhythmic
    obtain ⟨faults, beats⟩ := perform_beats scheduler rhythmic
    exact (beats.accounted reliable (ledger.accounted [])).ledger
  cases operation with
  | openBackend url => exact ledger.openBackend reliable url
  | loadScripts batch => exact ledger.loadScripts reliable batch
  | runBatch batch => exact ledger.runBatch reliable batch
  | registerThread target hasListener =>
    exact (addThread_stroke scheduler target hasListener).ledger reliable ledger
  | endThread thread => exact ledger.endThread thread
  | execute thread opcode args token =>
    obtain rfl : token = none := honest
    exact ledger.execute reliable thread opcode args
  | quit => exact ledger.quit
  | changeStage change => exact ledger.stirs (.still rfl rfl (.refl _) rfl)
  | changeDevices change => exact ledger.stirs (.still rfl rfl (.refl _) rfl)
  | changeBridge change =>
    obtain ⟨backlog, sent, delivered, opens⟩ := honest scheduler.bridge
    refine ledger.silent ⟨opens ledger.isOpen, ?_, [], ?_, ?_⟩
    · rw [Bridge.answered, sent, List.append_nil, Bridge.answered]
    · rw [Bridge.asked, delivered, List.append_nil, Bridge.asked]
    · rw [Bridge.deferred, backlog, List.append_nil, Bridge.deferred]
  | _ => exact rhythmic trivial

/-- Every call is answered once. In every run over a reliable transport, with whatever else
its backend puts in, no token is answered twice or without being asked; and once a call was
handed out it is answered, or exactly one frame waits for its block, on the stack of the
thread that the call names, or this thread is not active any more. A thread of the same name
that came later can only be there when the source of names repeated itself. -/
theorem calls_answered_once (config : SchedulerConfig) (registry : Registry) (behind : Option τ)
    (ids : IdSource) (motors : Motors (LoopbackLink α) α) (reliable : Reliable τ)
    (operations : List (Operation (Tap τ α) α))
    (honest : ∀ operation ∈ operations, operation.IsHonest) :
    let now := (fresh config registry (Tap.fresh behind) ids motors).run operations
    (now.bridge.asked.map Prod.snd).Nodup →
      now.bridge.answered.Nodup ∧
      (∀ token ∈ now.bridge.answered, token ∈ now.bridge.asked.map Prod.snd) ∧
      ∀ call ∈ now.bridge.asked, call ∉ now.bridge.deferred →
        call.2 ∈ now.bridge.answered ∨
        (now.Carries call ∧ now.stacked.count call.2 = 1) ∨
        now.isLive call.1 = false ∨ now.ids.Reissued call.1.text := by
  intro now distinct
  have ledger : Ledger [] now :=
    run_induction (fun _ _ honest kept => kept.perform reliable honest)
      (fresh_ledger config registry behind ids motors) honest
  have once : ∀ token, now.bridge.answered.count token + now.stacked.count token ≤ 1 := by
    intro token
    have balance := ledger.balance token
    have asked := List.nodup_iff_count_le_one.mp distinct token
    omega
  refine ⟨List.nodup_iff_count_le_one.mpr fun token => ?_, fun token answered => ?_,
    fun call asked handled => ?_⟩
  · have bound := once token
    omega
  · rw [← List.count_pos_iff] at answered ⊢
    have balance := ledger.balance token
    omega
  · rcases ledger.placed call asked with deferred | answered | none | ⟨-, carries | gone⟩
    · exact absurd deferred handled
    · exact Or.inl answered
    · cases none
    · refine Or.inr (Or.inl ⟨carries, ?_⟩)
      obtain ⟨thread, found, -, frame, member, holds, -⟩ := carries
      have present : call.2 ∈ now.stacked := by
        refine List.mem_flatMap.mpr ⟨thread, OrderedMap.mem_values_iff.mpr ⟨call.1, found⟩, ?_⟩
        exact List.mem_filterMap.mpr ⟨frame, member, holds⟩
      have bound := once call.2
      have counted := List.count_pos_iff.mpr present
      omega
    · exact Or.inr (Or.inr gone)

/-- A backend calls two blocks that yield and two that do not, one of them for a thread that
never was. -/
def meddling : List (Operation (Tap (Inline Rat) Rat) Rat) :=
  [.addTarget (.sprite ⟨"cat"⟩ "Cat"), .registerThread ⟨"cat"⟩ false,
    .putIn (.call ⟨"cat"⟩ ⟨"#0"⟩ "control_wait" .empty ⟨"first"⟩),
    .putIn (.call ⟨"cat"⟩ ⟨"#0"⟩ "looks_show" .empty ⟨"second"⟩),
    .putIn (.call ⟨"cat"⟩ ⟨"#0"⟩ "control_wait" .empty ⟨"third"⟩),
    .putIn (.call ⟨"dog"⟩ ⟨"nobody"⟩ "looks_show" .empty ⟨"fourth"⟩), .step]

/-- Whoever meddles leaves the records of the tap alone. -/
theorem meddling_honest : ∀ operation ∈ meddling, operation.IsHonest := by
  simp only [meddling, List.forall_mem_cons, Operation.putIn_honest, true_and]
  exact ⟨trivial, trivial, trivial, fun _ none => by cases none⟩

/-- The answered calls are answered once, and the thread carries the others. -/
theorem meddling_answered :
    let now := (fresh .standard .standard (Tap.fresh none : Tap (Inline Rat) Rat) .numbered
      (.atRest .reliable Motors.defaultBackoff)).run meddling
    now.bridge.answered = [⟨"second"⟩, ⟨"fourth"⟩] ∧ now.bridge.answered.Nodup ∧
      now.Carries (⟨"#0"⟩, ⟨"first"⟩) ∧ now.stacked.count ⟨"first"⟩ = 1 := by
  intro now
  have answered : now.bridge.answered = [⟨"second"⟩, ⟨"fourth"⟩] := by decide +kernel
  obtain ⟨once, -, placed⟩ := calls_answered_once .standard .standard none .numbered
    (.atRest .reliable Motors.defaultBackoff) (fun _ _ => rfl) meddling meddling_honest
    (by decide +kernel)
  refine ⟨answered, once, ?_⟩
  rcases placed (⟨"#0"⟩, ⟨"first"⟩) (by decide +kernel) (by decide +kernel) with
    told | carried | dead | again
  · change _ ∈ now.bridge.answered at told
    rw [answered] at told
    exact absurd told (by decide)
  · exact carried
  · have live : now.isLive ⟨"#0"⟩ = true := by decide +kernel
    change now.isLive ⟨"#0"⟩ = false at dead
    rw [live] at dead
    cases dead
  · have distinct : now.ids.Distinct := IdSource.numbered_distinct
    exact absurd again (distinct.not_reissued _)

end Scheduler

end SpriteMachine
