import SpriteMachine.Proofs.Link.Concord
import SpriteMachine.Proofs.Scheduler.Beat

/-!
# Ticks without disagreement

A host in concord with its link meets no call and no end of a thread that it does not keep
track of, and no opcode that it does not know. As long as there is room for the threads that
were retired, it remembers each of them, so that no beat of a tick reports a disagreement.
-/

namespace SpriteMachine

open Link ScriptWorker

namespace Scheduler

/-- To answer the worker loses track of nobody. -/
theorem answer_minds {τ α : Type} [Transport τ α] (scheduler : Scheduler τ α) (token : Option Token)
    (reply : Token → HostMessage α) : Minds scheduler (scheduler.answer token reply).2 := by
  cases token with
  | none => exact .refl scheduler
  | some token =>
    rw [answer_some]
    exact .ofBridge scheduler _

variable {τ α : Type} [Scalar α] {view : τ → Link α} {scheduler : Scheduler τ α} {id : ThreadId}

/-- A thread of which the host keeps track and that is not live was retired, and the host
remembers it. -/
theorem Concord.excused (concord : Concord view scheduler) (room : scheduler.HasRoom)
    (tracked : scheduler.Tracks id) (dead : scheduler.isLive id = false) :
    scheduler.isExcused (.notFound id) = true := by
  have retired : id ∈ scheduler.retirees := by
    refine tracked.2.resolve_left ?_
    rw [dead]
    exact Bool.false_ne_true
  exact decide_eq_true (((concord.recalls room).2 id).mpr retired)

/-- The host ends a thread of which it heard that it has ended. -/
theorem Concord.endThread (concord : Concord view scheduler)
    (silent : ¬ (scheduler.bridge.link view).Mentions id) :
    Concord view (scheduler.endThread id).2 := by
  obtain ⟨ends, spared⟩ := endThread_proceeds scheduler id
  have bridge : (scheduler.endThread id).2.bridge = scheduler.bridge := by
    unfold Scheduler.endThread
    split <;> rfl
  refine concord.proceed ends ?_ fun other mentions => ?_
  · rw [bridge]
    exact concord.regular
  · rw [bridge] at mentions
    refine spared other ?_ (concord.tracked other mentions)
    rintro rfl
    exact silent mentions

/-- What the host knows about a message that it has received. -/
structure Heard (view : τ → Link α) (scheduler : Scheduler τ α) (message : WorkerMessage α)
    (bridge : Bridge τ α) : Prop where
  concord : Concord view { scheduler with bridge := bridge }
  tracked : ∀ id, message.thread? = some id → scheduler.Tracks id
  last : ∀ id, IsLast id message → ¬ (bridge.link view).Mentions id
  knows : ∀ target id opcode args token,
    message = .call target id opcode args token → scheduler.Knows opcode

/-- A host in concord that, if there is room, has reported no disagreement. -/
structure Calm (view : τ → Link α) (instant : Instant τ α) : Prop where
  concord : Concord view instant.scheduler
  agreed : instant.scheduler.HasRoom → ∀ fault ∈ instant.faults, fault.isDesync = false

/-- Nothing was reported yet. -/
theorem Concord.calm (concord : Concord view scheduler) (hand : Option (ThreadId × Frame α)) :
    Calm view ⟨scheduler, hand, []⟩ :=
  ⟨concord, fun _ _ none => (List.not_mem_nil none).elim⟩

variable {before after : Instant τ α}

/-- The host goes on, and what it reports is no disagreement. -/
theorem Calm.proceed (calm : Calm view before)
    (proceeds : Proceeds before.scheduler after.scheduler)
    (concord : Concord view after.scheduler) {more : List SchedulerFault}
    (faults : after.faults = before.faults ++ more)
    (agreed : before.scheduler.HasRoom → ∀ fault ∈ more, fault.isDesync = false) :
    Calm view after := by
  refine ⟨concord, fun room fault member => ?_⟩
  have earlier := proceeds.room room
  rw [faults, List.mem_append] at member
  rcases member with reported | new
  · exact calm.agreed earlier fault reported
  · exact agreed earlier fault new

/-- The host goes on and reports nothing. -/
theorem Calm.silent (calm : Calm view before)
    (proceeds : Proceeds before.scheduler after.scheduler)
    (concord : Concord view after.scheduler) (faults : after.faults = before.faults) :
    Calm view after := by
  refine calm.proceed proceeds concord (faults.trans (List.append_nil _).symm) fun _ _ none => ?_
  exact (List.not_mem_nil none).elim

/-- The host does something by itself and reports nothing. -/
theorem Calm.mind (calm : Calm view before) (minds : Minds before.scheduler after.scheduler)
    (bridge : after.scheduler.bridge = before.scheduler.bridge)
    (faults : after.faults = before.faults) : Calm view after :=
  calm.silent minds.toProceeds (calm.concord.mind minds bridge) faults

variable [Transport τ α] (relays : Relays view)

include relays

/-- What the host hears stood first on its link. -/
theorem Concord.hears (concord : Concord view scheduler) {message : WorkerMessage α}
    {bridge : Bridge τ α} (received : scheduler.bridge.next = (.message message, bridge)) :
    Heard view scheduler message bridge := by
  obtain ⟨here, there, before, delivers, after⟩ := Bridge.next_delivers relays received
  obtain ⟨first, fewerFirst⟩ := concord.regular.drifts before
  obtain ⟨second, fewerSecond⟩ := first.delivers delivers
  obtain ⟨third, fewerThird⟩ := second.drifts after
  refine ⟨?_, fun id named => ?_, fun id last mentions => ?_, ?_⟩
  · exact concord.proceed (Minds.ofBridge scheduler bridge).toProceeds third fun id mentions =>
      concord.tracked id (fewerFirst id (fewerSecond id (fewerThird id mentions)))
  · exact concord.tracked id (fewerFirst id (delivers.mentions named))
  · exact first.silent delivers last (fewerThird id mentions)
  · rintro target id opcode args token rfl
    exact first.heard delivers

/-- Looking in vain is waiting. -/
theorem Concord.look (concord : Concord view scheduler) {receipt : Receipt α}
    {bridge : Bridge τ α} (looked : scheduler.bridge.next = (receipt, bridge))
    (idle : ∀ message, receipt ≠ .message message) :
    Concord view { scheduler with bridge := bridge } := by
  obtain ⟨here, there, before, delivers, after⟩ := Bridge.next_delivers relays looked
  obtain rfl := delivers.idle idle
  exact concord.drift (before.trans after)

/-- The host stays in concord when it answers. -/
theorem Concord.answer (concord : Concord view scheduler) (token : Option Token)
    {reply : Token → HostMessage α} (answers : IsAnswer reply) :
    Concord view (scheduler.answer token reply).2 := by
  cases token with
  | none => exact concord
  | some token =>
    have plain : (reply token).IsPlain := by
      rcases answers with ⟨value, rfl⟩ | ⟨message, rfl⟩
      · exact ⟨rfl, rfl⟩
      · exact ⟨rfl, rfl⟩
    rw [answer_some]
    exact (concord.tell relays plain).1

/-- No beat reports a disagreement while there is room. -/
theorem Beat.calm (beat : Beat before after) (calm : Calm view before) : Calm view after := by
  have concord := calm.concord
  cases beat with
  | act act => exact calm.silent act.strokes.proceeds (concord.act relays act) rfl
  | sweep scheduler faults => exact calm.mind (sweep_minds scheduler) rfl rfl
  | wake found yielding popped known faults => exact calm.mind (wake_minds found popped) rfl rfl
  | lose found yielding popped unknown faults =>
    -- Only known blocks are ever put on a stack.
    have stacked := (concord.laden _ _ found).congr (Thread.setStatus_frames _ .running)
    have known := (stacked.popBlock popped).2.2 _ rfl
    rw [unknown] at known
    cases known
  | note live target frame faults => exact calm.mind (noteInvocation_minds _ _ target frame) rfl rfl
  | suspend scheduler id opcode token known faults =>
    exact calm.mind (suspend_minds scheduler id (by rw [opcode]; exact known)) rfl rfl
  | answer scheduler id frame reply answers more agreed faults =>
    exact calm.proceed (answer_minds scheduler frame.token reply).toProceeds
      (concord.answer relays frame.token answers) rfl fun _ => agreed
  | look looked idle more agreed faults =>
    exact calm.proceed (Minds.ofBridge _ _).toProceeds (concord.look relays looked idle) rfl
      fun _ => agreed
  | hear received note faults =>
    exact calm.silent (Minds.ofBridge _ _).toProceeds (concord.hears relays received).concord rfl
  | retire scheduler id faults => exact calm.mind (retire_minds scheduler id) rfl rfl
  | @ended scheduler id bridge received more missing faults =>
    have heard := concord.hears relays received
    -- Losing track of the thread is safe, since the link has nothing more about it.
    refine calm.proceed ((Minds.ofBridge _ _).toProceeds.trans (endThread_proceeds _ id).1)
      (heard.concord.endThread (heard.last id (Or.inl rfl))) rfl fun room fault member => ?_
    obtain ⟨rfl, absent, due⟩ := missing fault member
    rw [concord.excused room (heard.tracked id rfl) (isLive_of_absent absent)] at due
    cases due
  | call received live known faults =>
    exact calm.silent (Minds.ofBridge _ _).toProceeds (concord.hears relays received).concord rfl
  | @refuse scheduler target id opcode args token bridge received fault refused more due faults =>
    have heard := concord.hears relays received
    have plain : HostMessage.IsPlain (.failure token fault.message : HostMessage α) := ⟨rfl, rfl⟩
    refine calm.proceed (Minds.ofBridge _ _).toProceeds (heard.concord.tell relays plain).1 rfl
      fun room other member => ?_
    rcases due other member with agreed | ⟨rfl, unexcused⟩
    · exact agreed
    · cases refused with
      | missing dead =>
        rw [concord.excused room (heard.tracked id rfl) dead] at unexcused
        cases unexcused
      | unknown none =>
        have known := heard.knows target id opcode args token rfl
        rw [Knows, none] at known
        cases known

/-- A host that is calm before a tick stays calm over its beats. -/
theorem Beats.calm (beats : Beats before after) (calm : Calm view before) : Calm view after := by
  induction beats with
  | refl => exact calm
  | tail _ beat inductionHypothesis => exact beat.calm relays inductionHypothesis

end Scheduler

end SpriteMachine
