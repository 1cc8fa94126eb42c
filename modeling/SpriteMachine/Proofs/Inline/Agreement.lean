import SpriteMachine.Proofs.Inline.Loading
import SpriteMachine.Proofs.Inline.Tick

/-!
# No thread is lost

Between two operations of the host, every thread that has not ended either waits for the
answer to one call or is leaving: the worker has said its last word about it. Nothing runs
in the worker for a thread that has ended on the host, and no call waits on behalf of a
thread that does not run.
-/

namespace SpriteMachine

variable {α : Type}

/-- What a host does through the scheduler alone. It registers, ends and executes nothing
behind the worker's back, keeps the targets of the stage under their names, and does not
reach into the bridge; the wall clock may show anything. -/
def Operation.IsRegular : Operation (Inline α) α → Prop
  | .registerThread .. => False
  | .endThread _ => False
  | .execute .. => False
  | .quit => False
  | .changeStage change => ∀ stage, stage.Keyed → (change stage).Keyed
  | .changeBridge change => ∃ now, change =
      fun bridge => { bridge with transport := { bridge.transport with moment := now } }
  | _ => True

namespace Scheduler

/-- A thread runs in the worker and waits for the answer to one call. Either the call is
queued and the thread has only its body on the stack, or the host is done with the message
and the thread has the frame of the call on its stack. -/
def IsServed (scheduler : Scheduler (Inline α) α) (id : ThreadId) (thread : Thread α) : Prop :=
  ∃ running token deadline,
    scheduler.worker.seat id = ⟨some running, [(token, deadline)]⟩ ∧
      ((thread.Rests ∧ ∃ target opcode args,
          about id scheduler.queue = [.call target id opcode args token]) ∨
        (Waits scheduler.registry thread token ∧ about id scheduler.queue = []))

/-- A thread does not run in the worker, which has sent the last message about it. -/
def IsLeaving (scheduler : Scheduler (Inline α) α) (id : ThreadId) : Prop :=
  scheduler.worker.seat id = .vacant ∧
    ∃ message, ScriptWorker.IsLast id message ∧ about id scheduler.queue = [message]

/-- Host and worker agree: no thread of the host is lost and none of the worker goes on
without the host. -/
structure Agrees (scheduler : Scheduler (Inline α) α) : Prop where
  threads : ∀ id thread, scheduler.threads.find? id = some thread → thread.isActive = true →
    Xor (scheduler.IsServed id thread) (scheduler.IsLeaving id)
  running : ∀ id running, scheduler.worker.running.find? id = some running →
    scheduler.isLive id = true
  pending : ∀ token awaited, scheduler.worker.pending.table.find? token = some awaited →
    scheduler.worker.running.contains awaited.continuation = true

variable {scheduler : Scheduler (Inline α) α} {id : ThreadId}

/-- A thread that the worker serves is not about to leave. -/
theorem IsServed.not_leaving {thread : Thread α} (served : scheduler.IsServed id thread) :
    ¬ scheduler.IsLeaving id := by
  obtain ⟨running, token, deadline, seated, -⟩ := served
  rintro ⟨vacant, -⟩
  rw [seated] at vacant
  cases vacant

/-- A thread that stands is served or leaves. -/
theorem Sound.served_or_leaving (sound : Sound none tight scheduler) {thread : Thread α}
    (stands : scheduler.standing id = some thread) :
    scheduler.IsServed id thread ∨ scheduler.IsLeaving id := by
  have fits := sound.fits id fun untied => untied
  rw [stands] at fits
  unfold IsServed IsLeaving
  generalize scheduler.worker.seat id = seat at fits ⊢
  generalize about id scheduler.queue = queued at fits ⊢
  cases fits with
  | called rests running token deadline target opcode args =>
    exact Or.inl ⟨running, token, deadline, rfl, Or.inl ⟨rests, target, opcode, args, rfl⟩⟩
  | yielded waits running deadline =>
    exact Or.inl ⟨running, _, deadline, rfl, Or.inr ⟨waits, rfl⟩⟩
  | closed _ rests last => exact Or.inr ⟨rfl, _, last, rfl⟩
  | stranded waits last => exact Or.inr ⟨rfl, _, last, rfl⟩

/-- Whoever has a seat stands on the host, and runs if it waits for anything. -/
theorem Sound.seated (sound : Sound none tight scheduler)
    (seated : scheduler.worker.seat id ≠ .vacant) :
    scheduler.isLive id = true ∧ scheduler.worker.running.contains id = true := by
  have fits := sound.fits id fun untied => untied
  rw [isLive_eq_standing, OrderedMap.contains_eq_isSome]
  change (scheduler.standing id).isSome = true ∧ (scheduler.worker.seat id).place.isSome = true
  generalize scheduler.worker.seat id = seat at fits seated ⊢
  generalize scheduler.standing id = standing at fits ⊢
  generalize about id scheduler.queue = queued at fits
  cases fits with
  | gone => exact absurd rfl seated
  | called => exact ⟨rfl, rfl⟩
  | yielded => exact ⟨rfl, rfl⟩
  | closed => exact absurd rfl seated
  | stranded => exact absurd rfl seated

/-- Between two ticks soundness is agreement on every thread. -/
theorem Sound.agrees (sound : Sound none tight scheduler) : Agrees scheduler where
  threads id thread found active := by
    rcases sound.served_or_leaving (standing_eq_some.mpr ⟨found, active⟩) with served | leaving
    · exact Or.inl ⟨served, served.not_leaving⟩
    · exact Or.inr ⟨leaving, fun served => served.not_leaving leaving⟩
  running id running found := by
    refine (sound.seated fun vacant => ?_).1
    have nowhere := congrArg Seat.place vacant
    rw [ScriptWorker.seat, found] at nowhere
    cases nowhere
  pending token awaited found := by
    refine (sound.seated fun vacant => ?_).2
    have member : (token, awaited.deadline) ∈
        (scheduler.worker.seat awaited.continuation).calls := PendingTokens.mem_callsFor.mpr found
    rw [vacant] at member
    cases member

/-- The wall clock shows another moment. -/
theorem Sound.setMoment (sound : Sound none tight scheduler) (now : Nat) :
    Sound none tight { scheduler with
      bridge := { scheduler.bridge with
        transport := { scheduler.bridge.transport with moment := now } } } := by
  have posted : Posted (fun _ => False) scheduler [] { scheduler with
      bridge := { scheduler.bridge with
        transport := { scheduler.bridge.transport with moment := now } } } :=
    ⟨rfl, rfl, .still scheduler.worker, (List.append_nil _).symm, rfl⟩
  exact sound.postIdle posted

variable [Scalar α]

/-- Every operation keeps both sides in agreement. -/
theorem Sound.perform (sound : Sound none tight scheduler) {operation : Operation (Inline α) α}
    (regular : operation.IsRegular) : Sound none tight (scheduler.perform operation) := by
  cases operation with
  | addTarget target => exact sound.quiet (addTarget_mild scheduler target).toQuiet
  | attachRenderer => exact sound.quiet (.ofStage scheduler (.attach _ _))
  | openBackend url => exact sound.openBackend url
  | loadScripts batch => exact sound.loadScripts batch
  | runBatch batch => exact sound.runBatch batch
  | startHats hat filter => exact sound.startHats hat filter
  | greenFlag => exact (Tames.greenFlag scheduler).acts.sound sound
  | stopAll => exact sound.stopAll tight
  | stopForTarget target keep => exact (Tames.stopForTarget scheduler target keep).acts.sound sound
  | stopThread thread => exact sound.stopThread thread
  | makeClone source => exact (Tames.makeClone scheduler source).acts.sound sound
  | disposeClone target => exact (Tames.disposeClone scheduler target).acts.sound sound
  | postData device data => exact (Tames.postData scheduler device data).acts.sound sound
  | registerThread => exact regular.elim
  | endThread => exact regular.elim
  | execute => exact regular.elim
  | step => exact sound.step
  | emit notice => exact sound.quiet (.ofEmit scheduler notice)
  | start => exact sound.quiet (start_mild scheduler).toQuiet
  | quit => exact regular.elim
  | dispose => exact (Tames.dispose scheduler).acts.sound sound
  | changeStage change => exact sound.restage (regular scheduler.stage sound.keyed)
  | changeDevices change =>
    exact sound.quiet
      ⟨rfl, rfl, rfl, rfl, rfl, rfl, .refl _, .refl, fun _ _ known => known⟩
  | changeBridge change =>
    obtain ⟨now, rfl⟩ := regular
    exact sound.setMoment now

/-- A scheduler without threads beside an idle worker. -/
theorem fresh_sound {config : SchedulerConfig} (registry : Registry)
    (motors : Motors (LoopbackLink α) α) {ids : IdSource} (distinct : ids.Distinct)
    (strict : config.endFaultedThreads = true) (patient : 0 < config.requestTimeout) :
    Sound none tight
      (fresh config registry (Inline.idle config.blockTimeout : Inline α) ids motors) where
  orderly := fresh_orderly config registry _ motors distinct
  keyed := Stage.keyed_empty config.maxClones
  strict := strict
  patient := patient
  numbered _ _ found := by cases found
  fits _ _ := .gone _ _
  unasked := rfl
  known _ told := absurd rfl told
  calls _ _ _ _ _ member := by cases member
  frames _ _ _ stands _ := by cases stands
  inHand _ _ nothing := by cases nothing

/-- Whatever the host does through the scheduler, no thread is lost and no body goes on
without its thread. -/
theorem no_thread_is_lost (config : SchedulerConfig) (registry : Registry)
    (motors : Motors (LoopbackLink α) α) {ids : IdSource} (distinct : ids.Distinct)
    (strict : config.endFaultedThreads = true) (patient : 0 < config.requestTimeout)
    {operations : List (Operation (Inline α) α)}
    (regular : ∀ operation ∈ operations, operation.IsRegular) :
    Agrees ((fresh config registry (Inline.idle config.blockTimeout) ids motors).run
      operations) := by
  refine Sound.agrees ?_
  exact run_induction (fun scheduler operation allowed sound => sound.perform allowed)
    (fresh_sound registry motors distinct strict patient) regular

/-- A thread whose first call is queued. -/
theorem singleThread_agrees :
    (standardScheduler.run [.addTarget (.sprite ⟨"cat"⟩ "Cat"), .runBatch singleScript]).isLive
        ⟨"#1"⟩ = true ∧
      Agrees (standardScheduler.run [.addTarget (.sprite ⟨"cat"⟩ "Cat"),
        .runBatch singleScript]) := by
  refine ⟨by decide +kernel, ?_⟩
  refine no_thread_is_lost .standard .standard (.atRest .reliable Motors.defaultBackoff)
    IdSource.numbered_distinct rfl (by decide) ?_
  intro operation member
  rcases List.mem_cons.mp member with rfl | later
  · exact trivial
  · rw [List.mem_singleton.mp later]
    exact trivial

end Scheduler

end SpriteMachine
