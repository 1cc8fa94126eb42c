import SpriteMachine.Proofs.Inline.Procedure

/-!
# The bodies of a call

The definition hats do not restart. A call starts a body of its own for each definition on
its target that matches and that no active thread runs there, and it completes only when all
of these have ended. A definition that runs there already, for whomever, is passed over; when
this leaves none, the call has nothing to wait for.
-/

namespace SpriteMachine

variable {α : Type} [Scalar α]

/-- The hat under which the bodies of a call stand. -/
def ProcedureBlock.definitionHat? : ProcedureBlock → Option String
  | call => some procedureHat
  | callForValue => some reportingProcedureHat
  | report => none

/-- The bodies of a call: those whose option is the code of its procedure, on its target. -/
def bodiesOf (target : TargetId) (frame : Frame α) : HatFilter :=
  ⟨some (frame.args.text "PROCCODE"), some target⟩

/-- A call of a procedure awaits the bodies under the hat of its definitions. -/
theorem ProcedureBlock.bodies_awaited {block : ProcedureBlock} {hat : String}
    (calls : block.definitionHat? = some hat) (target : TargetId) (frame : Frame α) :
    (Block.procedure block).awaited? frame.args target = some (hat, bodiesOf target frame) := by
  cases block <;> cases calls <;> rfl

/-- The definition hats do not restart. -/
theorem ProcedureBlock.definition_restarts {block : ProcedureBlock} {hat : String}
    (calls : block.definitionHat? = some hat) : Registry.standard.hat? hat = some false := by
  cases block <;> cases calls <;> decide

namespace Scheduler

variable {now before after taken : Scheduler (Inline α) α} {id : ThreadId} {target : TargetId}
  {frame : Frame α}

/-- A tidy scheduler stays tidy over moments that keep its targets. -/
theorem Moments.tidy {allowed : Scheduler (Inline α) α → Operation (Inline α) α → Prop}
    (keeps : ∀ scheduler operation, allowed scheduler operation → operation.KeepsTargets)
    (moments : Moments allowed before after) (tidy : Tidy before) : Tidy after :=
  moments.induct Tidy
    (fun scheduler operation permitted tidy => tidy.perform (keeps scheduler operation permitted))
    (fun _ _ _ beats tidy => beats.tidy tidy) tidy

omit [Scalar α] in
/-- A thread is as live behind its suspension as it was. -/
theorem suspend_isLive (scheduler : Scheduler (Inline α) α) (id other : ThreadId)
    (frame : Frame α) :
    (scheduler.suspend id frame).isLive other = scheduler.isLive other := by
  rw [isLive, isLive]
  change ((scheduler.threads.modify id _).find? other).any Thread.isActive = _
  rw [OrderedMap.find_modify]
  split
  case isTrue =>
    rw [Option.any_map]
    congr 1
    funext thread
    split
    case isTrue =>
      rw [Thread.isActive, Thread.setStatus_isDone _ (by decide)]
      rfl
    case isFalse => rfl
  case isFalse => rfl

omit [Scalar α] in
/-- An active thread that is suspended has the frame on top. -/
theorem suspend_pushes {scheduler : Scheduler (Inline α) α} {thread : Thread α}
    (found : scheduler.threads.find? id = some thread) (active : thread.isActive = true)
    (frame : Frame α) :
    ∃ waiting, (scheduler.suspend id frame).threads.find? id = some waiting ∧
      waiting.frames = { frame with state := .waiting } :: thread.frames := by
  refine ⟨(thread.push { frame with state := .waiting }).setStatus .yielding, ?_,
    Thread.setStatus_frames _ _⟩
  change (scheduler.threads.modify id _).find? id = _
  rw [OrderedMap.find_modify, if_pos rfl, found, Option.map_some, if_pos active]

/-- The caller is none of the bodies that it starts, so it stays live while they are started,
and may wait for them. -/
theorem Started.caller_waits {hat : String} {filter : HatFilter} {started : List ThreadId}
    {block : Block}
    (starts : Started (taken.noteInvocation id target frame) hat filter false started after)
    (takes : TakesUp now id target block frame taken) (waiting : Frame α) :
    ∃ thread below, (after.suspend id waiting).threads.find? id = some thread ∧
      thread.isActive = true ∧ thread.frames = { waiting with state := .waiting } :: below := by
  obtain ⟨caller, found, running⟩ := find_of_isLive takes.stays
  have other : id ∉ started := fun member => by
    have absent := (starts.fresh id member).2
    change taken.threads.find? id = none at absent
    rw [found] at absent
    cases absent
  have stays := starts.others id other
  change _ = (taken.threads.find? id).map _ at stays
  rw [found, Option.map_some, if_neg fun ⟨restarts, _⟩ => by cases restarts] at stays
  have active : caller.isActive = true := by rw [Thread.isActive, running]; rfl
  obtain ⟨thread, present, frames⟩ := suspend_pushes stays active waiting
  have live := suspend_isLive after id id waiting
  rw [isLive_of_find present, isLive_of_find stays, running] at live
  exact ⟨thread, caller.frames, present, live, frames⟩

section Calling

variable {limit : Nat} {block : ProcedureBlock} {hat : String}

/-- A call that is invoked first starts the bodies that are due. -/
theorem bodies_started (orderly : Orderly now) (shares : Shares limit now) (tidy : Tidy now)
    (standard : now.registry = .standard) (calls : block.definitionHat? = some hat)
    (takes : TakesUp now id target (.procedure block) frame taken) (filter : HatFilter) :
    ∃ started, ((taken.noteInvocation id target frame).startHats hat filter).1 = .ok started ∧
      Started (taken.noteInvocation id target frame) hat filter false started
        ((taken.noteInvocation id target frame).startHats hat filter).2 := by
  have advanced := takes.advances orderly
  have shared := shares.pass takes.passes
  have known : (taken.noteInvocation id target frame).registry.hat? hat = some false := by
    rw [advanced.2.registry, standard]
    exact ProcedureBlock.definition_restarts calls
  have accepted := startHats_accepted shared advanced.1.distinct known filter
  have noted : Tidy (taken.noteInvocation id target frame) :=
    (tidy.thin takes.thins).thin (.still (fun keyed => keyed) rfl)
  obtain ⟨restarting, same, starts⟩ := startHats_started shared advanced.1 noted accepted
  obtain rfl := Option.some.inj (known.symm.trans same)
  exact ⟨_, accepted, starts⟩

/-- A call that completes later waits for no live thread any more. -/
theorem bodies_ended (calls : block.definitionHat? = some hat) (later : frame.isFirstRun = false)
    {value : Value α}
    (completes : (taken.invoke id target (.procedure block) frame).1 = .ok (.completed value))
    {callee : ThreadId} (member : callee ∈ frame.notes.spawned) : taken.isLive callee = false := by
  obtain ⟨left, ran, asleep⟩ := outcome_completed completes
  have awaits : (Block.procedure block).Awaits
      ⟨taken.noteInvocation id target frame, id, target, frame, false⟩ hat
      (bodiesOf target frame) (.ok value, left) :=
    ran ▸ Block.run_awaits (ProcedureBlock.bodies_awaited calls target frame)
  cases awaits with
  | waits opens waiting => cases asleep
  | @settles opened opens settled =>
    cases opens with
    | first new starts => rw [new] at later; cases later
    | again known =>
      have ended : (taken.noteInvocation id target frame).isLive callee = false := by
        simpa using List.any_eq_false.mp settled callee member
      exact ended

/-- A call that is invoked first either waits with all bodies that it started, or has started
none and is left with nothing to wait for. -/
theorem bodies_awaited (calls : block.definitionHat? = some hat) (new : frame.isFirstRun = true)
    (blank : frame.notes.spawned = []) {started : List ThreadId}
    (passed : ((taken.noteInvocation id target frame).startHats hat
      (bodiesOf target frame)).1 = .ok started)
    (starts : Started (taken.noteInvocation id target frame) hat (bodiesOf target frame) false
      started ((taken.noteInvocation id target frame).startHats hat (bodiesOf target frame)).2) :
    started ≠ [] ∧ (taken.invoke id target (.procedure block) frame).1 = .ok .yielded ∧
        (taken.invoke id target (.procedure block) frame).2 =
          ((taken.noteInvocation id target frame).startHats hat
            (bodiesOf target frame)).2.suspend id (frame.waitingFor started) ∨
      started = [] ∧ (taken.invoke id target (.procedure block) frame).1 ≠ .ok .yielded := by
  have awaits : (Block.procedure block).Awaits
      ⟨taken.noteInvocation id target frame, id, target, frame, false⟩ hat (bodiesOf target frame)
      ((Block.procedure block).run frame.args
        ⟨taken.noteInvocation id target frame, id, target, frame, false⟩) :=
    Block.run_awaits (ProcedureBlock.bodies_awaited calls target frame)
  generalize ran : (Block.procedure block).run frame.args
    ⟨taken.noteInvocation id target frame, id, target, frame, false⟩ = outcome at awaits
  cases awaits with
  | refused first refuses =>
    rw [refuses] at passed
    cases passed
  | @waits opened opens waiting =>
    cases opens with
    | again known => rw [new] at known; cases known
    | @first begun scheduler first begins =>
      rw [begins] at passed ⊢
      obtain rfl := Except.ok.inj passed
      refine Or.inl ⟨?_, (outcome_yielded ran).mpr rfl, (invoke_yielded ran rfl).trans ?_⟩
      · rintro rfl
        have nobody : (frame.notes.spawned ++ []).any scheduler.isLive = false := by
          rw [blank]
          rfl
        exact Bool.false_ne_true (nobody.symm.trans waiting)
      · change scheduler.suspend id (frame.waitingFor (frame.notes.spawned ++ begun)) = _
        rw [blank]
        rfl
  | @settles opened opens settled =>
    cases opens with
    | again known => rw [new] at known; cases known
    | @first begun scheduler first begins =>
      rw [begins] at passed starts
      obtain rfl := Except.ok.inj passed
      refine Or.inr ⟨?_, fun yields => ?_⟩
      · refine List.eq_nil_iff_forall_not_mem.mpr fun callee member => ?_
        have ended := List.any_eq_false.mp settled callee (List.mem_append_right _ member)
        exact ended (starts.live member)
      · have asleep := (outcome_yielded ran).mp yields
        rw [Block.settle_yielded] at asleep
        cases asleep

end Calling

/-- A call that is invoked first, and the bodies that it starts: it waits for them on top of
its caller's stack if there are any, and completes from there only when they have ended. -/
structure WaitsFor (taken : Scheduler (Inline α) α) (id : ThreadId) (target : TargetId)
    (block : ProcedureBlock) (frame : Frame α) (hat : String) (started : List ThreadId) : Prop where
  bodies : Started (taken.noteInvocation id target frame) hat (bodiesOf target frame) false started
    ((taken.noteInvocation id target frame).startHats hat (bodiesOf target frame)).2
  waits : (taken.invoke id target (.procedure block) frame).1 = .ok .yielded ↔ started ≠ []
  running : ∀ callee ∈ started,
    (taken.invoke id target (.procedure block) frame).2.isLive callee = true
  kept : started ≠ [] → ∃ thread below,
    (taken.invoke id target (.procedure block) frame).2.threads.find? id = some thread ∧
      thread.isActive = true ∧ thread.frames = frame.waitingFor started :: below
  ended : ∀ (again : Scheduler (Inline α) α) (on : TargetId) (value : Value α),
    (again.invoke id on (.procedure block) (frame.waitingFor started)).1 = .ok (.completed value) →
      ∀ callee ∈ started, again.isLive callee = false

/-- A call waits for the bodies that it starts. Beside an inline worker, at any moment that
operations and ticks lead to, a call that is invoked first starts one new thread for each
definition on its target that matches and that no active thread runs there. If there is any,
all of them are live and the call waits; whenever it completes later, they have ended. If
there is none, the call does not wait. -/
theorem calls_wait_for_their_bodies (config : SchedulerConfig) (motors : Motors (LoopbackLink α) α)
    {ids : IdSource} (distinct : ids.Distinct) {now taken : Scheduler (Inline α) α}
    (reached : Moments (fun _ operation => operation.SparesBridge ∧ operation.KeepsTargets)
      (fresh config .standard (Inline.idle config.blockTimeout) ids motors) now)
    {id : ThreadId} {target : TargetId} {block : ProcedureBlock} {frame : Frame α} {hat : String}
    (calls : block.definitionHat? = some hat)
    (takes : TakesUp now id target (.procedure block) frame taken)
    (new : frame.isFirstRun = true) :
    ∃ started, WaitsFor taken id target block frame hat started := by
  have fresh := fresh_orderly config .standard (Inline.idle config.blockTimeout : Inline α)
    motors distinct
  have orderly := reached.advances fresh
  have course : Course _ now := reached.widen fun _ _ both => both.1
  have shares := fresh_shares config .standard motors ids
  have honest := course.honest fresh shares rfl
    ⟨.refl, fresh_faith config .standard _ ids motors, fun id thread none => by cases none⟩
  have tidy := Moments.tidy (fun _ _ both => both.2) reached
    (fresh_tidy config .standard _ ids motors)
  have blank := (honest.vouches.take takes).new new
  obtain ⟨started, passed, starts⟩ := bodies_started orderly.1 (course.shares shares) tidy
    orderly.2.registry calls takes (bodiesOf target frame)
  have either := bodies_awaited calls new blank passed starts
  refine ⟨started, starts, ?_, fun callee member => ?_, fun somebody => ?_,
    fun again on value completes callee member => bodies_ended calls rfl completes member⟩
  · rcases either with ⟨somebody, yields, -⟩ | ⟨nobody, completes⟩
    · exact ⟨fun _ => somebody, fun _ => yields⟩
    · exact ⟨fun yields => absurd yields completes, fun somebody => absurd nobody somebody⟩
  · obtain ⟨-, -, same⟩ := either.resolve_right fun ⟨nobody, _⟩ => by
      rw [nobody] at member
      cases member
    rw [same, suspend_isLive]
    exact starts.live member
  · obtain ⟨-, -, same⟩ := either.resolve_right fun ⟨nobody, _⟩ => somebody nobody
    rw [same]
    exact starts.caller_waits takes (frame.waitingFor started)

/-- A sprite with a procedure, and two threads on it. -/
def walking : List (Operation (Inline Rat) Rat) :=
  [.addTarget (.sprite ⟨"cat"⟩ "Cat"),
    .loadScripts (.ofList [(⟨"cat"⟩, .ofList [(procedureHat,
      .options (.ofList [("walk", ["control_wait DURATION=1"])]))])]),
    .registerThread ⟨"cat"⟩ false, .registerThread ⟨"cat"⟩ false]

/-- The arguments of a call of this procedure. -/
def walk : Args Rat := .ofList [("PROCCODE", .text "walk")]

/-- The first call starts a body and waits for it. -/
theorem walking_waits :
    let now := standardScheduler.run walking
    let frame : Frame Rat := .fresh "procedures_callnoreturn" walk none
    ∃ started, started ≠ [] ∧ WaitsFor now ⟨"#1"⟩ ⟨"cat"⟩ .call frame procedureHat started := by
  intro now frame
  have live : now.isLive ⟨"#1"⟩ = true := by decide +kernel
  have on : (now.threads.find? ⟨"#1"⟩).map Thread.target = some ⟨"cat"⟩ := by decide +kernel
  have yields : ((now.invoke ⟨"#1"⟩ ⟨"cat"⟩ (.procedure .call) frame).1 matches .ok .yielded) =
      true := by decide +kernel
  obtain ⟨thread, found, active⟩ := find_of_isLive live
  rw [found] at on
  have takes : TakesUp now ⟨"#1"⟩ thread.target (.procedure .call) frame now :=
    .executed found active (by decide +kernel)
  rw [Option.some.inj on] at takes
  obtain ⟨started, waits⟩ := calls_wait_for_their_bodies .standard
    (.atRest .reliable Motors.defaultBackoff : Motors (LoopbackLink Rat) Rat)
    IdSource.numbered_distinct
    (run_moments walking standardScheduler
      (by simp [walking, Operation.SparesBridge, Operation.KeepsTargets]))
    rfl takes rfl
  refine ⟨started, waits.waits.mp ?_, waits⟩
  split at yields
  case h_1 => assumption
  case h_2 => cases yields

/-- While the body of the first call runs, a second one starts none and completes at once. -/
theorem walking_twice_completes :
    let now := standardScheduler.run
      (walking ++ [.execute ⟨"#1"⟩ "procedures_callnoreturn" walk none])
    let second := now.call ⟨"#2"⟩ "procedures_callnoreturn" walk none
    now.isLive ⟨"#2"⟩ = true ∧ (now.scripts.values.any (matchesHat procedureHat "walk")) = true ∧
      (second.1 matches .ok (.completed .null)) = true ∧
      second.2.threads.keys = now.threads.keys ∧ second.2.isLive ⟨"#3"⟩ = true := by
  decide +kernel

end Scheduler

end SpriteMachine
