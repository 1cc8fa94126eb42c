import Mathlib.Tactic.Linarith
import SpriteMachine.Proofs.Block.Lasting
import SpriteMachine.Proofs.Scheduler.Round
import SpriteMachine.Proofs.Scheduler.Timing

/-!
# How long calls last

A call that lasts for a time is invoked again and again. What its first invocation notes of
the timer stays in its frame, and every later one compares the timer with it. So the call is
over when its time has passed outside of pauses, as long as nobody resets the timer: whatever
a reset throws away of the reading has to pass once more.
-/

namespace SpriteMachine

namespace Scheduler

variable {τ : Type} [Transport τ Rat] {start : Scheduler τ Rat}

omit [Transport τ Rat] in
/-- The block completes without a value. -/
def Completes (outcome : Except BlockFault (Value Rat) × Invocation τ Rat) : Prop :=
  outcome.1 = .ok .null ∧ outcome.2.yielded = false

namespace Timeline

variable {timeline : Timeline Timely start} {first earlier later : timeline.Call} {name : String}

/-- The time that has passed from one moment to a later one outside of pauses, less the
readings that were thrown away meanwhile. -/
noncomputable def elapsed (timeline : Timeline Timely start) (from_ until_ : Nat) : Rat :=
  timeline.unpaused until_ - timeline.unpaused from_ -
    (timeline.forgotten until_ - timeline.forgotten from_)

namespace Call

/-- The block at its work. -/
def invocation (call : timeline.Call) : Invocation τ Rat :=
  ⟨call.taken.noteInvocation call.thread call.target call.frame, call.thread, call.target,
    call.frame, false⟩

/-- What a call comes to is what its block makes of its invocation. -/
theorem outcome_eq (call : timeline.Call) :
    call.outcome = call.block.run call.frame.args call.invocation := rfl

/-- A block reads the timer as it is at its moment. -/
theorem now_eq (call : timeline.Call) : call.invocation.now = timeline.timer call.index := by
  have same : call.invocation.scheduler.devices = (timeline.moment call.index).devices :=
    call.takes.devices
  rw [Invocation.now, same, timer]

/-- From one moment to another the timer gains what elapses. -/
theorem timer_sub (zero : timeline.timer 0 = 0) (earlier later : timeline.Call) :
    timeline.timer later.index - timeline.timer earlier.index =
      timeline.elapsed earlier.index later.index := by
  rw [timer_eq zero (Nat.le_of_lt later.within), timer_eq zero (Nat.le_of_lt earlier.within),
    elapsed]
  ring

/-- The milliseconds that a call lasts. -/
def span (call : timeline.Call) (name : String) : Rat := max (call.frame.args.number name) 0 * 1000

/-- The span of a call is read from its argument. -/
theorem span_eq (call : timeline.Call) (name : String) :
    Invocation.millisecondsOf (call.frame.args.number name) = call.span name :=
  Invocation.millisecondsOf_eq _

section Pausing

/-- At first a wait or a bubble notes when it is over. -/
theorem pauses_first (pause : first.block.pause? = some name)
    (new : first.frame.isFirstRun = true) :
    Pauses (timeline.timer first.index + first.span name) true first.outcome := by
  have fresh : first.invocation.frame.isFirstRun = true := new
  have begins := Block.run_first pause fresh first.frame.args
  rw [now_eq, span_eq] at begins
  exact begins

/-- The next invocation waits for the same moment. -/
theorem Again.pauses (again : earlier.Again later) {deadline : Rat}
    (pause : earlier.block.pause? = some name)
    (noted : earlier.outcome.2.frame.notes.deadline = some deadline) :
    Pauses deadline (decide (timeline.timer later.index < deadline)) later.outcome := by
  have kept : later.invocation.frame.notes.deadline = some deadline := by
    change later.frame.notes.deadline = _
    rw [again.frame]
    exact noted
  have known : later.invocation.frame.isFirstRun = false := again.same.2
  have pauses := Block.run_again (again.block.symm ▸ pause) known kept rfl later.frame.args
  rw [now_eq, less_exact] at pauses
  exact pauses

/-- All later invocations wait for the moment that the first one noted. -/
theorem pauses_later (pause : first.block.pause? = some name)
    (new : first.frame.isFirstRun = true) (chain : Relation.TransGen Again first later) :
    Pauses (timeline.timer first.index + first.span name)
      (decide (timeline.timer later.index < timeline.timer first.index + first.span name))
      later.outcome ∧ later.block = first.block := by
  induction chain with
  | single again =>
    exact ⟨again.pauses pause (pauses_first pause new).deadline, again.block⟩
  | tail _ again inductionHypothesis =>
    obtain ⟨pauses, same⟩ := inductionHypothesis
    exact ⟨again.pauses (same.symm ▸ pause) pauses.deadline, again.block.trans same⟩

end Pausing

section Gliding

/-- How an invocation of a glide goes that started somewhere at another invocation. -/
abbrev GlidesFrom (first call : timeline.Call) (x y : Rat) : Prop :=
  MotionBlock.Glides call.invocation first.frame.args x y (timeline.timer first.index) call.outcome

/-- At first a glide notes where its target is. -/
theorem glides_first (glide : first.block = .motion .glide) (new : first.frame.isFirstRun = true)
    {target : Target Rat} (present : first.taken.stage.target? first.target = some target) :
    GlidesFrom first first target.x target.y := by
  have fresh : first.invocation.frame.isFirstRun = true := new
  have begins := MotionBlock.runGlide_glides rfl fresh present first.frame.args
  rw [now_eq] at begins
  unfold GlidesFrom
  rw [outcome_eq, glide]
  exact begins

/-- A glide fails when its target is gone. -/
theorem glides_nowhere (glide : first.block = .motion .glide)
    (new : first.frame.isFirstRun = true)
    (absent : first.taken.stage.target? first.target = none) :
    first.outcome.1 = .error (.targetUnavailable first.target) := by
  have missing : first.invocation.target? = none := absent
  have fresh : first.invocation.frame.isFirstRun = true := new
  have fails := MotionBlock.runGlide_missing fresh missing first.frame.args
  rw [outcome_eq, glide]
  exact congrArg Prod.fst fails

/-- The next invocation of a glide goes on from where it started. -/
theorem Again.glides (again : earlier.Again later) (glide : earlier.block = .motion .glide)
    {args : Args Rat} (same : earlier.frame.args = args) {x y started : Rat}
    (noted : earlier.outcome.2.frame.notes.scratch = some (MotionBlock.startedAt x y started)) :
    MotionBlock.Glides later.invocation args x y started later.outcome := by
  have kept : later.invocation.frame.notes.scratch =
      some (MotionBlock.startedAt x y started) := by
    change later.frame.notes.scratch = _
    rw [again.frame]
    exact noted
  have known : later.invocation.frame.isFirstRun = false := again.same.2
  have goesOn := MotionBlock.continueGlide_glides rfl kept args
  rw [outcome_eq, again.block, glide, again.same.1.args, same]
  change MotionBlock.Glides _ _ _ _ _ (MotionBlock.runGlide args later.invocation)
  rw [MotionBlock.runGlide_again known]
  exact goesOn

/-- All invocations of a glide go on from where the first one found the target. -/
theorem glides_all (glide : first.block = .motion .glide) (new : first.frame.isFirstRun = true)
    {target : Target Rat} (present : first.taken.stage.target? first.target = some target)
    (chain : Relation.ReflTransGen Again first later) :
    GlidesFrom first later target.x target.y ∧ first.Same later := by
  induction chain with
  | refl => exact ⟨glides_first glide new present, rfl, rfl, rfl, rfl, rfl, rfl⟩
  | tail _ again inductionHypothesis =>
    obtain ⟨glides, same⟩ := inductionHypothesis
    exact ⟨again.glides (same.block.trans glide) same.args glides.scratch,
      same.trans again.same.1⟩

end Gliding

/-- How a call goes that lasts for a number of milliseconds. -/
structure Lasts (first : timeline.Call) (span : Rat) : Prop where
  /-- A wait and a bubble give up the rest of the tick at first, however short they are. -/
  waits : first.block ≠ .motion .glide → Yields first.outcome
  /-- So does a glide if it takes time; otherwise it is over at once. -/
  glides : first.block = .motion .glide →
    (first.taken.stage.target? first.target).isSome = true →
      (0 < span → Yields first.outcome) ∧ (span ≤ 0 → Completes first.outcome)
  /-- A glide whose target is gone fails. -/
  fails : first.block = .motion .glide → first.taken.stage.target? first.target = none →
    first.outcome.1 = .error (.targetUnavailable first.target)
  /-- The call goes on at every later invocation before its time has passed outside of pauses,
  whatever happens meanwhile. -/
  early : ∀ later, Relation.TransGen Again first later →
    timeline.unpaused later.index < timeline.unpaused first.index + span → Yields later.outcome
  /-- It is over at every later invocation when that time has passed, if nobody has reset the
  timer. -/
  due : ∀ later, Relation.TransGen Again first later →
    timeline.Unreset first.index later.index →
      timeline.unpaused first.index + span ≤ timeline.unpaused later.index → Completes later.outcome
  /-- Resets prolong the call by the readings that they throw away, and by nothing else. -/
  prolonged : ∀ later, Relation.TransGen Again first later →
    (timeline.elapsed first.index later.index < span → Yields later.outcome) ∧
      (span ≤ timeline.elapsed first.index later.index → Completes later.outcome)
  /-- Where no renderer is, every invocation of a glide puts the sprite where the share of the
  time that has elapsed says. -/
  placed : first.block = .motion .glide → ∀ origin,
    first.taken.stage.target? first.target = some origin →
      ∀ later, Relation.ReflTransGen Again first later → later.taken.stage.renderer = none →
        ∀ target, later.taken.stage.target? later.target = some target →
          target.isStage = false →
            later.outcome.2.scheduler.stage.target? later.target = some { target with
              x := MotionBlock.between origin.x (first.frame.args.number "X")
                (MotionBlock.shareOf (timeline.elapsed first.index later.index) span)
              y := MotionBlock.between origin.y (first.frame.args.number "Y")
                (MotionBlock.shareOf (timeline.elapsed first.index later.index) span) }
  /-- If nobody has reset the timer, that is between the start and the end of the glide. -/
  inside : ∀ later, Relation.ReflTransGen Again first later →
    timeline.Unreset first.index later.index →
      0 ≤ MotionBlock.shareOf (timeline.elapsed first.index later.index) span ∧
        MotionBlock.shareOf (timeline.elapsed first.index later.index) span ≤ 1

/-- Invocations of one call follow one another. -/
theorem index_le (chain : Relation.ReflTransGen Again first later) : first.index ≤ later.index := by
  induction chain with
  | refl => exact Nat.le_refl _
  | tail _ again inductionHypothesis => exact inductionHypothesis.trans again.after.le

omit [Transport τ Rat] in
/-- Whether the call yields or completes is decided by what has elapsed. -/
theorem outcome_of_decide {outcome : Except BlockFault (Value Rat) × Invocation τ Rat}
    {elapsed span : Rat} (value : outcome.1 = .ok .null)
    (yielded : outcome.2.yielded = decide (elapsed < span)) :
    (elapsed < span → Yields outcome) ∧ (span ≤ elapsed → Completes outcome) := by
  constructor
  · intro before
    exact ⟨⟨_, value⟩, yielded.trans (decide_eq_true before)⟩
  · intro past
    exact ⟨value, yielded.trans (decide_eq_false (not_lt.mpr past))⟩

/-- Every later invocation of a call that lasts compares what has elapsed with its span. -/
theorem lasts_later (initial : timeline.timer 0 = 0) (lasting : first.block.span? = some name)
    (new : first.frame.isFirstRun = true) (chain : Relation.TransGen Again first later) :
    (timeline.elapsed first.index later.index < first.span name → Yields later.outcome) ∧
      (first.span name ≤ timeline.elapsed first.index later.index →
        Completes later.outcome) := by
  rw [← timer_sub initial first later]
  by_cases glide : first.block = .motion .glide
  · rw [glide] at lasting
    obtain rfl : "SECS" = name := Option.some.inj lasting
    obtain ⟨next, again, -⟩ := Relation.TransGen.head'_iff.mp chain
    cases found : first.taken.stage.target? first.target with
    | none =>
      have fails := glides_nowhere glide new found
      obtain ⟨⟨value, completes⟩, -⟩ := again.yields
      rw [fails] at completes
      cases completes
    | some target =>
      obtain ⟨glides, -⟩ := glides_all glide new found chain.to_reflTransGen
      have yielded := glides.yielded
      rw [now_eq, span_eq] at yielded
      exact outcome_of_decide glides.value yielded
  · obtain ⟨pauses, -⟩ := pauses_later (Block.pause_of_span lasting glide) new chain
    refine outcome_of_decide pauses.value (pauses.yielded.trans ?_)
    rw [decide_eq_decide]
    exact sub_lt_iff_lt_add'.symm

/-- In every run that begins with the timer at zero, calls last as long as they say. -/
theorem lasts (initial : timeline.timer 0 = 0) (lasting : first.block.span? = some name)
    (new : first.frame.isFirstRun = true) : first.Lasts (first.span name) where
  waits other := by
    have pauses := pauses_first (Block.pause_of_span lasting other) new
    exact ⟨⟨_, pauses.value⟩, pauses.yielded⟩
  glides glide present := by
    obtain ⟨target, found⟩ := Option.isSome_iff_exists.mp present
    rw [glide] at lasting
    obtain rfl : "SECS" = name := Option.some.inj lasting
    have glides := glides_first glide new found
    have yielded := glides.yielded
    rw [now_eq, sub_self, span_eq] at yielded
    exact outcome_of_decide glides.value yielded
  fails glide absent := glides_nowhere glide new absent
  early later chain before := by
    have kept := forgotten_le initial (index_le chain.to_reflTransGen) (Nat.le_of_lt later.within)
    refine (lasts_later initial lasting new chain).1 ?_
    rw [elapsed]
    linarith
  due later chain kept past := by
    have same := forgotten_eq (index_le chain.to_reflTransGen) kept
    refine (lasts_later initial lasting new chain).2 ?_
    rw [elapsed, same]
    linarith
  prolonged later chain := lasts_later initial lasting new chain
  placed glide origin found later chain undrawn target present sprite := by
    rw [glide] at lasting
    obtain rfl : "SECS" = name := Option.some.inj lasting
    obtain ⟨glides, -⟩ := glides_all glide new found chain
    have placed := glides.placed undrawn target present sprite
    rw [now_eq, span_eq, timer_sub initial first later] at placed
    exact placed
  inside later chain kept := by
    have same := forgotten_eq (index_le chain) kept
    have forward := unpaused_le (index_le chain) (Nat.le_of_lt later.within)
    refine MotionBlock.shareOf_mem ?_
    rw [elapsed, same]
    linarith

end Call

end Timeline

/-- Calls last as long as they say. Whatever blocks and host do while the time source moves
forward and the clock is paused and resumed, a wait, a timed bubble or a glide asks to be
invoked again until its time has passed outside of pauses, and then completes, unless somebody
resets the timer: each reset prolongs the call by the reading that it throws away, and carries
a glide off its way. Every invocation belongs to a call with a first one. -/
theorem timed_calls_last (config : SchedulerConfig) (registry : Registry) (transport : τ)
    (motors : Motors (LoopbackLink Rat) Rat) {ids : IdSource} (distinct : ids.Distinct)
    (timeline : Timeline Timely (fresh config registry transport ids motors)) :
    (∀ (first : timeline.Call) (name : String), first.frame.isFirstRun = true →
      first.block.span? = some name → first.Lasts (first.span name)) ∧
    ∀ later : timeline.Call, ∃ first : timeline.Call, first.frame.isFirstRun = true ∧
      Relation.ReflTransGen Timeline.Call.Again first later := by
  have piled := fresh_piled config registry transport motors distinct
  have zero : timeline.timer 0 = 0 := by
    rw [Timeline.timer, timeline.starts, Clock.timerMilliseconds_eq]
    exact sub_self 0
  constructor
  · intro first name new lasting
    exact Timeline.Call.lasts zero lasting new
  · exact (timeline.replays piled fun _ => rfl).first

/-- Somebody moves the time source forward by hand. -/
def pass (milliseconds : Rat) : Operation (Inline Rat) Rat :=
  .changeDevices fun devices => { devices with clock := devices.clock.advance milliseconds }

/-- To let time pass forward is timely. -/
theorem timely_pass (scheduler : Scheduler (Inline Rat) Rat) {milliseconds : Rat}
    (forward : 0 ≤ milliseconds) : scheduler.Timely (pass milliseconds) :=
  .moved (le_add_of_nonneg_right forward)

/-- A thread waits for a second, and after a second the next tick resumes it. -/
def oneWait : Timeline Timely standardScheduler :=
  (Timeline.still standardScheduler)
    |>.andThen (.operate _ (.addTarget (.sprite ⟨"cat"⟩ "Cat")) trivial (by simp))
    |>.andThen (.operate _ (.registerThread ⟨"cat"⟩ false) trivial (by simp))
    |>.andThen (.operate _ (pass 250) (timely_pass _ (by decide)) (by simp [pass]))
    |>.andThen (.operate _ (.execute ⟨"#0"⟩ "control_wait" (.ofList [("DURATION", .int 1)]) none)
      trivial (by simp))
    |>.andThen (.operate _ (pass 1000) (timely_pass _ (by decide)) (by simp [pass]))
    |>.andThen (.phase (.begin _))
    |>.andThen (.phase (.sweep _))
    |>.andThen (.phase (.resume _ ⟨1, false, [], 0, 0, [], []⟩ ⟨"#0"⟩))

/-- The frame of an invocation is the last one that is recorded. -/
theorem Timeline.Call.recorded_last {timeline : Timeline Timely start} (call : timeline.Call) :
    (timeline.moment (call.index + 1)).invocations.getLast?.map (·.2.2) = some call.frame := by
  rw [call.recorded, List.getLast?_concat]
  rfl

/-- The only invocations in that run are at the fourth moment and at the last but one. -/
theorem oneWait_calls (call : oneWait.Call) : call.index = 3 ∨ call.index = 7 := by
  have silent : ∀ index < 8, index ≠ 3 → index ≠ 7 →
      (oneWait.moment (index + 1)).invocations.length =
        (oneWait.moment index).invocations.length := by decide +kernel
  by_contra elsewhere
  rw [not_or] at elsewhere
  have same := silent call.index call.within elsewhere.1 elsewhere.2
  rw [call.recorded, List.length_append] at same
  simp at same

/-- The tick at the end of that run resumes the wait. -/
theorem oneWait_resumes : ∃ later : oneWait.Call, later.index = 7 := by
  have grows : (oneWait.moment 8).invocations.length ≠ (oneWait.moment 7).invocations.length := by
    decide +kernel
  have within : 7 < oneWait.length := by decide
  obtain ⟨later, last, -⟩ := (oneWait.recorded within).resolve_left
    fun same => grows (congrArg List.length same)
  exact ⟨later, last⟩

/-- The last invocation of the wait is not the first one. -/
theorem oneWait_resumed {call : oneWait.Call} (last : call.index = 7) :
    call.frame.isFirstRun = false := by
  have resumed : ((oneWait.moment 8).invocations.getLast?.map (·.2.2)).map Frame.isFirstRun =
      some false := by decide +kernel
  have frame := call.recorded_last
  rw [last] at frame
  rw [frame] at resumed
  exact Option.some.inj resumed

/-- The other invocation tells the thread to wait for a second. -/
theorem oneWait_begun {call : oneWait.Call} (early : call.index = 3) :
    call.block.span? = some "DURATION" ∧ call.span "DURATION" = 1000 := by
  have begun : ((oneWait.moment 4).invocations.getLast?.map (·.2.2)).map (fun frame =>
      (frame.opcode, frame.args.number "DURATION")) = some ("control_wait", 1) := by
    decide +kernel
  have frame := call.recorded_last
  rw [early] at frame
  rw [frame, Option.map_some, Option.some.injEq, Prod.mk.injEq] at begun
  have known := call.takes.known
  have waits : (oneWait.moment 3).registry.block? "control_wait" = some (.control .wait) := by
    decide +kernel
  rw [early, begun.1, waits] at known
  constructor
  · rw [← Option.some.inj known]
    rfl
  · rw [Timeline.Call.span, begun.2, max_eq_left zero_le_one, one_mul]

/-- Nobody resets the timer while the wait lasts. -/
theorem oneWait_unreset : oneWait.Unreset 3 7 := by
  have readings : ∀ index < 7, 3 ≤ index →
      (oneWait.moment (index + 1)).devices.clock.timerMilliseconds ≠ 0 := by decide +kernel
  intro index from_ until_ resets
  exact readings index until_ from_ resets.clock.1

/-- The wait goes on until its second has passed, and no longer. -/
theorem oneWait_lasts :
    ∃ first later : oneWait.Call, first.Lasts 1000 ∧
      Relation.TransGen Timeline.Call.Again first later ∧
      oneWait.Unreset first.index later.index ∧
      oneWait.unpaused first.index + 1000 = oneWait.unpaused later.index ∧
      Completes later.outcome := by
  obtain ⟨calls, chains⟩ := timed_calls_last .standard .standard (.idle none : Inline Rat)
    (.atRest .reliable Motors.defaultBackoff) IdSource.numbered_distinct oneWait
  obtain ⟨later, last⟩ := oneWait_resumes
  obtain ⟨first, new, chain⟩ := chains later
  have early : first.index = 3 := by
    refine (oneWait_calls first).resolve_right fun late => ?_
    exact Bool.false_ne_true ((oneWait_resumed late).symm.trans new)
  have span : first.span "DURATION" = 1000 := (oneWait_begun early).2
  have lasts := calls first "DURATION" new (oneWait_begun early).1
  rw [span] at lasts
  have moves : first ≠ later := by
    rintro rfl
    omega
  have again := (Relation.reflTransGen_iff_eq_or_transGen.mp chain).resolve_left moves.symm
  have unreset : oneWait.Unreset first.index later.index := by
    rw [early, last]
    exact oneWait_unreset
  have passes : oneWait.unpaused first.index + 1000 = oneWait.unpaused later.index := by
    rw [early, last]
    decide +kernel
  exact ⟨first, later, lasts, again, unreset, passes, lasts.due later again unreset passes.le⟩

/-- A thread waits for a second, in the middle of which another one resets the timer. -/
def resetWait : List (Operation (Inline Rat) Rat) :=
  [.addTarget (.sprite ⟨"cat"⟩ "Cat"), .registerThread ⟨"cat"⟩ false,
    .registerThread ⟨"cat"⟩ false,
    .execute ⟨"#0"⟩ "control_wait" (.ofList [("DURATION", .int 1)]) none, pass 500,
    .execute ⟨"#1"⟩ "sensing_resettimer" .empty none, pass 600, .step]

/-- When more than a second has passed without a pause, the wait still goes on. -/
theorem resetWait_overstays :
    let begun := standardScheduler.run (resetWait.take 3)
    let later := standardScheduler.run resetWait
    begun.devices.clock.source + 1000 < later.devices.clock.source ∧
      (∀ count ≤ 8, (standardScheduler.run (resetWait.take count)).devices.clock.isPaused = false) ∧
      (later.standing ⟨"#0"⟩).map (fun thread =>
        (thread.status, thread.waiting.map Frame.opcode)) = some (.yielding, ["control_wait"]) := by
  decide +kernel

end Scheduler

end SpriteMachine
