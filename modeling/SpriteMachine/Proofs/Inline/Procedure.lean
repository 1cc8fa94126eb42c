import SpriteMachine.Proofs.Inline.Dispatch
import SpriteMachine.Proofs.Scheduler.Returns
import SpriteMachine.Proofs.Scheduler.Tracking

/-!
# Calls and their values

A call for a value starts the bodies of its procedure when it is invoked first, under names
that nobody else has, and notes them in its frame. Every such frame on a stack is vouched
for: there was a first invocation that started just these threads. When it completes, they
have ended, and it gives what the first of them reported that reported something. Until then
the host keeps what they reported, also when they were evicted long before.
-/

namespace SpriteMachine

variable {α : Type} [Scalar α]

/-- A frame that waits for threads since its block was invoked. -/
def Frame.waitingFor (frame : Frame α) (started : List ThreadId) : Frame α :=
  { frame with state := .waiting, notes := { frame.notes with spawned := started } }

namespace Scheduler

section Enrolling

omit [Scalar α] in
/-- Names stay issued while the worker is asked to start the threads that were begun. -/
theorem startHats_continues {τ : Type} [Transport τ α] (scheduler : Scheduler τ α) {hat : String}
    {restarting : Bool} (known : scheduler.registry.hat? hat = some restarting)
    (filter : HatFilter) :
    IdSource.Continues
      (beginAll hat restarting scheduler (scheduler.hatCandidates hat filter)).2.ids
      (scheduler.startHats hat filter).2.ids := by
  unfold Scheduler.startHats
  rw [known]
  dsimp only
  split
  case isTrue => exact .refl _
  case isFalse => exact (requestStarts_strokes (tellStopped _ _) hat filter.option _).keeps.ids

/-- Beside an inline worker a hat starts threads under new names. -/
theorem startHats_enrolls {scheduler after : Scheduler (Inline α) α} {limit : Nat}
    (shares : Shares limit scheduler) (orderly : Orderly scheduler) {hat : String}
    {filter : HatFilter} {started : List ThreadId}
    (passed : scheduler.startHats hat filter = (.ok started, after)) :
    Enrolls scheduler started after := by
  cases known : scheduler.registry.hat? hat with
  | none =>
    unfold Scheduler.startHats at passed
    rw [known] at passed
    cases (Prod.mk.inj passed).1
  | some restarting =>
    have accepted := startHats_accepted shares orderly.distinct known filter
    have continues := startHats_continues scheduler known filter
    rw [passed] at accepted continues
    obtain rfl := Except.ok.inj accepted
    have enlists := beginAll_enlists hat restarting (scheduler.hatCandidates hat filter) scheduler
    have begins := beginAll_begins hat restarting (scheduler.hatCandidates hat filter) scheduler
    refine ⟨enlists.fresh orderly.distinct, fun id member => continues.issued_of ?_,
      enlists.distinct orderly.distinct⟩
    obtain ⟨start, present, rfl⟩ := List.mem_map.mp member
    exact begins.issued orderly start present

/-- Taking up an invocation does not concern the scripts. -/
theorem TakesUp.passes {now taken : Scheduler (Inline α) α} {id : ThreadId} {target : TargetId}
    {block : Block} {frame : Frame α} (takes : TakesUp now id target block frame taken) :
    Passes now (taken.noteInvocation id target frame) := by
  have noted : Passes taken (taken.noteInvocation id target frame) := .still rfl (.refl _) rfl
  cases takes with
  | resumed wakes known =>
    obtain ⟨-, -, woken, -, rfl⟩ := wakes
    exact .still rfl (.refl _) rfl
  | called received found active known => exact (next_passes received).trans noted
  | executed found active known => exact noted

end Enrolling

/-- Between two moments, the host leaves the bridge to the scheduler. -/
abbrev Course : Scheduler (Inline α) α → Scheduler (Inline α) α → Prop :=
  Moments fun _ operation => operation.SparesBridge

variable {start now before after taken : Scheduler (Inline α) α} {id : ThreadId}
  {target : TargetId} {frame : Frame α} {started : List ThreadId}

/-- The host stays orderly in the course of things. -/
theorem Course.orderly (course : Course start now) (orderly : Orderly start) : Orderly now :=
  (Moments.advances course orderly).1

/-- The worker keeps the scripts of the host in the course of things. -/
theorem Course.shares {limit : Nat} (course : Course start now) (shares : Shares limit start) :
    Shares limit now :=
  Moments.induct (Shares limit) (fun _ _ spared shares => shares.perform spared)
    (fun _ _ _ beats shares => shares.pass beats.passes) course shares

/-- A call for a value that is invoked first starts threads. -/
def CallStarts (taken : Scheduler (Inline α) α) (id : ThreadId) (target : TargetId)
    (frame : Frame α) (started : List ThreadId) : Prop :=
  frame.isFirstRun = true ∧
    ((taken.noteInvocation id target frame).startHats reportingProcedureHat
      ⟨some (frame.args.text "PROCCODE"), some target⟩).1 = .ok started

/-- A frame that waits since its first invocation, which started threads for it. -/
def Opened (start now : Scheduler (Inline α) α) (id : ThreadId) (frame : Frame α) : Prop :=
  ∃ earlier target first taken, Course start earlier ∧
    TakesUp earlier id target (.procedure .callForValue) first taken ∧
    CallStarts taken id target first frame.notes.spawned ∧
    frame = first.waitingFor frame.notes.spawned ∧
    Course (taken.invoke id target (.procedure .callForValue) first).2 now

/-- A frame that waits since its first invocation still does at a later moment. -/
theorem Opened.later (opened : Opened start now id frame) (course : Course now after) :
    Opened start after id frame := by
  obtain ⟨earlier, target, first, taken, reached, takes, starts, same, since⟩ := opened
  exact ⟨earlier, target, first, taken, reached, takes, starts, same, since.trans course⟩

section Vouching

/-- A frame is sparing, and vouched for if it is that of a call for a value which was invoked
before. -/
structure Vouched (voucher : ThreadId → Frame α → Prop) (registry : Registry) (id : ThreadId)
    (frame : Frame α) : Prop extends frame.Sparing registry where
  told : registry.block? frame.opcode = some (.procedure .callForValue) →
    frame.isFirstRun = false → voucher id frame

/-- Every frame on a stack is vouched for. -/
def Vouches {τ : Type} (voucher : ThreadId → Frame α → Prop) (scheduler : Scheduler τ α) : Prop :=
  ∀ id thread, scheduler.threads.find? id = some thread → ∀ frame ∈ thread.frames,
    Vouched voucher scheduler.registry id frame

variable {voucher : ThreadId → Frame α → Prop}

/-- A fresh frame is vouched for, since it was never invoked. -/
theorem fresh_vouched (registry : Registry) (id : ThreadId) (opcode : String) (args : Args α)
    (token : Option Token) : Vouched voucher registry id (.fresh opcode args token) where
  idle _ _ _ := rfl
  new _ := rfl
  told _ later := by cases later

/-- Whoever vouches more widely vouches for the same frames. -/
theorem Vouches.widen {other : ThreadId → Frame α → Prop} (vouches : Vouches voucher now)
    (within : ∀ id frame, voucher id frame → other id frame) : Vouches other now :=
  fun id thread found frame member =>
    have vouched := vouches id thread found frame member
    { vouched with told := fun known later => within id frame (vouched.told known later) }

/-- Frames stay vouched for where the threads stay. -/
theorem Vouches.still (vouches : Vouches voucher before) (threads : after.threads = before.threads)
    (registry : after.registry = before.registry) : Vouches voucher after := by
  rw [Vouches, threads, registry]
  exact vouches

/-- Frames stay vouched for where no block is invoked. -/
theorem Vouches.hush (vouches : Vouches voucher before) (hushed : Hushed before after) :
    Vouches voucher after := by
  intro id thread found frame member
  rw [hushed.registry]
  rcases hushed.threads id thread found with ⟨earlier, was, fewer, -⟩ | bare
  · exact vouches id earlier was frame (fewer.subset member)
  · obtain ⟨name, rfl⟩ := bare frame member
    exact fresh_vouched _ _ _ _ _

/-- A frame that is vouched for may be put on a stack. -/
theorem Vouches.suspend (vouches : Vouches voucher now)
    (vouched : Vouched voucher now.registry id { frame with state := .waiting }) :
    Vouches voucher (now.suspend id frame) := by
  intro other thread found each member
  obtain ⟨earlier, was, rfl | ⟨rfl, -, pushed⟩⟩ := suspend_find found
  · exact vouches other thread was each member
  · rw [pushed, List.mem_cons] at member
    rcases member with rfl | below
    · exact vouched
    · exact vouches other earlier was each below

/-- So is the frame that is taken up. -/
theorem Vouches.take {block : Block} (vouches : Vouches voucher now)
    (takes : TakesUp now id target block frame taken) :
    Vouched voucher now.registry id frame := by
  cases takes with
  | resumed wakes known =>
    obtain ⟨found, -, woken, popped, -⟩ := wakes
    have frames := popBlock_frames popped
    rw [Thread.setStatus_frames] at frames
    exact vouches _ _ found frame (frames ▸ List.mem_cons_self)
  | called received found active known => exact fresh_vouched _ _ _ _ _
  | executed found active known => exact fresh_vouched _ _ _ _ _

/-- What is noted at the first invocation is what was started there. -/
theorem Vouched.starts {registry : Registry} {scheduler : Scheduler (Inline α) α}
    (vouched : Vouched voucher registry id frame) (new : frame.isFirstRun = true)
    (starts : (taken.noteInvocation id target frame).startHats reportingProcedureHat
      ⟨some (frame.args.text "PROCCODE"), some target⟩ = (.ok started, scheduler)) :
    CallStarts taken id target frame (frame.notes.spawned ++ started) := by
  refine ⟨new, ?_⟩
  rw [starts, vouched.new new]
  rfl

end Vouching

/-- The host keeps faith, and every frame is vouched for. -/
structure Honest (start now : Scheduler (Inline α) α) : Prop where
  course : Course start now
  faith : Faith [] now
  vouches : Vouches (Opened start now) now

section Invoking

variable {limit : Nat} {block : Block} {left : Invocation (Inline α) α}

/-- The standard blocks are no probes. -/
theorem standard_block (standard : now.registry = .standard)
    (takes : TakesUp now id target block frame taken) (probe : ProbeBlock) :
    block ≠ .probe probe := by
  rintro rfl
  exact Registry.standard_unprobed frame.opcode probe (standard ▸ takes.known)

/-- A call for a value waits with a frame that its first invocation left. -/
theorem Honest.opened (honest : Honest start now)
    (takes : TakesUp now id target (.procedure .callForValue) frame taken)
    {opened : Invocation (Inline α) α}
    (opens : Invocation.Opens ⟨taken.noteInvocation id target frame, id, target, frame, false⟩
      reportingProcedureHat ⟨some (frame.args.text "PROCCODE"), some target⟩ opened) :
    Opened start (taken.invoke id target (.procedure .callForValue) frame).2 id
      { opened.frame with state := .waiting } := by
  have vouched := honest.vouches.take takes
  cases opens with
  | @first started scheduler new starts =>
    exact ⟨now, target, frame, taken, honest.course, takes, vouched.starts new starts, rfl, .refl⟩
  | again invoked =>
    have told := vouched.told takes.known invoked
    have waiting : { frame with state := .waiting } = frame := by
      obtain ⟨earlier, on, first, former, -, -, -, shape, -⟩ := told
      rw [shape]
      rfl
    change Opened _ _ id { frame with state := .waiting }
    rw [waiting]
    exact told.later (.single (takes.turn fun _ _ _ => trivial))

/-- The frame with which a block waits is vouched for. -/
theorem Honest.suspended (honest : Honest start now) (standard : now.registry = .standard)
    (takes : TakesUp now id target block frame taken) {value : Value α}
    (ran : block.run frame.args ⟨taken.noteInvocation id target frame, id, target, frame, false⟩ =
      (.ok value, left)) (yields : left.yielded = true) :
    Vouched (Opened start (taken.invoke id target block frame).2) now.registry id
      { left.frame with state := .waiting } := by
  have works := Block.run_works block frame.args
    ⟨taken.noteInvocation id target frame, id, target, frame, false⟩
  rw [ran] at works
  have same : ∀ other, now.registry.block? left.frame.opcode = some other → other = block := by
    intro other known
    rw [works.opcode] at known
    exact Option.some.inj (known.symm.trans takes.known)
  rcases block.kinds (standard_block standard takes) frame.args target with
    ⟨hat, filter, awaited⟩ | ⟨tending, resting⟩ | rfl
  · have awaits : block.Awaits
        ⟨taken.noteInvocation id target frame, id, target, frame, false⟩ hat filter
          (.ok value, left) := ran ▸ Block.run_awaits awaited
    cases awaits with
    | @waits opened opens waiting =>
      refine ⟨⟨fun other known idle => ?_, fun new => by cases new⟩, fun known later => ?_⟩
      · obtain rfl := same other known
        have nothing := idle target
        rw [show opened.yieldThread.frame.args = frame.args from works.args, awaited] at nothing
        cases nothing
      · obtain rfl := same _ known
        obtain ⟨rfl, rfl⟩ := Prod.mk.inj (Option.some.inj awaited)
        have kept := honest.opened takes opens
        exact kept
    | settles opens settled =>
      rw [Block.settle_yielded, opens.yielded] at yields
      cases yields
  · have tends := Block.run_tends tending frame.args
      ⟨taken.noteInvocation id target frame, id, target, frame, false⟩
    rw [ran] at tends
    refine ⟨⟨fun other known idle => ?_, fun new => by cases new⟩, fun known later => ?_⟩
    · exact tends.spawned.trans
        ((honest.vouches.take takes).idle block takes.known resting)
    · obtain rfl := same _ known
      exact tending.elim
  · obtain ⟨-, rfl⟩ := Prod.mk.inj ran.symm
    cases yields

/-- An invocation leaves an honest host honest. -/
theorem Honest.invoke (honest : Honest start now) (orderly : Orderly now)
    (shares : Shares limit now) (standard : now.registry = .standard)
    (takes : TakesUp now id target block frame taken) :
    Honest start (taken.invoke id target block frame).2 := by
  have turn : Course now (taken.invoke id target block frame).2 :=
    .single (takes.turn fun _ _ _ => trivial)
  have vouched := honest.vouches.take takes
  have taking := takes.idles.toHushed
  have noted := (takes.advances orderly).1
  have shared := shares.pass takes.passes
  have issued : taken.ids.Issued id.text := by
    obtain ⟨thread, found, -⟩ := find_of_isLive takes.live
    exact taking.ids.issued_of (orderly.issued id thread found)
  cases ran : block.run frame.args
      ⟨taken.noteInvocation id target frame, id, target, frame, false⟩ with
  | mk result left =>
  obtain ⟨held, dropped⟩ := (honest.faith.take takes).run noted issued
    (by rw [taking.registry]; exact takes.known) (standard_block standard takes)
    (by rw [taking.registry]; exact vouched.toSparing)
    (fun hat filter started after passed => startHats_enrolls shared noted passed) ran
  have works := Block.run_works block frame.args
    ⟨taken.noteInvocation id target frame, id, target, frame, false⟩
  rw [ran] at works
  have running := works.acts.strokes.hushed
  have told : Vouches (Opened start (taken.invoke id target block frame).2)
      (taken.noteInvocation id target frame) :=
    (honest.vouches.hush taking).widen fun _ _ opened => opened.later turn
  have vouches := told.hush running
  rcases invoke_ends ran with ⟨value, rfl, yields, same⟩ | ⟨bridge, results, same⟩
  · have waits := honest.suspended standard takes ran yields
    rw [← taking.registry] at waits
    refine ⟨honest.course.trans turn, ?_, ?_⟩
    · rw [same]
      exact (held yields).suspend id
    · have suspended := vouches.suspend (running.registry ▸ waits)
      exact suspended.still (by rw [same]) (by rw [same])
  · refine ⟨honest.course.trans turn, ?_, vouches.still (by rw [same]) (by rw [same])⟩
    rw [same]
    exact dropped.still rfl rfl rfl fun _ => rfl

/-- The threads for which an invocation waits are in the hand of an honest host. -/
theorem Honest.opens (honest : Honest start now) (orderly : Orderly now)
    (shares : Shares limit now) (takes : TakesUp now id target block frame taken)
    (silent : block ≠ .procedure .report) {hat : String} {filter : HatFilter}
    {opened : Invocation (Inline α) α}
    (opens : Invocation.Opens ⟨taken.noteInvocation id target frame, id, target, frame, false⟩
      hat filter opened) :
    Faith opened.frame.notes.spawned opened.scheduler := by
  have noted := (takes.advances orderly).1
  have shared := shares.pass takes.passes
  have known := takes.known
  rw [← takes.idles.registry] at known
  have faith := (honest.faith.take takes).note id target fun reports =>
    silent (Option.some.inj (known.symm.trans reports))
  exact Faith.opens faith noted (honest.vouches.take takes).new
    (fun started after passed => startHats_enrolls shared noted passed) opens

end Invoking

section Running

variable {limit : Nat}

/-- From one moment to the next the host stays honest. -/
theorem Honest.turn (honest : Honest start now) (orderly : Orderly now) (shares : Shares limit now)
    (standard : now.registry = .standard)
    (turn : Turn (fun _ operation => operation.SparesBridge) now after) : Honest start after := by
  rcases turn.cases with ⟨id, target, block, frame, taken, takes, rfl⟩ | idles
  · exact honest.invoke orderly shares standard takes
  · exact ⟨honest.course.tail turn, honest.faith.idles idles,
      (honest.vouches.hush idles.toHushed).widen fun _ _ opened => opened.later (.single turn)⟩

/-- A host that starts out honest stays so. -/
theorem Course.honest (course : Course start now) (orderly : Orderly start)
    (shares : Shares limit start) (standard : start.registry = .standard)
    (honest : Honest start start) : Honest start now := by
  induction course with
  | refl => exact honest
  | tail reached turn inductionHypothesis =>
    have advances := Moments.advances reached orderly
    exact inductionHypothesis.turn advances.1 (Course.shares reached shares)
      (advances.2.registry.trans standard) turn

end Running

/-- The threads that the first invocation of a call for a value started; this invocation is
the first, or an earlier one was. -/
def FirstStarted (start now : Scheduler (Inline α) α) (id : ThreadId) (target : TargetId)
    (frame : Frame α) (taken : Scheduler (Inline α) α) (started : List ThreadId) : Prop :=
  CallStarts taken id target frame started ∨
    frame.isFirstRun = false ∧ frame.notes.spawned = started ∧ Opened start now id frame

/-- A call for a value collects what was reported: the threads have ended that its first
invocation started, and the value is the first one that they reported in the order of their
start, or the empty text. -/
structure Collects (start now : Scheduler (Inline α) α) (id : ThreadId) (target : TargetId)
    (frame : Frame α) (taken : Scheduler (Inline α) α) (started : List ThreadId)
    (value : Value α) : Prop where
  first : FirstStarted start now id target frame taken started
  ended : ∀ callee ∈ started,
    (taken.invoke id target (.procedure .callForValue) frame).2.isLive callee = false
  given : value = (started.findSome?
    (taken.invoke id target (.procedure .callForValue) frame).2.reportOf).getD (.text "")

/-- A call for a value that completes has collected what was reported. -/
theorem Honest.completes {limit : Nat} (honest : Honest start now) (orderly : Orderly now)
    (shares : Shares limit now)
    (takes : TakesUp now id target (.procedure .callForValue) frame taken) {value : Value α}
    (completes : (taken.invoke id target (.procedure .callForValue) frame).1 =
      .ok (.completed value)) :
    ∃ started, Collects start now id target frame taken started value := by
  obtain ⟨left, ran, asleep⟩ := outcome_completed completes
  have awaits : (Block.procedure .callForValue).Awaits
      ⟨taken.noteInvocation id target frame, id, target, frame, false⟩ reportingProcedureHat
      ⟨some (frame.args.text "PROCCODE"), some target⟩ (.ok value, left) :=
    ran ▸ Block.run_awaits rfl
  cases awaits with
  | waits opens waiting => cases asleep
  | @settles opened opens settled =>
    have held := honest.opens orderly shares takes (by simp) opens
    obtain ⟨returns, settles, -⟩ := held.settle (.procedure .callForValue)
    obtain ⟨bridge, results, same⟩ := (invoke_ends ran).resolve_left fun ⟨_, _, yields, _⟩ => by
      rw [asleep] at yields
      cases yields
    refine ⟨opened.frame.notes.spawned, ?_, fun callee member => ?_, ?_⟩
    · cases opens with
      | @first started scheduler new starts =>
        exact Or.inl ((honest.vouches.take takes).starts new starts)
      | again invoked =>
        exact Or.inr ⟨invoked, rfl, (honest.vouches.take takes).told takes.known invoked⟩
    · have ended : opened.scheduler.isLive callee = false := by
        simpa using List.any_eq_false.mp settled callee member
      rw [same, settles]
      exact ended
    · rw [same, settles]
      exact held.settle_value

/-- Values reach their callers, and nobody else. Beside an inline worker, at any moment that
operations and ticks lead to: when a call for a value completes, all threads that its first
invocation started have ended, and it gives what the first of them in the order of their start
reported that reported a value, or the empty text if none did. Until an active thread collects
what it waits for, the host keeps for every thread that it noted what this thread reported. -/
theorem values_reach_their_callers (config : SchedulerConfig) (motors : Motors (LoopbackLink α) α)
    {ids : IdSource} (distinct : ids.Distinct) {now : Scheduler (Inline α) α}
    (reached : Course
      (fresh config .standard (Inline.idle config.blockTimeout) ids motors) now) :
    (∀ id target frame taken value,
      TakesUp now id target (.procedure .callForValue) frame taken →
      (taken.invoke id target (.procedure .callForValue) frame).1 = .ok (.completed value) →
      ∃ started, Collects
        (fresh config .standard (Inline.idle config.blockTimeout) ids motors) now
        id target frame taken started value) ∧
    ∀ id thread, now.threads.find? id = some thread → thread.isActive = true →
      ∀ callee ∈ thread.noted, now.returns.find? callee = now.reportOf callee := by
  have orderly := fresh_orderly config .standard (Inline.idle config.blockTimeout : Inline α)
    motors distinct
  have shares := fresh_shares config .standard motors ids
  have honest := reached.honest orderly shares rfl
    ⟨.refl, fresh_faith config .standard _ ids motors, fun id thread none => by cases none⟩
  refine ⟨fun id target frame taken value takes completes => ?_, honest.faith.values⟩
  exact honest.completes (reached.orderly orderly) (reached.shares shares) takes completes

/-- A procedure with two bodies, of which the second reports a value, is called; then a tick
goes by. -/
def asked : List (Operation (Inline Rat) Rat) :=
  [.addTarget (.sprite ⟨"cat"⟩ "Cat"),
    .loadScripts (.ofList [(⟨"cat"⟩, .ofList [(reportingProcedureHat,
      .options (.ofList [("ask", ["looks_show", "procedures_report VALUE=yes"])]))])]),
    .registerThread ⟨"cat"⟩ false,
    .execute ⟨"#2"⟩ "procedures_callreturn" (.ofList [("PROCCODE", .text "ASK")]) none, .step]

/-- The call completes with the value of the second body. -/
theorem asked_completes :
    let now := standardScheduler.run asked
    ∃ frame taken started,
      TakesUp now ⟨"#2"⟩ ⟨"cat"⟩ (.procedure .callForValue) frame taken ∧
      (taken.invoke ⟨"#2"⟩ ⟨"cat"⟩ (.procedure .callForValue) frame).1 =
        .ok (.completed (.text "yes")) ∧
      Collects standardScheduler now ⟨"#2"⟩ ⟨"cat"⟩ frame taken started (.text "yes") := by
  intro now
  have waits : ((now.threads.find? ⟨"#2"⟩).map fun thread => (thread.target, thread.status)) =
      some (⟨"cat"⟩, .yielding) := by decide +kernel
  have given : ((now.threads.find? ⟨"#2"⟩).bind fun thread =>
      (thread.setStatus .running).popBlock.1.bind fun frame =>
        if (invoke { now with threads := now.threads.modify ⟨"#2"⟩ fun _ =>
              (thread.setStatus .running).popBlock.2 }
            ⟨"#2"⟩ ⟨"cat"⟩ (.procedure .callForValue) frame).1 matches
              .ok (.completed (.text "yes"))
        then some frame.opcode else none) = some "procedures_callreturn" := by decide +kernel
  obtain ⟨thread, found, given⟩ := Option.bind_eq_some_iff.mp given
  obtain ⟨frame, popped, given⟩ := Option.bind_eq_some_iff.mp given
  rw [found] at waits
  obtain ⟨on, yielding⟩ := Prod.mk.inj (Option.some.inj waits)
  split at given
  case h_1 completes =>
    rw [if_pos rfl] at given
    have known : now.registry.block? "procedures_callreturn" =
        some (.procedure .callForValue) := by decide +kernel
    have takes := TakesUp.resumed ⟨found, yielding, _, Prod.ext popped rfl, rfl⟩
      (Option.some.inj given ▸ known)
    rw [on] at takes
    obtain ⟨started, collects⟩ := (values_reach_their_callers .standard
      (.atRest .reliable Motors.defaultBackoff : Motors (LoopbackLink Rat) Rat)
      IdSource.numbered_distinct
      (run_moments asked standardScheduler (by simp [asked, Operation.SparesBridge]))).1
        ⟨"#2"⟩ ⟨"cat"⟩ frame _ (.text "yes") takes completes
    exact ⟨frame, _, started, takes, completes, collects⟩
  case h_2 => cases given

end Scheduler

end SpriteMachine
