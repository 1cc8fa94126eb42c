import SpriteMachine.Proofs.Scheduler.Moment

/-!
# Clones over whole runs

At every moment of a run, between operations and between the phases of a tick, the clones that
are counted are those on the stage, those announced and not yet removed, and no more than
allowed. A block may make clones of clones or remove its own target: whatever it does tallies,
and so do the phases of a tick and the operations of a host that adds originals under unused
names.
-/

namespace SpriteMachine

/-- The notices about targets are left to the scheduler. Originals come under names that no
target has and no clone had, and the stage is changed by renewing targets in place or by
choosing the one to edit. -/
def Operation.LeavesClones {τ α : Type} (now : Scheduler τ α) : Operation τ α → Prop
  | .addTarget target => target.isClone = false ∧ now.stage.target? target.id = none ∧
      target.id ∉ Notice.created now.notices
  | .emit notice => notice.IsAside
  | .changeStage change => (∀ stage, Stage.Renews stage (change stage)) ∨
      ∃ id, change = fun stage => (stage.setEditing id).2
  | _ => True

namespace Scheduler

variable {τ α : Type} [Scalar α] {before after : Scheduler τ α}

namespace Tallies

/-- Linking leaves the clones accounted for. -/
theorem linkKnown (scheduler : Scheduler τ α) (batch : Batch) :
    Tallies scheduler (scheduler.linkKnown batch).2 := by
  have continues := (linkKnown_quiet scheduler batch).ids
  unfold Scheduler.linkKnown at continues ⊢
  split
  case h_1 result =>
    rw [result] at continues
    exact still (.refl _) rfl continues
  case h_2 result =>
    rw [result] at continues
    exact still (.refl _) rfl continues

variable [Transport τ α]

/-- Ending every thread and taking over scripts is not about clones. -/
theorem install (scheduler : Scheduler τ α) (linked : Linked) :
    Tallies scheduler (scheduler.install linked) := by
  intro limit census
  exact Stage.Census.aside (retireAll scheduler.threads.keys scheduler limit census) ⟨rfl, rfl⟩

/-- Loading scripts leaves the clones accounted for. -/
theorem loadScripts (scheduler : Scheduler τ α) (batch : Batch) :
    Tallies scheduler (scheduler.loadScripts batch).2 := by
  have links := linkKnown scheduler batch
  unfold Scheduler.loadScripts
  split
  case h_1 fault left result =>
    rw [result] at links
    exact links
  case h_2 linked left result =>
    rw [result] at links
    split
    case h_1 => exact links
    case h_2 bridge registered => exact links.trans (install { left with bridge := bridge } linked)

/-- Running a batch at once leaves the clones accounted for. -/
theorem runBatch (scheduler : Scheduler τ α) (batch : Batch) :
    Tallies scheduler (scheduler.runBatch batch).2 := by
  have links := linkKnown scheduler batch
  unfold Scheduler.runBatch
  split
  case h_1 fault left result =>
    rw [result] at links
    exact links
  case h_2 linked left result =>
    rw [result] at links
    have adopted := links.trans (adoptAll linked.registrations.entries left)
    generalize left.adoptAll linked.registrations.entries = registered at adopted
    obtain ⟨starts, adopting⟩ := registered
    dsimp only
    split
    case h_1 fault bridge posted =>
      exact adopted.trans (retireAll _ { adopting with bridge := bridge })
    case h_2 => exact adopted

omit [Scalar α] [Transport τ α] in
/-- Waking a thread leaves the clones accounted for. -/
theorem wakes {id : ThreadId} {thread : Thread α} {frame : Option (Frame α)}
    (wakes : Wakes before id thread frame after) : Tallies before after := by
  obtain ⟨-, -, woken, -, rfl⟩ := wakes
  exact refl before

/-- Whatever block is invoked. -/
theorem invokes (invokes : Invokes before after) : Tallies before after := by
  obtain ⟨id, target, block, frame, taken, takes, rfl⟩ := invokes
  have taking : Tallies before taken := by
    cases takes with
    | resumed wakes known => exact Tallies.wakes wakes
    | called received found active known => exact refl before
    | executed found active known => exact refl before
  have works := (Block.run_works block frame.args
    ⟨taken.noteInvocation id target frame, id, target, frame, false⟩).tallies
  generalize ran : block.run frame.args
    ⟨taken.noteInvocation id target frame, id, target, frame, false⟩ = result at works
  obtain ⟨outcome, left⟩ := result
  have worked : Tallies before left.scheduler := taking.trans works
  obtain ⟨value, -, -, suspended⟩ | ⟨bridge, results, ended⟩ := invoke_ends ran
  · rw [suspended]
    exact worked.trans (suspend left.scheduler id left.frame)
  · rw [ended]
    exact worked

/-- A message of the worker leaves the clones accounted for, also where it calls a block. -/
theorem handleMessage {message : WorkerMessage α} {bridge : Bridge τ α}
    (received : before.bridge.next = (.message message, bridge)) (report : StepReport) :
    Tallies before (handleMessage { before with bridge := bridge } report message).2 := by
  cases message with
  | status status => exact ofEmit { before with bridge := bridge } _ ⟨rfl, rfl⟩
  | call target id opcode args token =>
    obtain invoked | ⟨later, same⟩ := handleCall_cases received report
    · exact invokes invoked
    · rw [Scheduler.handleMessage, same]
      exact refl before
  | ended id =>
    rw [Scheduler.handleMessage, handleEnded_left]
    exact endThread { before with bridge := bridge } id
  | scriptError thread reason =>
    cases thread with
    | none => exact refl before
    | some id =>
      rw [Scheduler.handleMessage, handleScriptError]
      dsimp only
      split <;> exact refl before
  | registered token refusal => exact refl before
  | started token threads => exact refl before

/-- Every phase of a tick. -/
theorem phase (phase : Phase before after) : Tallies before after := by
  cases phase with
  | begin => exact ofStage before (.same rfl rfl rfl rfl)
  | sweep => exact refl before
  | resume report id =>
    obtain invoked | same | ⟨thread, frame, woken⟩ := resume_cases before report id
    · exact invokes invoked
    · rw [same]
      exact refl before
    · exact wakes woken
  | look looked idle => exact refl before
  | receive received report => exact handleMessage received report
  | conclude report => exact ofStage before (.same rfl rfl rfl rfl)

/-- An original joins under an unused name. -/
theorem addTarget (scheduler : Scheduler τ α) {target : Target α}
    (original : target.isClone = false) (vacant : scheduler.stage.target? target.id = none)
    (unmade : target.id ∉ Notice.created scheduler.notices) :
    Tallies scheduler (scheduler.addTarget target) := by
  intro limit census
  obtain ⟨drawable, joins⟩ := Stage.add_vacant vacant
  have settled := Stage.Census.settle census joins original unmade
  unfold Scheduler.addTarget
  dsimp only
  rw [original, if_neg Bool.false_ne_true]
  exact Stage.Census.aside settled ⟨rfl, rfl⟩

/-- Every operation of a host that leaves clones to the scheduler. -/
theorem perform (scheduler : Scheduler τ α) {operation : Operation τ α}
    (leaves : operation.LeavesClones scheduler) (between : operation ≠ .step) :
    Tallies scheduler (scheduler.perform operation) := by
  cases operation with
  | addTarget target => exact addTarget scheduler leaves.1 leaves.2.1 leaves.2.2
  | attachRenderer => exact ofStage scheduler (.attach _ _)
  | openBackend url => exact openBackend scheduler url
  | loadScripts batch => exact loadScripts scheduler batch
  | runBatch batch => exact runBatch scheduler batch
  | startHats hat filter => exact startHats scheduler hat filter
  | greenFlag => exact greenFlag scheduler
  | stopAll => exact stopAll scheduler
  | stopForTarget target keep => exact stopForTarget scheduler target keep
  | stopThread thread => exact stopThread scheduler thread
  | makeClone source => exact makeClone scheduler source
  | disposeClone target => exact disposeClone scheduler target
  | postData device data => exact postData scheduler device data
  | registerThread target hasListener => exact addThread scheduler target hasListener
  | endThread thread => exact endThread scheduler thread
  | execute id opcode args token =>
    obtain invoked | same := execute_cases scheduler id opcode args token
    · exact invokes invoked
    · rw [Scheduler.perform, same]
      exact refl scheduler
  | step => exact absurd rfl between
  | emit notice => exact ofEmit scheduler notice leaves
  | start => exact start scheduler
  | quit => exact refl scheduler
  | dispose => exact dispose scheduler
  | changeStage change =>
    obtain renews | ⟨id, rfl⟩ := leaves
    · exact ofStage scheduler (renews _)
    · exact fun _ census => Stage.Census.setEditing census id
  | changeDevices change => exact refl scheduler
  | changeBridge change => exact refl scheduler

/-- Clones stay accounted for over all moments whose operations leave them to the scheduler. -/
theorem moments (moments : Moments (fun now operation => operation.LeavesClones now) before after) :
    Tallies before after := by
  induction moments with
  | refl => exact refl before
  | tail _ turn inductionHypothesis =>
    refine inductionHypothesis.trans ?_
    cases turn with
    | operate operation leaves between => exact perform _ leaves between
    | phase once => exact phase once

end Tallies

variable [Transport τ α]

/-- Clones are accounted for: those counted are those on the stage, and those announced as made
less those announced as removed; each is announced once and stands from its making to its
removal; each descends from an original that is there; and beyond the limit none is made. -/
structure ClonesAccounted (limit : Nat) (now : Scheduler τ α) : Prop where
  counted : now.stage.cloneCount = now.stage.cloneIds.length
  balanced : now.stage.cloneCount + (Notice.dismissed now.notices).length =
    (Notice.created now.notices).length
  ceiling : now.stage.cloneCount ≤ limit
  once : (Notice.created now.notices).Nodup
  announced : ∀ id ∈ now.stage.cloneIds, id ∈ Notice.created now.notices
  tells : ∀ id ∈ Notice.created now.notices, now.stage.Tells now.notices id
  descent : ∀ id clone, now.stage.target? id = some clone → clone.isClone = true →
    clone.scriptOwner = Notice.root now.notices id ∧
      ∃ original, now.stage.target? clone.scriptOwner = some original ∧ original.isClone = false
  editing : ∀ id, now.stage.editing = some id → ∃ target, now.stage.target? id = some target
  refused : ∀ source, now.stage.cloneCount = limit ∨
    (∃ target, now.stage.target? source = some target ∧ target.isStage = true) →
      now.makeClone source = (.ok none, now)

/-- No clone is made where there is no room, and none of the stage. -/
theorem makeClone_refused {now : Scheduler τ α} {source : TargetId}
    (refused : now.stage.hasRoom = false ∨
      ∃ target, now.stage.target? source = some target ∧ target.isStage = true) :
    now.makeClone source = (.ok none, now) := by
  unfold makeClone
  cases room : now.stage.hasRoom with
  | false => rfl
  | true =>
    obtain full | ⟨target, found, isStage⟩ := refused
    · rw [room] at full
      cases full
    · rw [found]
      dsimp only
      rw [isStage]
      rfl

/-- A census gives the account: what is counted stands, and what stands was announced. -/
theorem Census.accounted {limit : Nat} {now : Scheduler τ α} (census : Census limit now) :
    ClonesAccounted limit now where
  counted := census.count
  balanced := by rw [census.count, census.standing, Notice.standing_dismissed census.once]
  ceiling := census.ceiling
  once := census.once
  announced id stands := Notice.created_of_standing (census.standing ▸ stands)
  tells := census.tells
  descent id clone found _ := ⟨census.owners id clone found, census.originals id clone found⟩
  editing := census.editing
  refused source refused := by
    refine makeClone_refused (refused.imp_left fun full => ?_)
    rw [Stage.hasRoom, census.maxClones, full]
    exact decide_eq_false (Nat.lt_irrefl limit)

/-- At every moment of a run of a scheduler whose names never repeat, whatever blocks its ticks
invoke, the clones are accounted for. -/
theorem clones_accounted (config : SchedulerConfig) (registry : Registry) (transport : τ)
    (motors : Motors (LoopbackLink α) α) {ids : IdSource} (distinct : ids.Distinct)
    (countable : config.maxClones ≤ Width.last64) {now : Scheduler τ α}
    (moments : Moments (fun now operation => operation.LeavesClones now)
      (fresh config registry transport ids motors) now) :
    ClonesAccounted config.maxClones now :=
  Census.accounted (Tallies.moments moments _ (Stage.Census.empty distinct countable))

/-- A clone of a clone outlives the clone that it was made of. -/
def breeding : List (Operation (Inline Rat) Rat) :=
  [.makeClone ⟨"cat"⟩, .makeClone ⟨"#0"⟩, .disposeClone ⟨"#0"⟩]

/-- Clones that are made in ticks and beyond the limit are accounted for. -/
theorem breeding_accounted :
    let bare := standardScheduler.perform (.addTarget (.sprite ⟨"cat"⟩ "Cat"))
    let now := bare.run breeding
    Notice.created now.notices = [⟨"#1"⟩, ⟨"#0"⟩] ∧ now.stage.cloneIds = [⟨"#1"⟩] ∧
      ClonesAccounted 300 now := by
  intro bare now
  have settled : Moments (fun now operation => operation.LeavesClones now) standardScheduler bare :=
    .single (.operate standardScheduler _ ⟨rfl, rfl, by decide⟩ (by simp))
  have bred : Moments (fun _ operation => ∀ now, Operation.LeavesClones now operation) bare now :=
    run_moments breeding bare (by simp [breeding, Operation.LeavesClones])
  have accounted := clones_accounted .standard .standard (Inline.idle none : Inline Rat)
    (.atRest .reliable Motors.defaultBackoff : Motors (LoopbackLink Rat) Rat)
    IdSource.numbered_distinct (by decide)
    (settled.trans (bred.widen fun now _ leaves => leaves now))
  exact ⟨by decide +kernel, by decide +kernel, accounted⟩

end Scheduler

end SpriteMachine
