import SpriteMachine.Proofs.Scheduler.Moment
import SpriteMachine.Proofs.Scheduler.Single
import SpriteMachine.Proofs.Scheduler.Stop
import SpriteMachine.Proofs.Stack

/-!
# What happens besides invocations

From one moment to the next a block is invoked, or the scheduler idles: the chronicle holds
no new invocation, no frame of a block is put on a stack, and what an active thread waits
for keeps its reported value. A thread that has nothing but its body may be new.
-/

namespace SpriteMachine

namespace Thread

variable {α : Type}

/-- The threads that the frames of a thread noted. -/
def noted (thread : Thread α) : List ThreadId := thread.frames.flatMap (·.notes.spawned)

/-- A thread has no frame but that of its body. -/
def IsBare (thread : Thread α) : Prop := ∀ frame ∈ thread.frames, ∃ name, frame = .body name

/-- A thread that rests has no frame but that of its body. -/
theorem Rests.bare {thread : Thread α} (rests : thread.Rests) : thread.IsBare := by
  obtain ⟨-, name, frames⟩ := rests
  intro frame member
  rw [frames] at member
  exact ⟨name, List.mem_singleton.mp member⟩

/-- A bare thread noted nobody. -/
theorem IsBare.noted {thread : Thread α} (bare : thread.IsBare) : thread.noted = [] := by
  rw [Thread.noted, List.flatMap_eq_nil_iff]
  intro frame member
  obtain ⟨name, rfl⟩ := bare frame member
  rfl

/-- Fewer frames note fewer threads. -/
theorem noted_sublist {thread earlier : Thread α} (fewer : thread.frames.Sublist earlier.frames) :
    thread.noted.Sublist earlier.noted :=
  fewer.flatMap _

/-- A thread awaits those that its frames noted. -/
theorem isAwaiting_iff {thread : Thread α} {other : ThreadId} :
    thread.isAwaiting other = true ↔ other ∈ thread.noted := by
  simp [isAwaiting, noted]

/-- Taking off a block's frame leaves the other frames in order. -/
theorem popBlock_sublist (thread : Thread α) :
    thread.popBlock.2.frames.Sublist thread.frames := by
  unfold popBlock
  split
  case h_1 frame below rest stack =>
    rw [stack]
    exact List.sublist_cons_self frame _
  case h_2 => exact .refl _

end Thread

namespace Scheduler

variable {τ α : Type} {before after first second third scheduler : Scheduler τ α}

/-- A thread as it was, or with fewer frames, or ended meanwhile; or one without blocks. -/
def Thinned (before : Scheduler τ α) (id : ThreadId) (thread : Thread α) : Prop :=
  (∃ earlier, before.threads.find? id = some earlier ∧ thread.frames.Sublist earlier.frames ∧
    (thread.isActive = true → earlier.isActive = true)) ∨ thread.IsBare

/-- No block is invoked, and no frame of a block is put on a stack. -/
structure Hushed (before after : Scheduler τ α) : Prop where
  ids : IdSource.Continues before.ids after.ids
  registry : after.registry = before.registry
  chronicle : ∃ recent, after.chronicle = recent ++ before.chronicle ∧
    ∀ deed ∈ recent, ∀ id, ¬ deed.Invokes id
  threads : ∀ id thread, after.threads.find? id = some thread → Thinned before id thread

/-- Moreover, no value is reported, and none is lost for which an active thread waits. -/
structure Idles (before after : Scheduler τ α) : Prop extends Hushed before after where
  values : ∀ id thread, after.threads.find? id = some thread → thread.isActive = true →
    ∀ callee ∈ thread.noted, after.returns.find? callee = before.returns.find? callee
  reported : ∀ callee value, after.returns.find? callee = some value →
    before.returns.find? callee = some value

section Hushing

/-- A thread that is found as it was. -/
theorem Thinned.same {id : ThreadId} {thread : Thread α}
    (found : before.threads.find? id = some thread) : Thinned before id thread :=
  Or.inl ⟨thread, found, .refl _, fun active => active⟩

/-- The threads change in place, and at most one deed is added that is no invocation. -/
theorem Hushed.ofThreads (keeps : Keeps before after) (recent : List (Deed α))
    (chronicle : after.chronicle = recent ++ before.chronicle)
    (silent : ∀ deed ∈ recent, ∀ id, ¬ deed.Invokes id)
    (threads : ∀ id thread, after.threads.find? id = some thread → Thinned before id thread) :
    Hushed before after :=
  ⟨keeps.ids, keeps.registry, ⟨recent, chronicle, silent⟩, threads⟩

/-- Nothing is invoked where threads and chronicle stay as they are. -/
theorem Hushed.still (keeps : Keeps before after) (threads : after.threads = before.threads)
    (chronicle : after.chronicle = before.chronicle) : Hushed before after := by
  refine .ofThreads keeps [] chronicle (fun _ none => absurd none List.not_mem_nil) ?_
  intro id thread found
  rw [threads] at found
  exact .same found

/-- Nothing is invoked where nothing happens. -/
theorem Hushed.refl (scheduler : Scheduler τ α) : Hushed scheduler scheduler :=
  .still (.refl scheduler) rfl rfl

/-- Nothing is invoked over two stretches of silence. -/
theorem Hushed.trans (before : Hushed first second) (after : Hushed second third) :
    Hushed first third where
  ids := before.ids.trans after.ids
  registry := after.registry.trans before.registry
  chronicle := by
    obtain ⟨recent, grown, silent⟩ := before.chronicle
    obtain ⟨newest, grownLater, silentLater⟩ := after.chronicle
    refine ⟨newest ++ recent, by rw [grownLater, grown, List.append_assoc], fun deed member => ?_⟩
    rcases List.mem_append.mp member with new | old
    · exact silentLater deed new
    · exact silent deed old
  threads id thread found := by
    rcases after.threads id thread found with ⟨middle, present, fewer, lives⟩ | bare
    · rcases before.threads id middle present with ⟨earlier, was, more, lived⟩ | bare
      · exact Or.inl ⟨earlier, was, fewer.trans more, lived ∘ lives⟩
      · exact Or.inr fun frame member => bare frame (fewer.subset member)
    · exact Or.inr bare

/-- A thread is changed in place, with fewer frames at most. -/
theorem Hushed.modify (id : ThreadId) (change : Thread α → Thread α) (keeps : Keeps before after)
    (threads : after.threads = before.threads.modify id change) (recent : List (Deed α))
    (chronicle : after.chronicle = recent ++ before.chronicle)
    (silent : ∀ deed ∈ recent, ∀ id, ¬ deed.Invokes id)
    (thins : ∀ thread, before.threads.find? id = some thread →
      (change thread).frames.Sublist thread.frames ∧
        ((change thread).isActive = true → thread.isActive = true)) : Hushed before after := by
  refine .ofThreads keeps recent chronicle silent fun other thread found => ?_
  rw [threads, OrderedMap.find_modify] at found
  split at found
  case isTrue same =>
    subst same
    obtain ⟨earlier, present, rfl⟩ := Option.map_eq_some_iff.mp found
    exact Or.inl ⟨earlier, present, thins earlier present⟩
  case isFalse => exact .same found

/-- A thread is ended by a deed. -/
theorem Hushed.finish {id : ThreadId} {deed : Deed α} (keeps : Keeps before after)
    (threads : after.threads = before.threads.modify id Thread.finish)
    (chronicle : after.chronicle = deed :: before.chronicle) (ends : deed.Ends id) :
    Hushed before after := by
  refine .modify id Thread.finish keeps threads [deed] chronicle (fun other member => ?_)
    fun thread _ =>
    ⟨.refl _, fun active => by cases active⟩
  rw [List.mem_singleton.mp member]
  exact fun _ => ends.not_invokes

/-- Some threads are removed. -/
theorem Hushed.filter (keep : ThreadId → Thread α → Bool) (keeps : Keeps before after)
    (threads : after.threads = before.threads.filter keep)
    (chronicle : after.chronicle = before.chronicle) : Hushed before after := by
  refine .ofThreads keeps [] chronicle (fun _ none => absurd none List.not_mem_nil) ?_
  intro id thread found
  rw [threads, OrderedMap.find_filter] at found
  exact .same (Option.filter_eq_some_iff.mp found).1

/-- To end a thread invokes nothing. -/
theorem endThread_hushed (scheduler : Scheduler τ α) (id : ThreadId) :
    Hushed scheduler (scheduler.endThread id).2 := by
  unfold endThread
  split
  case isTrue => exact .finish ⟨rfl, rfl, .refl _⟩ rfl rfl (Or.inl rfl)
  case isFalse => exact .refl scheduler

/-- A stroke invokes nothing. -/
theorem Stroke.hushed [Transport τ α] (stroke : Stroke before after) : Hushed before after := by
  have keeps := stroke.keeps
  cases stroke with
  | quiet quiet => exact .still keeps quiet.threads quiet.chronicle
  | retire id => exact .finish keeps rfl rfl (Or.inr rfl)
  | finish id => exact endThread_hushed before id
  | clear ended => exact .filter _ keeps rfl rfl
  | adopt registrable =>
    refine .ofThreads keeps [] rfl (fun _ none => absurd none List.not_mem_nil)
      fun id thread found => ?_
    change (before.threads.insert _ _).find? id = some thread at found
    rw [OrderedMap.find_insert] at found
    split at found
    case isTrue =>
      rw [← Option.some.inj found]
      exact Or.inr (registrable.rests _).bare
    case isFalse => exact .same found
  | tell message order => exact .still keeps rfl rfl
  | ask hat option starts => exact .still keeps rfl rfl

/-- Strokes invoke nothing, however many there are. -/
theorem Strokes.hushed [Transport τ α] (strokes : Strokes before after) : Hushed before after := by
  induction strokes with
  | refl => exact .refl before
  | tail _ stroke inductionHypothesis => exact inductionHypothesis.trans stroke.hushed

end Hushing

section Idling

/-- The reported values stay as they are. -/
theorem Idles.ofReturns (hushed : Hushed before after) (returns : after.returns = before.returns) :
    Idles before after :=
  ⟨hushed, fun _ _ _ _ _ _ => by rw [returns], fun _ _ found => returns ▸ found⟩

/-- The reported values are forgotten when no thread is active. -/
theorem Idles.ofEnded (hushed : Hushed before after) (returns : after.returns = .empty)
    (ended : ∀ id thread, after.threads.find? id = some thread → thread.isDone = true) :
    Idles before after := by
  refine ⟨hushed, fun id thread found active => ?_, fun callee value found => ?_⟩
  · rw [Thread.isActive, ended id thread found] at active
    cases active
  · rw [returns] at found
    cases found

/-- No value is touched where nothing happens. -/
theorem Idles.refl (scheduler : Scheduler τ α) : Idles scheduler scheduler :=
  .ofReturns (.refl scheduler) rfl

/-- No value is touched over two idle stretches. -/
theorem Idles.trans (before : Idles first second) (after : Idles second third) :
    Idles first third := by
  refine ⟨before.toHushed.trans after.toHushed, fun id thread found active callee member => ?_,
    fun callee value found => before.reported callee value (after.reported callee value found)⟩
  rcases after.threads id thread found with ⟨middle, present, fewer, lived⟩ | bare
  · exact (after.values id thread found active callee member).trans
      (before.values id middle present (lived active) callee
        ((Thread.noted_sublist fewer).subset member))
  · rw [bare.noted] at member
    cases member

/-- Only the bridge changes. -/
theorem Idles.ofBridge (scheduler : Scheduler τ α) (bridge : Bridge τ α) :
    Idles scheduler { scheduler with bridge := bridge } :=
  .ofReturns (.still ⟨rfl, rfl, .refl _⟩ rfl rfl) rfl

/-- To end a thread loses only a value for which nobody waits. -/
theorem endThread_idles (scheduler : Scheduler τ α) (id : ThreadId) :
    Idles scheduler (scheduler.endThread id).2 := by
  refine .ofReturns (endThread_hushed scheduler id) ?_
  unfold endThread
  split <;> rfl

/-- A mild change touches no value. -/
theorem Mild.idles (mild : Mild before after) : Idles before after :=
  .ofReturns (.still ⟨mild.config, mild.registry, mild.ids⟩ mild.threads mild.chronicle)
    mild.returns

variable [Scalar α] [Transport τ α]

/-- Acts that leave the reported values alone are idle. -/
theorem Tame.idles (tame : Tame before after) : Idles before after := by
  have hushed := tame.act.strokes.hushed
  cases tame with
  | mild mild => exact mild.idles
  | startHats hat filter =>
    obtain ⟨bridge, undisturbed⟩ := startHats_undisturbed before hat filter
    exact .ofReturns hushed undisturbed.returns
  | dismiss target chosen => exact .ofReturns hushed (retireAll_undisturbed _ before).returns
  | stopThread id =>
    obtain ⟨bridge, undisturbed⟩ := stopThread_undisturbed before id
    exact .ofReturns hushed undisturbed.returns
  | stopAll => exact .ofEnded hushed rfl fun _ _ => (stopAll_stops before).ended

/-- Tame acts lose only values for which nobody waits. -/
theorem Tames.idles (tames : Tames before after) : Idles before after := by
  induction tames with
  | refl => exact .refl before
  | tail _ tame inductionHypothesis => exact inductionHypothesis.trans tame.idles

omit [Transport τ α] in
/-- To link a batch is mild. -/
theorem linkKnown_mild (scheduler : Scheduler τ α) (batch : Batch) :
    Mild scheduler (scheduler.linkKnown batch).2 := by
  refine ⟨linkKnown_quiet scheduler batch, ?_⟩
  unfold linkKnown
  split <;> rfl

end Idling

section Operating

variable [Transport τ α]

/-- To open a backend touches no value. -/
theorem openBackend_idles (scheduler : Scheduler τ α) (url : String) :
    Idles scheduler (scheduler.openBackend url).2 := by
  unfold openBackend
  split
  case h_1 => exact .ofBridge scheduler _
  case h_2 => split <;> exact .ofBridge scheduler _

/-- To retire threads touches no value. -/
theorem retireAll_idles (scheduler : Scheduler τ α) (ids : List ThreadId) :
    Idles scheduler (scheduler.retireAll ids) :=
  .ofReturns (retireAll_strokes ids scheduler).hushed (retireAll_undisturbed ids scheduler).returns

omit [Transport τ α] in
/-- To adopt threads keeps the reported values. -/
theorem adoptAll_returns (entries : List (ScriptId × Registration)) (scheduler : Scheduler τ α) :
    (scheduler.adoptAll entries).2.returns = scheduler.returns := by
  induction entries generalizing scheduler with
  | nil => rfl
  | cons first rest inductionHypothesis => exact inductionHypothesis _

variable [Scalar α]

/-- To install a linked batch loses only values for which nobody waits. -/
theorem install_idles (scheduler : Scheduler τ α) (linked : Linked) :
    Idles scheduler (scheduler.install linked) := by
  have hushed := (retireAll_strokes scheduler.threads.keys scheduler).hushed
  refine .ofEnded ⟨hushed.ids, hushed.registry, hushed.chronicle, hushed.threads⟩ rfl
    fun id thread found => ?_
  by_contra active
  have stands : (scheduler.retireAll scheduler.threads.keys).standing id = some thread :=
    standing_eq_some.mpr ⟨found, by rwa [Thread.isActive, Bool.not_eq_true', ← Bool.not_eq_true]⟩
  rw [standing_retireKeys] at stands
  cases stands

/-- To load scripts loses only values for which nobody waits. -/
theorem loadScripts_idles (scheduler : Scheduler τ α) (batch : Batch) :
    Idles scheduler (scheduler.loadScripts batch).2 := by
  have named := (linkKnown_mild scheduler batch).idles
  unfold loadScripts
  split
  case h_1 fault left result =>
    rw [result] at named
    exact named
  case h_2 linked left result =>
    rw [result] at named
    split
    case h_1 => exact named.trans (.ofBridge left _)
    case h_2 => exact (named.trans (.ofBridge left _)).trans (install_idles _ linked)

/-- To run a batch at once loses only values for which nobody waits. -/
theorem runBatch_idles (scheduler : Scheduler τ α) (batch : Batch) :
    Idles scheduler (scheduler.runBatch batch).2 := by
  have named := (linkKnown_mild scheduler batch).idles
  unfold runBatch
  split
  case h_1 fault left result =>
    rw [result] at named
    exact named
  case h_2 linked left result =>
    rw [result] at named
    have adopted := named.trans (.ofReturns
      (adoptAll_strokes linked.registrations.entries left).hushed (adoptAll_returns _ left))
    generalize left.adoptAll linked.registrations.entries = registered at adopted
    obtain ⟨starts, adopting⟩ := registered
    dsimp only
    split
    case h_1 => exact (adopted.trans (.ofBridge adopting _)).trans (retireAll_idles _ _)
    case h_2 => exact adopted.trans (.ofBridge adopting _)

/-- Between two ticks, nothing but the execution of a block invokes one. -/
theorem perform_idles (scheduler : Scheduler τ α) {operation : Operation τ α}
    (between : operation ≠ .step)
    (silent : ∀ id opcode args token, operation ≠ .execute id opcode args token) :
    Idles scheduler (scheduler.perform operation) := by
  have rhythmic : IsRhythmic operation → Idles scheduler (scheduler.perform operation) :=
    fun rhythmic => (perform_tames scheduler rhythmic between).idles
  cases operation with
  | openBackend url => exact openBackend_idles scheduler url
  | loadScripts batch => exact loadScripts_idles scheduler batch
  | runBatch batch => exact runBatch_idles scheduler batch
  | registerThread target hasListener =>
    exact .ofReturns (addThread_stroke scheduler target hasListener).hushed rfl
  | endThread thread => exact endThread_idles scheduler thread
  | execute id opcode args token => exact absurd rfl (silent id opcode args token)
  | quit =>
    exact .ofEnded ⟨.refl _, rfl, ⟨[], rfl, fun _ none => absurd none List.not_mem_nil⟩,
      fun _ _ none => by cases none⟩ rfl fun _ _ none => by cases none
  | changeStage change => exact .ofReturns (.still ⟨rfl, rfl, .refl _⟩ rfl rfl) rfl
  | changeDevices change => exact .ofReturns (.still ⟨rfl, rfl, .refl _⟩ rfl rfl) rfl
  | changeBridge change => exact .ofBridge scheduler _
  | _ => exact rhythmic trivial

end Operating

section Ticking

/-- A sweep keeps every value for which an active thread waits. -/
theorem sweep_idles (scheduler : Scheduler τ α) : Idles scheduler scheduler.sweep.2 := by
  have kept : ∀ callee, scheduler.sweep.2.returns.find? callee =
      (scheduler.returns.find? callee).filter fun _ => scheduler.sweep.2.threads.contains callee ||
        scheduler.sweep.2.threads.values.any (·.isAwaiting callee) :=
    fun callee => OrderedMap.find_filter _ _ _
  refine ⟨.filter (fun _ thread => thread.isActive) ⟨rfl, rfl, .refl _⟩ rfl rfl,
    fun id thread found active callee member => ?_, fun callee value found => ?_⟩
  · have waits : scheduler.sweep.2.threads.values.any (·.isAwaiting callee) = true :=
      List.any_eq_true.mpr ⟨thread, OrderedMap.mem_values_iff.mpr ⟨id, found⟩,
        Thread.isAwaiting_iff.mpr member⟩
    rw [kept, waits, Bool.or_true]
    cases scheduler.returns.find? callee <;> rfl
  · rw [kept] at found
    exact (Option.filter_eq_some_iff.mp found).1

/-- To wake a thread takes a frame off its stack at most. -/
theorem Wakes.thins {id : ThreadId} {thread : Thread α} {frame : Option (Frame α)}
    (wakes : Wakes before id thread frame after) : Thins before after := by
  obtain ⟨found, yielding, woken, popped, rfl⟩ := wakes
  exact woken_thins found popped

/-- Waking a thread takes a frame off its stack at most. -/
theorem Wakes.idles {id : ThreadId} {thread : Thread α} {frame : Option (Frame α)}
    (wakes : Wakes before id thread frame after) : Idles before after := by
  obtain ⟨found, yielding, woken, popped, rfl⟩ := wakes
  refine .ofReturns (.modify id (fun _ => woken) ⟨rfl, rfl, .refl _⟩ rfl [] rfl
    (fun _ none => absurd none List.not_mem_nil) fun other present => ?_) rfl
  obtain rfl := Option.some.inj (found.symm.trans present)
  have fewer := (thread.setStatus .running).popBlock_sublist
  rw [popped, Thread.setStatus_frames] at fewer
  exact ⟨fewer, (woken_leads popped).active⟩

/-- To take up a block takes a frame off one stack at most. -/
theorem TakesUp.thins [Transport τ α] {id : ThreadId} {target : TargetId} {block : Block}
    {frame : Frame α} (takes : TakesUp before id target block frame after) :
    Thins before after := by
  cases takes with
  | resumed wakes known => exact wakes.thins
  | called received found active known => exact .still (fun keyed => keyed) rfl
  | executed found active known => exact .still (fun keyed => keyed) rfl

/-- So is taking a frame up, off a stack or out of a message. -/
theorem TakesUp.idles [Transport τ α] {id : ThreadId} {target : TargetId} {block : Block}
    {frame : Frame α} (takes : TakesUp before id target block frame after) :
    Idles before after := by
  cases takes with
  | resumed wakes known => exact wakes.idles
  | called received found active known => exact .ofBridge before _
  | executed found active known => exact .refl before

variable [Scalar α] [Transport τ α]

/-- Dealing with a message other than a call the host idles and starts no thread. -/
theorem handleMessage_idles {message : WorkerMessage α} (bridge : Bridge τ α)
    (silent : ∀ target caller opcode args token, message ≠ .call target caller opcode args token)
    (report : StepReport) :
    Idles before (handleMessage { before with bridge := bridge } report message).2 ∧
      Thins before (handleMessage { before with bridge := bridge } report message).2 := by
  have heard : Idles before { before with bridge := bridge } ∧
      Thins before { before with bridge := bridge } :=
    ⟨.ofBridge before bridge, .still (fun keyed => keyed) rfl⟩
  have quiet : ∀ {after : Scheduler τ α}, Mild { before with bridge := bridge } after →
      Idles before after ∧ Thins before after := fun mild =>
    ⟨heard.1.trans mild.idles, .still mild.stage.keyed mild.threads⟩
  have thins : ∀ {after : Scheduler τ α}, Thins { before with bridge := bridge } after →
      Thins before after := fun thins => ⟨thins.stage, thins.threads⟩
  cases message with
  | status status => exact quiet (.ofEmit _ _)
  | call target caller opcode args token =>
    exact absurd rfl (silent target caller opcode args token)
  | ended id =>
    have ends := heard.1.trans (endThread_idles { before with bridge := bridge } id)
    have thinned := thins (endThread_thins { before with bridge := bridge } id)
    rw [handleMessage, handleEnded_left]
    exact ⟨ends, thinned⟩
  | scriptError id reason =>
    have counted : Mild { before with bridge := bridge } { before with
        bridge := bridge
        stats := { before.stats with scriptErrors := before.stats.scriptErrors + 1 } } :=
      ⟨⟨rfl, rfl, rfl, rfl, rfl, rfl, .refl _, .refl, fun _ _ known => known⟩, rfl⟩
    change Idles before (handleScriptError _ _ _ _).2 ∧ Thins before (handleScriptError _ _ _ _).2
    unfold handleScriptError
    dsimp only
    split
    case h_1 => exact quiet counted
    case h_2 id =>
      split
      case isTrue => exact ⟨(quiet counted).1.trans (retireAll_idles _ [id]), .finish rfl rfl⟩
      case isFalse => exact quiet counted
  | registered token refusal => exact heard
  | started token threads => exact heard

/-- Dealing with a message invokes a block, or the host idles and starts no thread. -/
theorem handleMessage_cases {message : WorkerMessage α} {bridge : Bridge τ α}
    (received : before.bridge.next = (.message message, bridge)) (report : StepReport) :
    Invokes before (handleMessage { before with bridge := bridge } report message).2 ∨
      Idles before (handleMessage { before with bridge := bridge } report message).2 ∧
        Thins before (handleMessage { before with bridge := bridge } report message).2 := by
  by_cases calls : ∃ target caller opcode args token,
      message = .call target caller opcode args token
  · obtain ⟨target, caller, opcode, args, token, rfl⟩ := calls
    rcases handleCall_cases received report with invokes | ⟨later, same⟩
    · exact Or.inl invokes
    · refine Or.inr ?_
      change Idles before (handleCall _ _ _ _ _ _).2 ∧ Thins before (handleCall _ _ _ _ _ _).2
      rw [same]
      exact ⟨.ofBridge before later, .still (fun keyed => keyed) rfl⟩
  · refine Or.inr (handleMessage_idles bridge ?_ report)
    intro target caller opcode args token same
    exact calls ⟨target, caller, opcode, args, token, same⟩

/-- A phase of a tick invokes a block, or it idles and starts no thread. -/
theorem Phase.cases (phase : Phase before after) :
    Invokes before after ∨ Idles before after ∧ Thins before after := by
  have redrawn : ∀ {later : Scheduler τ α}, Mild before later →
      Invokes before later ∨ Idles before later ∧ Thins before later := fun mild =>
    Or.inr ⟨mild.idles, .still mild.stage.keyed mild.threads⟩
  cases phase with
  | begin =>
    exact redrawn
      ⟨⟨rfl, rfl, rfl, rfl, rfl, rfl, .refl _, .same rfl rfl, fun _ _ known => known⟩, rfl⟩
  | sweep =>
    exact Or.inr ⟨sweep_idles before, .filter (fun _ thread => thread.isActive) rfl rfl⟩
  | resume report id =>
    obtain invokes | same | ⟨thread, frame, wakes⟩ := resume_cases before report id
    · exact Or.inl invokes
    · rw [same]
      exact redrawn (.refl before)
    · exact Or.inr ⟨wakes.idles, wakes.thins⟩
  | look looked idle => exact Or.inr ⟨.ofBridge before _, .still (fun keyed => keyed) rfl⟩
  | receive received report => exact handleMessage_cases received report
  | conclude report =>
    exact redrawn
      ⟨⟨rfl, rfl, rfl, rfl, rfl, rfl, .refl _, .same rfl rfl, fun _ _ known => known⟩, rfl⟩

/-- From one moment to the next a block is invoked, or the scheduler idles. -/
theorem Turn.cases {allowed : Scheduler τ α → Operation τ α → Prop}
    (turn : Turn allowed before after) :
    Invokes before after ∨ Idles before after := by
  cases turn with
  | operate operation permitted between =>
    by_cases executes : ∃ id opcode args token, operation = .execute id opcode args token
    · obtain ⟨id, opcode, args, token, rfl⟩ := executes
      rcases execute_cases before id opcode args token with invokes | same
      · exact Or.inl invokes
      · refine Or.inr ?_
        change Idles before (before.call id opcode args token).2
        rw [same]
        exact .refl before
    · exact Or.inr (perform_idles before between fun id opcode args token same =>
        executes ⟨id, opcode, args, token, same⟩)
  | phase phase => exact phase.cases.imp_right And.left

end Ticking

end Scheduler

end SpriteMachine
