import SpriteMachine.Proofs.Block.Waiting
import SpriteMachine.Proofs.Scheduler.Idle

/-!
# Reported values

What a thread reported is written in the chronicle: a block that reports was invoked for it
with a value. The host keeps such a value until whoever noted the thread collects it. It
keeps faith while for every thread that an active one noted it has just the value that the
thread reported, and no thread was noted twice. While a block is invoked, the threads that its
frame noted are in the host's hand.
-/

namespace SpriteMachine

variable {τ α : Type}

/-- The value that a deed reports for a thread: a block that reports was invoked with it. -/
def Deed.reported? (registry : Registry) (callee : ThreadId) : Deed α → Option (Value α)
  | .invoked id _ frame =>
    if id = callee ∧ registry.block? frame.opcode = some (.procedure .report) then
      some ((frame.args.find? "VALUE").getD .null)
    else none
  | _ => none

/-- A deed that does not invoke a callee reports nothing for it. -/
theorem Deed.reported_unnamed {registry : Registry} {callee : ThreadId} {deed : Deed α}
    (uninvoked : ¬ deed.Invokes callee) : deed.reported? registry callee = none := by
  cases deed with
  | invoked id target frame =>
    refine if_neg fun reports => uninvoked ⟨target, frame, ?_⟩
    rw [reports.1]
  | _ => rfl

namespace Scheduler

variable {before after now taken scheduler : Scheduler τ α} {hand : List ThreadId}
    {id callee : ThreadId}

/-- The value that a thread reported last. -/
def reportOf (scheduler : Scheduler τ α) (callee : ThreadId) : Option (Value α) :=
  scheduler.chronicle.findSome? (Deed.reported? scheduler.registry callee)

/-- Where no block is invoked, nothing is reported. -/
theorem Hushed.reportOf (hushed : Hushed before after) (callee : ThreadId) :
    after.reportOf callee = before.reportOf callee := by
  obtain ⟨recent, grown, silent⟩ := hushed.chronicle
  have nothing : recent.findSome? (Deed.reported? before.registry callee) = none :=
    List.findSome?_eq_none_iff.mpr fun deed member =>
      Deed.reported_unnamed (silent deed member callee)
  rw [Scheduler.reportOf, Scheduler.reportOf, grown, hushed.registry, List.findSome?_append,
    nothing]
  rfl

/-- A thread whose name was not issued has reported nothing. -/
theorem Orderly.reportOf (orderly : Orderly scheduler) (new : ¬ scheduler.ids.Issued callee.text) :
    scheduler.reportOf callee = none := by
  refine List.findSome?_eq_none_iff.mpr fun deed member => Deed.reported_unnamed fun invokes => ?_
  have known := orderly.recorded deed member
  rw [invokes.thread_eq] at known
  exact new known

/-- What is reported when a block is invoked. -/
theorem reportOf_note (scheduler : Scheduler τ α) (id : ThreadId) (target : TargetId)
    (frame : Frame α) (callee : ThreadId) :
    (scheduler.noteInvocation id target frame).reportOf callee =
      if id = callee ∧ scheduler.registry.block? frame.opcode = some (.procedure .report) then
        some ((frame.args.find? "VALUE").getD .null)
      else scheduler.reportOf callee := by
  change List.findSome? (Deed.reported? scheduler.registry callee)
    (.invoked id target frame :: scheduler.chronicle) = _
  rw [List.findSome?_cons]
  by_cases reports : id = callee ∧
      scheduler.registry.block? frame.opcode = some (.procedure .report)
  · have told : (Deed.invoked id target frame).reported? scheduler.registry callee =
        some ((frame.args.find? "VALUE").getD .null) := if_pos reports
    rw [told, if_pos reports]
  · have silent : (Deed.invoked id target frame).reported? scheduler.registry callee = none :=
      if_neg reports
    rw [silent, if_neg reports]
    rfl

/-- The host keeps faith with those who wait: it has the values that the threads they noted
reported, and nobody is noted twice, in a frame or in the hand. -/
structure Faith (hand : List ThreadId) (scheduler : Scheduler τ α) : Prop where
  values : ∀ id thread, scheduler.threads.find? id = some thread → thread.isActive = true →
    ∀ callee ∈ thread.noted, scheduler.returns.find? callee = scheduler.reportOf callee
  issued : ∀ id thread, scheduler.threads.find? id = some thread →
    ∀ callee ∈ thread.noted, scheduler.ids.Issued callee.text
  collected : ∀ callee value, scheduler.returns.find? callee = some value →
    scheduler.ids.Issued callee.text
  distinct : ∀ id thread, scheduler.threads.find? id = some thread → thread.noted.Nodup
  single : ∀ id other first second callee, scheduler.threads.find? id = some first →
    scheduler.threads.find? other = some second → callee ∈ first.noted →
      callee ∈ second.noted → id = other
  handed : ∀ callee ∈ hand, scheduler.returns.find? callee = scheduler.reportOf callee
  handIssued : ∀ callee ∈ hand, scheduler.ids.Issued callee.text
  handDistinct : hand.Nodup
  apart : ∀ callee ∈ hand, ∀ id thread, scheduler.threads.find? id = some thread →
    callee ∉ thread.noted

/-- What is in the hand may be dropped. -/
theorem Faith.drop (faith : Faith hand scheduler) : Faith [] scheduler where
  values := faith.values
  issued := faith.issued
  collected := faith.collected
  distinct := faith.distinct
  single := faith.single
  handed _ none := absurd none List.not_mem_nil
  handIssued _ none := absurd none List.not_mem_nil
  handDistinct := .nil
  apart _ none := absurd none List.not_mem_nil

/-- A host without threads and values keeps faith. -/
theorem fresh_faith [Scalar α] (config : SchedulerConfig) (registry : Registry) (transport : τ)
    (ids : IdSource) (motors : Motors (LoopbackLink α) α) :
    Faith [] (fresh config registry transport ids motors) where
  values _ _ none := by cases none
  issued _ _ none := by cases none
  collected _ _ none := by cases none
  distinct _ _ none := by cases none
  single _ _ _ _ _ none := by cases none
  handed _ none := absurd none List.not_mem_nil
  handIssued _ none := absurd none List.not_mem_nil
  handDistinct := .nil
  apart _ none := absurd none List.not_mem_nil

/-- Threads, values and chronicle stay as they are. -/
theorem Faith.still (faith : Faith hand before) (threads : after.threads = before.threads)
    (returns : after.returns = before.returns) (ids : after.ids = before.ids)
    (reports : ∀ callee, after.reportOf callee = before.reportOf callee) : Faith hand after where
  values := by simp only [threads, returns, reports]; exact faith.values
  issued := by rw [threads, ids]; exact faith.issued
  collected := by rw [returns, ids]; exact faith.collected
  distinct := by rw [threads]; exact faith.distinct
  single := by rw [threads]; exact faith.single
  handed := by simp only [returns, reports]; exact faith.handed
  handIssued := by rw [ids]; exact faith.handIssued
  handDistinct := faith.handDistinct
  apart := by rw [threads]; exact faith.apart

/-- Whoever is noted by a thread that is found was noted before. -/
theorem Thinned.noted {thread : Thread α} (thinned : Thinned before id thread)
    (member : callee ∈ thread.noted) : ∃ earlier, before.threads.find? id = some earlier ∧
      thread.noted.Sublist earlier.noted ∧ (thread.isActive = true → earlier.isActive = true) := by
  rcases thinned with ⟨earlier, found, fewer, lived⟩ | bare
  · exact ⟨earlier, found, Thread.noted_sublist fewer, lived⟩
  · rw [bare.noted] at member
    cases member

/-- An idle host keeps faith. -/
theorem Faith.idles (faith : Faith [] before) (idles : Idles before after) : Faith [] after where
  values id thread found active callee member := by
    obtain ⟨earlier, was, fewer, lived⟩ := (idles.threads id thread found).noted member
    rw [idles.values id thread found active callee member, idles.toHushed.reportOf]
    exact faith.values id earlier was (lived active) callee (fewer.subset member)
  issued id thread found callee member := by
    obtain ⟨earlier, was, fewer, -⟩ := (idles.threads id thread found).noted member
    exact idles.ids.issued_of (faith.issued id earlier was callee (fewer.subset member))
  collected callee value found :=
    idles.ids.issued_of (faith.collected callee value (idles.reported callee value found))
  distinct id thread found := by
    rcases idles.threads id thread found with ⟨earlier, was, fewer, -⟩ | bare
    · exact (faith.distinct id earlier was).sublist (Thread.noted_sublist fewer)
    · rw [bare.noted]
      exact .nil
  single id other first second callee here there inFirst inSecond := by
    obtain ⟨one, oneFound, oneFewer, -⟩ := (idles.threads id first here).noted inFirst
    obtain ⟨two, twoFound, twoFewer, -⟩ := (idles.threads other second there).noted inSecond
    exact faith.single id other one two callee oneFound twoFound (oneFewer.subset inFirst)
      (twoFewer.subset inSecond)
  handed _ none := absurd none List.not_mem_nil
  handIssued _ none := absurd none List.not_mem_nil
  handDistinct := .nil
  apart _ none := absurd none List.not_mem_nil

/-- Threads are started under new names. -/
structure Enrolls (before : Scheduler τ α) (started : List ThreadId) (after : Scheduler τ α) :
    Prop where
  fresh : ∀ id ∈ started, ¬ before.ids.Issued id.text
  issued : ∀ id ∈ started, after.ids.Issued id.text
  distinct : started.Nodup

/-- Threads that are new are taken into the hand. -/
theorem Faith.start {started : List ThreadId} (faith : Faith [] before) (orderly : Orderly before)
    (idles : Idles before after) (returns : after.returns = before.returns)
    (enrolls : Enrolls before started after) : Faith started after := by
  have later := faith.idles idles
  refine { later with
    handed := fun callee member => ?_
    handIssued := enrolls.issued
    handDistinct := enrolls.distinct
    apart := fun callee member id thread found noted => ?_ }
  · rw [idles.toHushed.reportOf, orderly.reportOf (enrolls.fresh callee member), returns]
    cases kept : before.returns.find? callee with
    | none => rfl
    | some value => exact absurd (faith.collected callee value kept) (enrolls.fresh callee member)
  · obtain ⟨earlier, was, fewer, -⟩ := (idles.threads id thread found).noted noted
    exact enrolls.fresh callee member (faith.issued id earlier was callee (fewer.subset noted))

/-- The thread that is suspended gets a frame, if it is active, and all others stay. -/
theorem suspend_find {scheduler : Scheduler τ α} {id other : ThreadId} {frame : Frame α}
    {thread : Thread α} (found : (scheduler.suspend id frame).threads.find? other = some thread) :
    ∃ earlier, scheduler.threads.find? other = some earlier ∧ (thread = earlier ∨
      other = id ∧ earlier.isActive = true ∧
        thread.frames = { frame with state := .waiting } :: earlier.frames) := by
  change (scheduler.threads.modify id _).find? other = some thread at found
  rw [OrderedMap.find_modify] at found
  split at found
  case isTrue same =>
    obtain ⟨earlier, was, rfl⟩ := Option.map_eq_some_iff.mp found
    refine ⟨earlier, was, ?_⟩
    split
    case isTrue active => exact Or.inr ⟨same, active, Thread.setStatus_frames _ _⟩
    case isFalse => exact Or.inl rfl
  case isFalse => exact ⟨thread, found, Or.inl rfl⟩

/-- What a suspended thread noted is what its frame noted and what it noted before. -/
theorem noted_push {thread earlier : Thread α} {frame : Frame α}
    (pushed : thread.frames = { frame with state := .waiting } :: earlier.frames) :
    thread.noted = frame.notes.spawned ++ earlier.noted := by
  rw [Thread.noted, pushed, List.flatMap_cons]
  rfl

/-- A thread takes what is in the hand onto its stack. -/
theorem Faith.suspend {frame : Frame α} (faith : Faith frame.notes.spawned scheduler)
    (id : ThreadId) : Faith [] (scheduler.suspend id frame) := by
  have notes : ∀ {other : ThreadId} {thread earlier : Thread α} {callee : ThreadId},
      thread = earlier ∨ other = id ∧ earlier.isActive = true ∧
        thread.frames = { frame with state := .waiting } :: earlier.frames →
      callee ∈ thread.noted → callee ∈ earlier.noted ∨ other = id ∧ earlier.isActive = true ∧
        callee ∈ frame.notes.spawned := by
    rintro other thread earlier callee (rfl | ⟨same, active, pushed⟩) member
    · exact Or.inl member
    · rw [noted_push pushed, List.mem_append] at member
      exact member.symm.imp_right fun inHand => ⟨same, active, inHand⟩
  refine { faith.drop with
    values := fun other thread found active callee member => ?_
    issued := fun other thread found callee member => ?_
    distinct := fun other thread found => ?_
    single := fun one other first second callee here there inFirst inSecond => ?_
    apart := fun _ none => absurd none List.not_mem_nil }
  · obtain ⟨earlier, was, shape⟩ := suspend_find found
    rcases notes shape member with before | ⟨-, -, inHand⟩
    · refine faith.values other earlier was ?_ callee before
      rcases shape with rfl | ⟨-, lived, -⟩
      · exact active
      · exact lived
    · exact faith.handed callee inHand
  · obtain ⟨earlier, was, shape⟩ := suspend_find found
    rcases notes shape member with before | ⟨-, -, inHand⟩
    · exact faith.issued other earlier was callee before
    · exact faith.handIssued callee inHand
  · obtain ⟨earlier, was, rfl | ⟨-, -, pushed⟩⟩ := suspend_find found
    · exact faith.distinct other thread was
    · rw [noted_push pushed]
      exact List.nodup_append'.mpr ⟨faith.handDistinct, faith.distinct other earlier was,
        fun callee inHand => faith.apart callee inHand other earlier was⟩
  · obtain ⟨earlier, was, shape⟩ := suspend_find here
    obtain ⟨former, been, form⟩ := suspend_find there
    rcases notes shape inFirst with mine | ⟨same, -, mine⟩ <;>
      rcases notes form inSecond with yours | ⟨too, -, yours⟩
    · exact faith.single one other earlier former callee was been mine yours
    · exact absurd mine (faith.apart callee yours one earlier was)
    · exact absurd yours (faith.apart callee mine other former been)
    · exact same.trans too.symm

/-- What is collected is forgotten, and nobody else waits for it. -/
theorem Faith.erase (faith : Faith (callee :: hand) scheduler) :
    Faith hand { scheduler with returns := scheduler.returns.erase callee } := by
  obtain ⟨alone, distinct⟩ := List.nodup_cons.mp faith.handDistinct
  have spared : ∀ other, other ≠ callee →
      (scheduler.returns.erase callee).find? other = scheduler.returns.find? other := by
    intro other different
    rw [OrderedMap.find_erase, if_neg different]
  refine { faith with
    values := fun id thread found active other member => ?_
    collected := fun other value found => ?_
    handed := fun other member => ?_
    handIssued := fun other member => faith.handIssued other (List.mem_cons_of_mem _ member)
    handDistinct := distinct
    apart := fun other member => faith.apart other (List.mem_cons_of_mem _ member) }
  · have different : other ≠ callee := by
      rintro rfl
      exact faith.apart other List.mem_cons_self id thread found member
    exact (spared other different).trans (faith.values id thread found active other member)
  · change (scheduler.returns.erase callee).find? other = some value at found
    rw [OrderedMap.find_erase] at found
    split at found
    case isTrue => cases found
    case isFalse => exact faith.collected other value found
  · have different : other ≠ callee := fun same => alone (same ▸ member)
    exact (spared other different).trans (faith.handed other (List.mem_cons_of_mem _ member))

/-- A thread whose block is invoked had its frame on top. -/
theorem popBlock_frames {thread woken : Thread α} {frame : Frame α}
    (popped : thread.popBlock = (some frame, woken)) : thread.frames = frame :: woken.frames := by
  unfold Thread.popBlock at popped
  split at popped
  case h_1 first below rest stack =>
    obtain ⟨same, rfl⟩ := Prod.mk.inj popped
    rw [stack, Option.some.inj same]
  case h_2 => cases (Prod.mk.inj popped).1

/-- Taking a frame up takes what it noted into the hand. -/
theorem Faith.take [Transport τ α] {target : TargetId} {block : Block} {frame : Frame α}
    (faith : Faith [] now) (takes : TakesUp now id target block frame taken) :
    Faith frame.notes.spawned taken := by
  cases takes with
  | @resumed thread block frame taken wakes known =>
    have idles := wakes.idles
    obtain ⟨found, yielding, woken, popped, rfl⟩ := wakes
    have frames := popBlock_frames popped
    rw [Thread.setStatus_frames] at frames
    have notes : thread.noted = frame.notes.spawned ++ woken.noted := by
      rw [Thread.noted, frames, List.flatMap_cons]
      rfl
    have active : thread.isActive = true := by rw [Thread.isActive, Thread.isDone, yielding]; rfl
    obtain ⟨distinct, -, disjoint⟩ := List.nodup_append'.mp (notes ▸ faith.distinct id thread found)
    have member : ∀ callee ∈ frame.notes.spawned, callee ∈ thread.noted := fun callee inHand =>
      notes ▸ List.mem_append_left _ inHand
    refine { faith.idles idles with
      handed := fun callee inHand =>
        faith.values id thread found active callee (member callee inHand)
      handIssued := fun callee inHand => faith.issued id thread found callee (member callee inHand)
      handDistinct := distinct
      apart := fun callee inHand other another there noted => ?_ }
    change (now.threads.modify id _).find? other = some another at there
    rw [OrderedMap.find_modify] at there
    split at there
    case isTrue same =>
      rw [same, found] at there
      obtain rfl := Option.some.inj there
      exact disjoint inHand noted
    case isFalse different =>
      exact different (faith.single other id another thread callee there found noted
        (member callee inHand))
  | called received found active known => exact faith.idles (.ofBridge now _)
  | executed found active known => exact faith

/-- Invoking any block but one that reports changes nothing about what is reported. -/
theorem Faith.note {frame : Frame α} (faith : Faith hand scheduler) (id : ThreadId)
    (target : TargetId)
    (silent : scheduler.registry.block? frame.opcode ≠ some (.procedure .report)) :
    Faith hand (scheduler.noteInvocation id target frame) :=
  faith.still rfl rfl rfl fun callee => by
    rw [reportOf_note, if_neg fun reports => silent reports.2]

/-- A value that is reported is kept as the chronicle says. -/
theorem Faith.report {frame : Frame α} (faith : Faith hand scheduler) (id : ThreadId)
    (target : TargetId) (known : scheduler.ids.Issued id.text)
    (reports : scheduler.registry.block? frame.opcode = some (.procedure .report)) :
    Faith hand ((scheduler.noteInvocation id target frame).setReturn id
      ((frame.args.find? "VALUE").getD .null)) := by
  have kept : ∀ callee, scheduler.returns.find? callee = scheduler.reportOf callee →
      ((scheduler.noteInvocation id target frame).setReturn id
        ((frame.args.find? "VALUE").getD .null)).returns.find? callee =
      (scheduler.noteInvocation id target frame).reportOf callee := by
    intro callee same
    change (scheduler.returns.insert id _).find? callee = _
    rw [OrderedMap.find_insert, reportOf_note]
    by_cases own : callee = id
    · rw [if_pos own, if_pos ⟨own.symm, reports⟩]
    · rw [if_neg own, if_neg fun both => own both.1.symm, same]
  refine { faith with
    values := fun other thread found active callee member =>
      kept callee (faith.values other thread found active callee member)
    collected := fun callee value found => ?_
    handed := fun callee member => kept callee (faith.handed callee member) }
  change (scheduler.returns.insert id _).find? callee = some value at found
  rw [OrderedMap.find_insert] at found
  split at found
  case isTrue own =>
    rw [own]
    exact known
  case isFalse => exact faith.collected callee value found

section Running

variable {invocation opened : Invocation τ α}

/-- Collecting takes what the threads in hand reported, and the first value counts. -/
theorem Faith.collect (invocation : Invocation τ α) (callees : List ThreadId)
    (found : Option (Value α)) (faith : Faith callees invocation.scheduler) :
    ∃ returns, ProcedureBlock.collect invocation found callees =
        (found.or (callees.findSome? invocation.scheduler.reportOf),
          { invocation with scheduler := { invocation.scheduler with returns := returns } }) ∧
      Faith [] { invocation.scheduler with returns := returns } := by
  induction callees generalizing found invocation with
  | nil =>
    refine ⟨invocation.scheduler.returns, ?_, faith⟩
    rw [List.findSome?_nil, Option.or_none]
    rfl
  | cons callee rest inductionHypothesis =>
    obtain ⟨returns, collects, later⟩ := inductionHypothesis
      { invocation with scheduler :=
        { invocation.scheduler with returns := invocation.scheduler.returns.erase callee } }
      (found.or (invocation.scheduler.returns.find? callee)) faith.erase
    refine ⟨returns, ?_, later⟩
    unfold ProcedureBlock.collect collectReturn
    dsimp only
    rw [collects, Option.or_assoc, faith.handed callee List.mem_cons_self, List.findSome?_cons]
    cases invocation.scheduler.reportOf callee <;> rfl

/-- A block that has waited lets go of the threads in hand. -/
theorem Faith.settle (block : Block) (faith : Faith opened.frame.notes.spawned opened.scheduler) :
    ∃ returns, (block.settle opened).2 =
        { opened with scheduler := { opened.scheduler with returns := returns } } ∧
      Faith [] { opened.scheduler with returns := returns } := by
  unfold Block.settle
  split
  case h_1 =>
    obtain ⟨returns, collects, later⟩ := faith.collect opened opened.frame.notes.spawned none
    rw [collects]
    exact ⟨returns, rfl, later⟩
  case h_2 => exact ⟨opened.scheduler.returns, rfl, faith.drop⟩

/-- A call for a value gives the first value that one of its threads reported. -/
theorem Faith.settle_value (faith : Faith opened.frame.notes.spawned opened.scheduler) :
    ((Block.procedure .callForValue).settle opened).1 =
      (opened.frame.notes.spawned.findSome? opened.scheduler.reportOf).getD (.text "") := by
  obtain ⟨returns, collects, -⟩ := faith.collect opened opened.frame.notes.spawned none
  rw [Block.settle, collects, Option.none_or]

variable [Scalar α] [Transport τ α]

/-- The threads that a block started for which it waits are in the hand. -/
theorem Faith.opens {hat : String} {filter : HatFilter}
    (faith : Faith invocation.frame.notes.spawned invocation.scheduler)
    (orderly : Orderly invocation.scheduler)
    (new : invocation.frame.isFirstRun = true → invocation.frame.notes.spawned = [])
    (enrolls : ∀ started after, invocation.scheduler.startHats hat filter = (.ok started, after) →
      Enrolls invocation.scheduler started after)
    (opens : invocation.Opens hat filter opened) :
    Faith opened.frame.notes.spawned opened.scheduler := by
  cases opens with
  | @first started scheduler first starts =>
    have idles := (Tame.startHats invocation.scheduler hat filter).idles
    obtain ⟨bridge, undisturbed⟩ := startHats_undisturbed invocation.scheduler hat filter
    rw [new first] at faith
    rw [starts] at idles undisturbed
    change Faith (invocation.frame.notes.spawned ++ started) scheduler
    rw [new first]
    exact faith.start orderly idles undisturbed.returns (enrolls started scheduler starts)
  | again known => exact faith

end Running

end Scheduler

/-- A frame notes threads only while its block waits for them. -/
structure Frame.Sparing [Scalar α] (registry : Registry) (frame : Frame α) : Prop where
  idle : ∀ block, registry.block? frame.opcode = some block →
    (∀ target, block.awaited? frame.args target = none) → frame.notes.spawned = []
  new : frame.isFirstRun = true → frame.notes.spawned = []

namespace Scheduler

section Invoking

variable [Scalar α] [Transport τ α] {taken : Scheduler τ α} {id : ThreadId} {block : Block}
  {target : TargetId} {frame : Frame α} {left : Invocation τ α}
  {result : Except BlockFault (Value α)}

/-- Whatever block is invoked but a probe, faith is kept: the threads that its frame notes are
in the hand when it asks to be invoked again. -/
theorem Faith.run (faith : Faith frame.notes.spawned taken)
    (orderly : Orderly (taken.noteInvocation id target frame))
    (issued : taken.ids.Issued id.text) (known : taken.registry.block? frame.opcode = some block)
    (unprobed : ∀ probe, block ≠ .probe probe) (sparing : frame.Sparing taken.registry)
    (enrolls : ∀ hat filter started after,
      (taken.noteInvocation id target frame).startHats hat filter = (.ok started, after) →
        Enrolls (taken.noteInvocation id target frame) started after)
    (ran : block.run frame.args ⟨taken.noteInvocation id target frame, id, target, frame, false⟩ =
      (result, left)) :
    (left.yielded = true → Faith left.frame.notes.spawned left.scheduler) ∧
      Faith [] left.scheduler := by
  have noted : block ≠ .procedure .report →
      Faith frame.notes.spawned (taken.noteInvocation id target frame) := fun silent =>
    faith.note id target fun reports => silent (Option.some.inj (known.symm.trans reports))
  rcases block.kinds unprobed frame.args target with
    ⟨hat, filter, awaited⟩ | ⟨tending, idle⟩ | rfl
  · have silent : block ≠ .procedure .report := by
      rintro rfl
      cases awaited
    have awaits : block.Awaits
        ⟨taken.noteInvocation id target frame, id, target, frame, false⟩ hat filter
          (result, left) := ran ▸ Block.run_awaits awaited
    cases awaits with
    | @refused fault scheduler first refuses =>
      have idles := (Tame.startHats (taken.noteInvocation id target frame) hat filter).idles
      have held := noted silent
      rw [sparing.new first] at held
      rw [refuses] at idles
      exact ⟨fun yields => (by cases yields), held.idles idles⟩
    | waits opens waiting =>
      have held := Faith.opens (noted silent) orderly sparing.new (enrolls hat filter) opens
      exact ⟨fun _ => held, held.drop⟩
    | @settles opened opens settled =>
      have held := Faith.opens (noted silent) orderly sparing.new (enrolls hat filter) opens
      obtain ⟨returns, same, later⟩ := held.settle block
      have asleep := (block.settle_yielded opened).trans opens.yielded
      rw [same] at asleep ⊢
      exact ⟨fun yields => absurd (asleep.symm.trans yields) Bool.false_ne_true, later⟩
  · have tends := Block.run_tends tending frame.args
      ⟨taken.noteInvocation id target frame, id, target, frame, false⟩
    rw [ran] at tends
    have held := noted (by rintro rfl; exact tending)
    have nobody := sparing.idle block known idle
    rw [nobody] at held
    have later := held.idles tends.tames.idles
    rw [tends.spawned, nobody]
    exact ⟨fun _ => later, later⟩
  · have nobody := sparing.idle _ known fun _ => rfl
    rw [nobody] at faith
    have reported : Faith [] ((taken.noteInvocation id target frame).setReturn id
        ((frame.args.find? "VALUE").getD .null)) := faith.report id target issued known
    have held := reported.idles (Tame.stopThread _ id).idles
    obtain ⟨-, rfl⟩ := Prod.mk.inj ran.symm
    exact ⟨fun yields => (by cases yields), held⟩

end Invoking

end Scheduler

end SpriteMachine
