import Mathlib.Data.List.Dedup
import Mathlib.Data.List.Perm.Subperm
import SpriteMachine.Proofs.Scheduler.Stroke
import SpriteMachine.Proofs.Stack

/-!
# Threads that a host keeps track of

A host keeps track of a thread that it named when the thread is active or was retired. As
long as no more threads were retired than the host remembers, it remembers every one of
them. Whatever the host does, it goes on to keep track of a thread, unless it ends the
thread without retiring it.
-/

namespace SpriteMachine

variable {τ α : Type}

/-- The thread that was retired. -/
def Deed.retired? : Deed α → Option ThreadId
  | .retired id => some id
  | _ => none

namespace Scheduler

/-- The threads that were retired, each once. -/
def retirees (scheduler : Scheduler τ α) : List ThreadId :=
  (scheduler.chronicle.filterMap Deed.retired?).dedup

/-- No more threads were retired than are remembered. -/
def HasRoom (scheduler : Scheduler τ α) : Prop :=
  scheduler.retirees.length ≤ scheduler.config.retiredCapacity

/-- A thread that was named is active or was retired. -/
def Tracks (scheduler : Scheduler τ α) (id : ThreadId) : Prop :=
  scheduler.ids.Issued id.text ∧ (scheduler.isLive id = true ∨ id ∈ scheduler.retirees)

/-- Every thread that was retired is remembered, as long as there is room. -/
def Recalls (scheduler : Scheduler τ α) : Prop :=
  scheduler.HasRoom → scheduler.retired.Nodup ∧
    ∀ id, id ∈ scheduler.retired ↔ id ∈ scheduler.retirees

/-- Every stack holds blocks that are known. -/
def Laden (scheduler : Scheduler τ α) : Prop :=
  ∀ id thread, scheduler.threads.find? id = some thread → thread.Stacked scheduler.registry

/-- The host goes on: it keeps its settings, remembers threads and stacks known blocks. -/
structure Proceeds (before after : Scheduler τ α) : Prop extends Keeps before after where
  grows : ∀ id ∈ before.retirees, id ∈ after.retirees
  recalls : before.Recalls → after.Recalls
  laden : before.Laden → after.Laden

/-- The host goes on and still keeps track of every thread. -/
structure Minds (before after : Scheduler τ α) : Prop extends Proceeds before after where
  tracked : ∀ id, before.Tracks id → after.Tracks id

variable {first second third before after scheduler : Scheduler τ α} {id : ThreadId}

/-- Two stretches in which the host goes on are one. -/
theorem Proceeds.trans (before : Proceeds first second) (after : Proceeds second third) :
    Proceeds first third :=
  ⟨before.toKeeps.trans after.toKeeps, fun id member => after.grows id (before.grows id member),
    after.recalls ∘ before.recalls, after.laden ∘ before.laden⟩

/-- The host keeps track over two stretches. -/
theorem Minds.trans (before : Minds first second) (after : Minds second third) :
    Minds first third :=
  ⟨before.toProceeds.trans after.toProceeds,
    fun id tracked => after.tracked id (before.tracked id tracked)⟩

/-- There was room before if there is room for more threads now. -/
theorem room_of_grows (config : after.config = before.config)
    (grows : ∀ id ∈ before.retirees, id ∈ after.retirees) (room : after.HasRoom) :
    before.HasRoom := by
  have fewer : before.retirees.length ≤ after.retirees.length :=
    (List.subperm_of_subset (List.nodup_dedup _) grows).length_le
  rw [HasRoom, config] at room
  exact Nat.le_trans fewer room

/-- Where there is room at the end there was room before. -/
theorem Proceeds.room (proceeds : Proceeds before after) (room : after.HasRoom) :
    before.HasRoom :=
  room_of_grows proceeds.config proceeds.grows room

/-- Who was retired stays so. -/
theorem Later.room (later : Later before after) (room : after.HasRoom) : before.HasRoom := by
  obtain ⟨recent, grown, -⟩ := later.chronicle
  refine room_of_grows later.config (fun id member => ?_) room
  rw [retirees, List.mem_dedup] at member ⊢
  rw [grown, List.filterMap_append]
  exact List.mem_append_right _ member

/-- Nobody is retired. -/
theorem Minds.still (keeps : Keeps before after) (retired : after.retired = before.retired)
    (retirees : after.retirees = before.retirees)
    (live : ∀ id, before.isLive id = true → after.isLive id = true)
    (laden : before.Laden → after.Laden) : Minds before after := by
  refine ⟨⟨keeps, fun id member => ?_, fun recalls => ?_, laden⟩,
    fun id ⟨issued, active⟩ => ⟨keeps.ids.issued_of issued, ?_⟩⟩
  · rw [retirees]
    exact member
  · rw [Recalls, HasRoom, retired, retirees, keeps.config]
    exact recalls
  · rw [retirees]
    exact active.imp_left (live id)

/-- The threads stay as they are, and nobody is retired. -/
theorem Minds.ofThreads (keeps : Keeps before after) (threads : after.threads = before.threads)
    (retired : after.retired = before.retired) (chronicle : after.chronicle = before.chronicle) :
    Minds before after := by
  refine .still keeps retired (by rw [Scheduler.retirees, chronicle]; rfl) (fun id live => ?_)
    fun laden id thread found => ?_
  · rw [isLive, threads]
    exact live
  · rw [threads] at found
    rw [keeps.registry]
    exact laden id thread found

/-- The host keeps track where nothing happens. -/
theorem Minds.refl (scheduler : Scheduler τ α) : Minds scheduler scheduler :=
  .ofThreads (.refl scheduler) rfl rfl rfl

/-- A quiet change loses track of nobody. -/
theorem Quiet.minds (quiet : Quiet before after) : Minds before after :=
  .ofThreads ⟨quiet.config, quiet.registry, quiet.ids⟩ quiet.threads quiet.retired quiet.chronicle

/-- Only the bridge changes. -/
theorem Minds.ofBridge (scheduler : Scheduler τ α) (bridge : Bridge τ α) :
    Minds scheduler { scheduler with bridge := bridge } :=
  .ofThreads ⟨rfl, rfl, .refl _⟩ rfl rfl rfl

/-- With room for a thread, it is remembered beside all others. -/
theorem remember_of_room {capacity : Nat} {retired : List ThreadId}
    (room : (if id ∈ retired then retired else retired ++ [id]).length ≤ capacity) :
    remember capacity retired id = if id ∈ retired then retired else retired ++ [id] := by
  unfold remember
  dsimp only
  rw [Nat.sub_eq_zero_of_le room, List.drop_zero]

/-- A thread is retired. -/
theorem Proceeds.retiring (keeps : Keeps before after)
    (retired : after.retired = remember before.config.retiredCapacity before.retired id)
    (retirees : ∀ other, other ∈ after.retirees ↔ other = id ∨ other ∈ before.retirees)
    (laden : before.Laden → after.Laden) : Proceeds before after := by
  have grows : ∀ other ∈ before.retirees, other ∈ after.retirees :=
    fun other member => (retirees other).mpr (Or.inr member)
  refine ⟨keeps, grows, fun recalls room => ?_, laden⟩
  obtain ⟨distinct, recalled⟩ := recalls (room_of_grows keeps.config grows room)
  have all : (if id ∈ before.retired then before.retired else before.retired ++ [id]).Nodup ∧
      ∀ other, other ∈ (if id ∈ before.retired then before.retired else before.retired ++ [id]) ↔
        other ∈ after.retirees := by
    split
    case isTrue member =>
      refine ⟨distinct, fun other => ?_⟩
      rw [recalled, retirees]
      refine ⟨Or.inr, ?_⟩
      rintro (rfl | earlier)
      · exact (recalled _).mp member
      · exact earlier
    case isFalse absent =>
      refine ⟨List.concat_eq_append ▸ distinct.concat absent, fun other => ?_⟩
      rw [List.mem_append, List.mem_singleton, recalled, retirees, or_comm]
  rw [retired, remember_of_room]
  · exact all
  · rw [HasRoom, keeps.config] at room
    exact Nat.le_trans (List.subperm_of_subset all.1 fun other member =>
      (all.2 other).mp member).length_le room

/-- Every thread that a change finishes or spares keeps its stack. -/
theorem Laden.modify {change : Thread α → Thread α} (registry : after.registry = before.registry)
    (threads : after.threads = before.threads.modify id change)
    (frames : ∀ thread, before.threads.find? id = some thread →
      thread.Stacked before.registry → (change thread).Stacked before.registry)
    (laden : before.Laden) : after.Laden := by
  intro other thread found
  rw [registry]
  rw [threads, OrderedMap.find_modify] at found
  split at found
  case isTrue same =>
    obtain ⟨earlier, present, rfl⟩ := Option.map_eq_some_iff.mp found
    exact frames earlier (same ▸ present) (laden other earlier present)
  case isFalse => exact laden other thread found

/-- A thread that is finished keeps its stack. -/
theorem finish_stacked {registry : Registry} {thread : Thread α}
    (stacked : thread.Stacked registry) :
    thread.finish.Stacked registry :=
  stacked.congr rfl

/-- Whoever is retired is among the retired, with those before. -/
theorem mem_retirees_retire {other : ThreadId} :
    other ∈ (scheduler.retire id).retirees ↔ other = id ∨ other ∈ scheduler.retirees := by
  unfold retirees retire
  dsimp only
  rw [List.mem_dedup, List.mem_dedup, List.filterMap_cons, Deed.retired?, List.mem_cons]

/-- A thread that is retired is remembered, as long as there is room. -/
theorem retire_minds (scheduler : Scheduler τ α) (id : ThreadId) :
    Minds scheduler (scheduler.retire id) := by
  refine ⟨.retiring ⟨rfl, rfl, .refl _⟩ rfl (fun _ => mem_retirees_retire)
    (Laden.modify rfl rfl fun _ _ stacked => finish_stacked stacked),
    fun other ⟨issued, active⟩ => ⟨issued, ?_⟩⟩
  rw [mem_retirees_retire]
  by_cases same : other = id
  · exact Or.inr (Or.inl same)
  · refine active.imp (fun live => ?_) Or.inr
    rw [isLive, retire, OrderedMap.find_modify, if_neg same]
    exact live

/-- Threads that are retired are remembered, as long as there is room. -/
theorem retireAll_minds (ids : List ThreadId) (scheduler : Scheduler τ α) :
    Minds scheduler (scheduler.retireAll ids) := by
  induction ids generalizing scheduler with
  | nil => exact .refl scheduler
  | cons first rest inductionHypothesis =>
    exact (retire_minds scheduler first).trans (inductionHypothesis _)

/-- Ending a thread, of which the host loses track then. -/
theorem endThread_proceeds (scheduler : Scheduler τ α) (id : ThreadId) :
    Proceeds scheduler (scheduler.endThread id).2 ∧
      ∀ other, other ≠ id → scheduler.Tracks other →
        (scheduler.endThread id).2.Tracks other := by
  unfold endThread
  split
  case isTrue =>
    refine ⟨⟨⟨rfl, rfl, .refl _⟩, fun _ member => member, fun recalls => recalls,
      Laden.modify rfl rfl fun _ _ stacked => finish_stacked stacked⟩,
      fun other different tracked => ⟨tracked.1, tracked.2.imp_left fun live => ?_⟩⟩
    rw [isLive, OrderedMap.find_modify, if_neg different]
    exact live
  case isFalse => exact ⟨(Minds.refl scheduler).toProceeds, fun _ _ tracked => tracked⟩

/-- A thread is ended and retired. -/
theorem endRetire_minds (scheduler : Scheduler τ α) (id : ThreadId) :
    Minds scheduler ((scheduler.endThread id).2.retire id) := by
  obtain ⟨ends, spared⟩ := endThread_proceeds scheduler id
  have retires := retire_minds (scheduler.endThread id).2 id
  refine ⟨ends.trans retires.toProceeds, fun other tracked => ?_⟩
  by_cases same : other = id
  · exact ⟨(ends.ids.trans retires.ids).issued_of tracked.1,
      Or.inr (mem_retirees_retire.mpr (Or.inl same))⟩
  · exact retires.tracked other (spared other same tracked)

/-- Threads that have ended are removed. -/
theorem Minds.clear (keep : ThreadId → Thread α → Bool) (keeps : Keeps before after)
    (threads : after.threads = before.threads.filter keep)
    (retired : after.retired = before.retired) (chronicle : after.chronicle = before.chronicle)
    (ended : ∀ id thread, before.threads.find? id = some thread → keep id thread = false →
      thread.isDone = true) : Minds before after := by
  refine .still keeps retired (by rw [Scheduler.retirees, chronicle]; rfl) (fun id live => ?_)
    fun laden id thread found => ?_
  · obtain ⟨thread, found, active⟩ := find_of_isLive live
    have kept : keep id thread = true := by
      cases removed : keep id thread with
      | true => rfl
      | false =>
        rw [ended id thread found removed] at active
        cases active
    rw [isLive, threads, OrderedMap.find_filter, found, Option.filter_some, if_pos kept,
      Option.any_some, Thread.isActive, active]
    rfl
  · rw [threads, OrderedMap.find_filter] at found
    rw [keeps.registry]
    exact laden id thread (Option.filter_eq_some_iff.mp found).1

/-- A thread that rests is registered. -/
theorem adopt_minds (scheduler : Scheduler τ α) (thread : ThreadId → Thread α)
    (named : ∀ id, (thread id).id = id) (rests : ∀ id, (thread id).Rests) :
    Minds scheduler (scheduler.nextThreadId.2.adopt (thread scheduler.nextThreadId.1)) := by
  obtain ⟨continues, -, -⟩ := nextThreadId_fresh scheduler
  have finds : ∀ other,
      (scheduler.nextThreadId.2.adopt (thread scheduler.nextThreadId.1)).threads.find? other =
        if other = scheduler.nextThreadId.1 then some (thread scheduler.nextThreadId.1)
        else scheduler.threads.find? other := by
    intro other
    rw [Scheduler.adopt, OrderedMap.find_insert, named]
    rfl
  refine .still ⟨rfl, rfl, continues⟩ rfl rfl (fun other live => ?_)
    fun laden other present found => ?_
  · rw [isLive, finds]
    split
    case isTrue => exact (rests _).active
    case isFalse => exact live
  · rw [finds] at found
    split at found
    case isTrue =>
      obtain rfl := Option.some.inj found
      exact (rests _).stacked _
    case isFalse => exact laden other present found

/-- The host keeps track of a thread that it registered. -/
theorem adopt_tracks (scheduler : Scheduler τ α) (thread : ThreadId → Thread α)
    (named : ∀ id, (thread id).id = id) (rests : ∀ id, (thread id).Rests) :
    (scheduler.nextThreadId.2.adopt (thread scheduler.nextThreadId.1)).Tracks
      scheduler.nextThreadId.1 := by
  refine ⟨(nextThreadId_fresh scheduler).2.2, Or.inl ?_⟩
  rw [isLive, Scheduler.adopt, OrderedMap.find_insert, named, if_pos rfl]
  exact (rests _).active

/-- A block is invoked. -/
theorem noteInvocation_minds (scheduler : Scheduler τ α) (id : ThreadId) (target : TargetId)
    (frame : Frame α) : Minds scheduler (scheduler.noteInvocation id target frame) :=
  .still ⟨rfl, rfl, .refl _⟩ rfl rfl (fun _ live => live) fun laden => laden

/-- A thread changes and ends no earlier. -/
theorem Minds.modify (scheduler : Scheduler τ α) (id : ThreadId) (change : Thread α → Thread α)
    (activity : ∀ thread, scheduler.threads.find? id = some thread →
      (change thread).isDone = thread.isDone)
    (spares : ∀ thread, scheduler.threads.find? id = some thread →
      thread.Stacked scheduler.registry → (change thread).Stacked scheduler.registry) :
    Minds scheduler { scheduler with threads := scheduler.threads.modify id change } := by
  refine .still ⟨rfl, rfl, .refl _⟩ rfl rfl (fun other live => ?_) (Laden.modify rfl rfl spares)
  obtain ⟨thread, found, active⟩ := find_of_isLive live
  rw [isLive, OrderedMap.find_modify]
  split
  case isTrue same =>
    rw [found, Option.map_some, Option.any_some, Thread.isActive, activity thread (same ▸ found),
      active]
    rfl
  case isFalse => exact live

/-- A thread is woken and gives up its top frame. -/
theorem wake_minds {thread woken : Thread α} {frame : Option (Frame α)}
    (found : scheduler.threads.find? id = some thread)
    (popped : (thread.setStatus .running).popBlock = (frame, woken)) :
    Minds scheduler { scheduler with threads := scheduler.threads.modify id fun _ => woken } := by
  refine .modify scheduler id (fun _ => woken) (fun other present => ?_)
    fun other present stacked => ?_
  · obtain rfl := Option.some.inj (found.symm.trans present)
    have kept := (thread.setStatus .running).popBlock_isDone.trans
      (thread.setStatus_isDone (by decide))
    rwa [popped] at kept
  · obtain rfl := Option.some.inj (found.symm.trans present)
    exact ((stacked.congr (thread.setStatus_frames .running)).popBlock popped).1

/-- A thread waits with a block that is known. -/
theorem suspend_minds (scheduler : Scheduler τ α) (id : ThreadId) {frame : Frame α}
    (known : (scheduler.registry.block? frame.opcode).isSome) :
    Minds scheduler (scheduler.suspend id frame) := by
  refine .modify scheduler id _ (fun thread _ => ?_) fun thread _ stacked => ?_
  · split
    case isTrue => exact Thread.setStatus_isDone _ (by decide)
    case isFalse => rfl
  · split
    case isTrue =>
      have pushed : (thread.push { frame with state := .waiting }).Stacked scheduler.registry :=
        stacked.push rfl known
      exact pushed.congr (Thread.setStatus_frames _ _)
    case isFalse => exact stacked

/-- To sweep the ended threads away loses track of nobody. -/
theorem sweep_minds (scheduler : Scheduler τ α) : Minds scheduler scheduler.sweep.2 :=
  .clear (fun _ thread => thread.isActive) ⟨rfl, rfl, .refl _⟩ rfl rfl rfl
    fun _ thread _ ended => by
    rw [Thread.isActive] at ended
    simpa using ended

/-- To end every thread loses track of nobody. -/
theorem endEveryThread_minds (scheduler : Scheduler τ α) :
    Minds scheduler scheduler.endEveryThread := by
  refine (retireAll_minds scheduler.threads.keys scheduler).trans (.clear
    (fun _ thread => ((scheduler.retireAll scheduler.threads.keys).stage.target?
      thread.target).any fun target => !target.isClone)
    ⟨rfl, rfl, .refl _⟩ rfl rfl rfl fun id thread found _ => ?_)
  rw [find_retireAll] at found
  obtain ⟨earlier, present, rfl⟩ := Option.map_eq_some_iff.mp found
  rw [if_pos (OrderedMap.mem_keys_iff.mpr ⟨earlier, present⟩), Thread.isDone, Thread.finish]
  rfl

/-- Whatever stroke is done, the host goes on. -/
theorem Stroke.proceeds [Transport τ α] (stroke : Stroke before after) :
    Proceeds before after := by
  cases stroke with
  | quiet quiet => exact quiet.minds.toProceeds
  | retire id => exact (retire_minds before id).toProceeds
  | finish id => exact (endThread_proceeds before id).1
  | clear ended =>
    have clears : Minds before { before with threads := before.threads.filter _ } :=
      .clear _ ⟨rfl, rfl, .refl _⟩ rfl rfl rfl ended
    exact clears.toProceeds
  | adopt registrable =>
    exact (adopt_minds before _ registrable.named registrable.rests).toProceeds
  | tell message order => exact (Minds.ofBridge before _).toProceeds
  | ask hat option starts => exact (Minds.ofBridge before _).toProceeds

/-- Strokes let the host go on. -/
theorem Strokes.proceeds [Transport τ α] (strokes : Strokes before after) :
    Proceeds before after := by
  induction strokes with
  | refl => exact (Minds.refl before).toProceeds
  | tail _ stroke inductionHypothesis => exact inductionHypothesis.trans stroke.proceeds

section Enlisting

variable {starts others : List ThreadStart}

/-- Threads that are to be started were registered under new names. -/
structure Enlists (before after : Scheduler τ α) (starts : List ThreadStart) : Prop where
  minds : Minds before after
  bridge : after.bridge = before.bridge
  tracked : ∀ id ∈ starts.map ThreadStart.thread, after.Tracks id
  fresh : before.ids.Distinct → ∀ id ∈ starts.map ThreadStart.thread,
    ¬ before.ids.Issued id.text
  distinct : before.ids.Distinct → (starts.map ThreadStart.thread).Nodup

/-- No thread was registered. -/
theorem Enlists.nobody (minds : Minds before after) (bridge : after.bridge = before.bridge) :
    Enlists before after [] :=
  ⟨minds, bridge, fun _ none => (List.not_mem_nil none).elim,
    fun _ _ none => (List.not_mem_nil none).elim, fun _ => List.nodup_nil⟩

/-- One thread was registered. -/
theorem Enlists.one (scheduler : Scheduler τ α) (thread : ThreadId → Thread α)
    (named : ∀ id, (thread id).id = id) (rests : ∀ id, (thread id).Rests) (script : ScriptId)
    (target : TargetId) :
    Enlists scheduler (scheduler.nextThreadId.2.adopt (thread scheduler.nextThreadId.1))
      [⟨scheduler.nextThreadId.1, script, target⟩] := by
  refine ⟨adopt_minds scheduler thread named rests, rfl, fun id member => ?_,
    fun distinct id member => ?_, fun _ => List.nodup_singleton _⟩
  · rw [List.mem_singleton.mp member]
    exact adopt_tracks scheduler thread named rests
  · rw [List.mem_singleton.mp member]
    exact (nextThreadId_fresh scheduler).2.1 distinct

/-- Some threads are registered, and then some others. -/
theorem Enlists.trans (earlier : Enlists first second starts)
    (later : Enlists second third others) : Enlists first third (starts ++ others) := by
  refine ⟨earlier.minds.trans later.minds, later.bridge.trans earlier.bridge, fun id member => ?_,
    fun distinct id member => ?_, fun distinct => ?_⟩
  · rw [List.map_append, List.mem_append] at member
    rcases member with here | there
    · exact later.minds.tracked id (earlier.tracked id here)
    · exact later.tracked id there
  · rw [List.map_append, List.mem_append] at member
    rcases member with here | there
    · exact earlier.fresh distinct id here
    · exact fun issued => later.fresh (earlier.minds.ids.distinct distinct) id there
        (earlier.minds.ids.issued_of issued)
  · have still := earlier.minds.ids.distinct distinct
    rw [List.map_append]
    refine (earlier.distinct distinct).append (later.distinct still) fun id here there => ?_
    exact later.fresh still id there (earlier.tracked id here).1

/-- Threads that are begun are enlisted under the names of their starts. -/
theorem beginAll_enlists (hat : String) (restarting : Bool) (candidates : List HatCandidate)
    (scheduler : Scheduler τ α) :
    Enlists scheduler (beginAll hat restarting scheduler candidates).2
      (beginAll hat restarting scheduler candidates).1.1 := by
  induction candidates generalizing scheduler with
  | nil => exact .nobody (.refl scheduler) rfl
  | cons candidate rest inductionHypothesis =>
    unfold beginAll
    dsimp only
    split
    case isTrue => exact inductionHypothesis scheduler
    case isFalse =>
      let active := scheduler.activeOn candidate.script candidate.target
      have retired : Enlists scheduler (scheduler.retireAll active) [] :=
        .nobody (retireAll_minds active scheduler) (retireAll_framed active scheduler).bridge
      have began := retired.trans (.one (scheduler.retireAll active)
        (fun id => .forHat id candidate.target ⟨candidate.script, hat, candidate.option⟩)
        (fun _ => rfl) (fun _ => Thread.forHat_rests _ _ _) candidate.script candidate.target)
      exact began.trans (inductionHypothesis _)

/-- To add a thread loses track of nobody. -/
theorem addThread_minds (scheduler : Scheduler τ α) (target : TargetId) (hasListener : Bool) :
    Minds scheduler (scheduler.addThread target hasListener).2 :=
  adopt_minds scheduler (fun id => .plain id target hasListener) (fun _ => rfl)
    fun _ => Thread.plain_rests _ target hasListener

/-- Threads that are adopted are enlisted under the names of their starts. -/
theorem adoptAll_enlists (entries : List (ScriptId × Registration)) (scheduler : Scheduler τ α) :
    Enlists scheduler (scheduler.adoptAll entries).2 (scheduler.adoptAll entries).1 := by
  induction entries generalizing scheduler with
  | nil => exact .nobody (.refl scheduler) rfl
  | cons entry rest inductionHypothesis =>
    have first := Enlists.one scheduler (fun id => .plain id entry.2.target false) (fun _ => rfl)
      (fun _ => Thread.plain_rests _ entry.2.target false) entry.1 entry.2.target
    exact first.trans (inductionHypothesis _)

end Enlisting

end Scheduler

end SpriteMachine
