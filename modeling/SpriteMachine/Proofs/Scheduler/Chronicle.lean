import SpriteMachine.Proofs.Identifier
import SpriteMachine.Proofs.OrderedMap
import SpriteMachine.Scheduler.Threads

/-!
# The chronicle and the live set

A scheduler is in order when its live threads stand under names of its own source, when
every thread that was ended is done or gone, and when its chronicle holds no invocation
for a thread behind the end of that thread. What happens later adds to the chronicle and
never brings a thread back: `Later` relates two moments of one scheduler.

`Advances.ofChange` is the only place where this is proved from scratch. It covers a
change of the live set with at most one deed, and every step of a scheduler is made of
such changes.
-/

namespace SpriteMachine

variable {τ α : Type}

namespace Deed

/-- The thread that a deed is about. -/
def thread : Deed α → ThreadId
  | invoked thread _ _ => thread
  | ended thread => thread
  | retired thread => thread

/-- A block is invoked for a thread. -/
def Invokes (deed : Deed α) (id : ThreadId) : Prop :=
  ∃ target frame, deed = .invoked id target frame

/-- A thread is ended. -/
def Ends (deed : Deed α) (id : ThreadId) : Prop := deed = .ended id ∨ deed = .retired id

/-- An invocation is a deed of the thread it is made for. -/
theorem Invokes.thread_eq {deed : Deed α} {id : ThreadId} (invokes : deed.Invokes id) :
    deed.thread = id := by
  obtain ⟨target, frame, rfl⟩ := invokes
  rfl

/-- An end is a deed of the thread that ends. -/
theorem Ends.thread_eq {deed : Deed α} {id : ThreadId} (ends : deed.Ends id) :
    deed.thread = id := by
  obtain rfl | rfl := ends <;> rfl

/-- An end is no invocation. -/
theorem Ends.not_invokes {deed : Deed α} {id other : ThreadId} (ends : deed.Ends id) :
    ¬ deed.Invokes other := by
  rintro ⟨target, frame, rfl⟩
  obtain same | same := ends <;> cases same

end Deed

namespace Scheduler

/-- No invocation stands behind the end of its thread. A chronicle lists the latest deed
first. -/
def NothingAfterEnd (chronicle : List (Deed α)) : Prop :=
  chronicle.Pairwise fun later earlier => ∀ id, later.Invokes id → ¬ earlier.Ends id

/-- The live threads stand under their own names. -/
def Keyed (scheduler : Scheduler τ α) : Prop :=
  ∀ id thread, scheduler.threads.find? id = some thread → thread.id = id

/-- The live set and the chronicle agree. -/
structure Orderly (scheduler : Scheduler τ α) : Prop where
  distinct : scheduler.ids.Distinct
  keyed : scheduler.Keyed
  issued : ∀ id thread, scheduler.threads.find? id = some thread → scheduler.ids.Issued id.text
  recorded : ∀ deed ∈ scheduler.chronicle, scheduler.ids.Issued deed.thread.text
  ended : ∀ deed ∈ scheduler.chronicle, ∀ id, deed.Ends id → scheduler.isLive id = false
  marked : ∀ id thread, scheduler.threads.find? id = some thread → thread.isDone = true →
    ∃ deed ∈ scheduler.chronicle, deed.Ends id
  ordered : NothingAfterEnd scheduler.chronicle

/-- Settings are kept and names stay issued. -/
structure Keeps (earlier later : Scheduler τ α) : Prop where
  config : later.config = earlier.config
  registry : later.registry = earlier.registry
  ids : IdSource.Continues earlier.ids later.ids

/-- A later moment of a scheduler: the chronicle grows, and threads that ended or are gone
stay so without being invoked. -/
structure Later (earlier later : Scheduler τ α) : Prop extends Keeps earlier later where
  chronicle : ∃ recent, later.chronicle = recent ++ earlier.chronicle ∧
    ∀ id, earlier.ids.Issued id.text → earlier.isLive id = false →
      ∀ deed ∈ recent, ¬ deed.Invokes id
  dead : ∀ id, earlier.ids.Issued id.text → earlier.isLive id = false → later.isLive id = false
  absent : ∀ id, earlier.ids.Issued id.text → earlier.threads.find? id = none →
    later.threads.find? id = none

/-- A step that keeps a scheduler in order and only moves forward. -/
def Advances (before after : Scheduler τ α) : Prop :=
  Orderly before → Orderly after ∧ Later before after

section

variable {first second third scheduler other : Scheduler τ α}

/-- Settings and names are kept where nothing happens. -/
theorem Keeps.refl (scheduler : Scheduler τ α) : Keeps scheduler scheduler :=
  ⟨rfl, rfl, .refl _⟩

/-- Settings and names are kept over two stretches. -/
theorem Keeps.trans (before : Keeps first second) (after : Keeps second third) :
    Keeps first third :=
  ⟨after.config.trans before.config, after.registry.trans before.registry,
    before.ids.trans after.ids⟩

/-- Every moment is later than itself in this sense. -/
theorem Later.refl (scheduler : Scheduler τ α) : Later scheduler scheduler :=
  ⟨.refl _, ⟨[], rfl, fun _ _ _ _ member => by cases member⟩, fun _ _ dead => dead,
    fun _ _ absent => absent⟩

/-- What is later than a later moment is later. -/
theorem Later.trans (before : Later first second) (after : Later second third) :
    Later first third where
  toKeeps := before.toKeeps.trans after.toKeeps
  chronicle := by
    obtain ⟨recent, grown, quiet⟩ := before.chronicle
    obtain ⟨newest, grownLater, quietLater⟩ := after.chronicle
    refine ⟨newest ++ recent, by rw [grownLater, grown, List.append_assoc], ?_⟩
    intro id issued dead deed member
    rcases List.mem_append.mp member with new | old
    · exact quietLater id (before.ids.issued_of issued) (before.dead id issued dead) deed new
    · exact quiet id issued dead deed old
  dead id issued dead :=
    after.dead id (before.ids.issued_of issued) (before.dead id issued dead)
  absent id issued absent :=
    after.absent id (before.ids.issued_of issued) (before.absent id issued absent)

/-- To do nothing is a step forward. -/
theorem Advances.refl (scheduler : Scheduler τ α) : Advances scheduler scheduler :=
  fun orderly => ⟨orderly, .refl _⟩

/-- Two steps forward are one. -/
theorem Advances.trans (before : Advances first second) (after : Advances second third) :
    Advances first third := by
  intro orderly
  obtain ⟨orderlySecond, laterSecond⟩ := before orderly
  obtain ⟨orderlyThird, laterThird⟩ := after orderlySecond
  exact ⟨orderlyThird, laterSecond.trans laterThird⟩

/-- A known thread is live until it is done. -/
theorem isLive_of_find {id : ThreadId} {thread : Thread α}
    (found : scheduler.threads.find? id = some thread) :
    scheduler.isLive id = !thread.isDone := by
  rw [isLive, found]
  rfl

/-- An unknown thread is not live. -/
theorem isLive_of_absent {id : ThreadId} (absent : scheduler.threads.find? id = none) :
    scheduler.isLive id = false := by
  rw [isLive, absent]
  rfl

/-- A live thread is found and not done. -/
theorem find_of_isLive {id : ThreadId} (live : scheduler.isLive id = true) :
    ∃ thread, scheduler.threads.find? id = some thread ∧ thread.isDone = false := by
  cases found : scheduler.threads.find? id with
  | none =>
    rw [isLive_of_absent found] at live
    cases live
  | some thread =>
    rw [isLive_of_find found] at live
    exact ⟨thread, rfl, by simpa using live⟩

/-- What a change makes of one live thread: the thread was there before under the same
name and is done only if it was or is ended just now, or it is new. -/
def Follows (before after : Scheduler τ α) (recent : List (Deed α)) (id : ThreadId)
    (thread : Thread α) : Prop :=
  (∃ earlier, before.threads.find? id = some earlier ∧ thread.id = earlier.id ∧
      (earlier.isDone = true → thread.isDone = true) ∧
      (thread.isDone = true → earlier.isDone = true ∨ ∃ deed ∈ recent, deed.Ends id)) ∨
    (¬ before.ids.Issued id.text ∧ after.ids.Issued id.text ∧ thread.id = id ∧
      thread.isDone = false)

/-- A thread that is found as it was. -/
theorem Follows.same {before after : Scheduler τ α} {recent : List (Deed α)} {id : ThreadId}
    {thread : Thread α} (found : before.threads.find? id = some thread) :
    Follows before after recent id thread :=
  Or.inl ⟨thread, found, rfl, fun done => done, Or.inl⟩

/-- A change of the live set with at most one deed keeps a scheduler in order. -/
theorem Advances.ofChange {before after : Scheduler τ α} (recent : List (Deed α))
    (keeps : Keeps before after)
    (follows : Orderly before → ∀ id thread, after.threads.find? id = some thread →
      Follows before after recent id thread)
    (grown : after.chronicle = recent ++ before.chronicle) (single : recent.length ≤ 1)
    (issued : Orderly before → ∀ deed ∈ recent, before.ids.Issued deed.thread.text)
    (ends : ∀ deed ∈ recent, ∀ id, deed.Ends id → after.isLive id = false)
    (invokes : ∀ deed ∈ recent, ∀ id, deed.Invokes id → before.isLive id = true) :
    Advances before after := by
  intro orderly
  have traced := follows orderly
  have dead : ∀ id, before.ids.Issued id.text → before.isLive id = false →
      after.isLive id = false := by
    intro id known ended
    cases found : after.threads.find? id with
    | none => exact isLive_of_absent found
    | some thread =>
      rcases traced id thread found with ⟨earlier, present, -, kept, -⟩ | ⟨unknown, -⟩
      · rw [isLive_of_find present] at ended
        rw [isLive_of_find found, kept (by simpa using ended)]
        rfl
      · exact absurd known unknown
  have continues := keeps.ids
  refine ⟨⟨continues.distinct orderly.distinct, ?_, ?_, ?_, ?_, ?_, ?_⟩, keeps,
    ⟨recent, grown, ?_⟩, dead, ?_⟩
  · intro id thread found
    rcases traced id thread found with ⟨earlier, present, same, -⟩ | ⟨-, -, same, -⟩
    · exact same.trans (orderly.keyed id earlier present)
    · exact same
  · intro id thread found
    rcases traced id thread found with ⟨earlier, present, -⟩ | ⟨-, new, -⟩
    · exact continues.issued_of (orderly.issued id earlier present)
    · exact new
  · intro deed member
    rw [grown] at member
    rcases List.mem_append.mp member with new | old
    · exact continues.issued_of (issued orderly deed new)
    · exact continues.issued_of (orderly.recorded deed old)
  · intro deed member id ended
    rw [grown] at member
    rcases List.mem_append.mp member with new | old
    · exact ends deed new id ended
    · refine dead id ?_ (orderly.ended deed old id ended)
      rw [← ended.thread_eq]
      exact orderly.recorded deed old
  · intro id thread found done
    rw [grown]
    rcases traced id thread found with ⟨earlier, present, -, -, cause⟩ | ⟨-, -, -, active⟩
    · rcases cause done with before | ⟨deed, new, ended⟩
      · obtain ⟨deed, old, ended⟩ := orderly.marked id earlier present before
        exact ⟨deed, List.mem_append_right _ old, ended⟩
      · exact ⟨deed, List.mem_append_left _ new, ended⟩
    · rw [done] at active
      cases active
  · rw [NothingAfterEnd, grown, List.pairwise_append]
    refine ⟨?_, orderly.ordered, ?_⟩
    · cases recent with
      | nil => exact .nil
      | cons deed others =>
        obtain rfl : others = [] := by simpa using single
        exact List.pairwise_singleton _ deed
    · intro deed new earlier old id invoked ended
      have live := invokes deed new id invoked
      rw [orderly.ended earlier old id ended] at live
      cases live
  · intro id known ended deed new invoked
    rw [invokes deed new id invoked] at ended
    cases ended
  · intro id known gone
    cases found : after.threads.find? id with
    | none => rfl
    | some thread =>
      rcases traced id thread found with ⟨earlier, present, -⟩ | ⟨unknown, -⟩
      · rw [gone] at present
        cases present
      · exact absurd known unknown

end

end Scheduler

end SpriteMachine
