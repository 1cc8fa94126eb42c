import SpriteMachine.Proofs.Scheduler.Progress

/-!
# An ended thread stays ended

Since every operation advances, a thread that ended or is gone is never live again, no
block is invoked for it any more, and after the next tick its name is unknown for good.
-/

namespace SpriteMachine

namespace Scheduler

variable {τ α : Type} [Scalar α] [Transport τ α] {scheduler : Scheduler τ α}

/-- What becomes of an ended thread, whatever is done afterwards: it is never live again,
no block is invoked for it, and from the next tick on its name is unknown. -/
structure EndedForGood (scheduler : Scheduler τ α) (id : ThreadId) : Prop where
  dead : ∀ operations, (scheduler.run operations).isLive id = false
  silent : ∀ operations, ∃ recent,
    (scheduler.run operations).chronicle = recent ++ scheduler.chronicle ∧
      ∀ deed ∈ recent, ¬ deed.Invokes id
  unknown : ∀ operations, (scheduler.step.2.run operations).thread? id = .error (.notFound id)

/-- A thread that was known and is not live has ended for good. -/
theorem endedForGood_of_dead {id : ThreadId} (orderly : Orderly scheduler)
    (issued : scheduler.ids.Issued id.text) (ended : scheduler.isLive id = false) :
    EndedForGood scheduler id := by
  refine ⟨?_, ?_, ?_⟩
  · intro operations
    exact (run_advances operations scheduler orderly).2.dead id issued ended
  · intro operations
    obtain ⟨recent, grown, quiet⟩ := (run_advances operations scheduler orderly).2.chronicle
    exact ⟨recent, grown, quiet id issued ended⟩
  · intro operations
    obtain ⟨stepped, later⟩ := step_advances scheduler orderly
    have gone := step_evicts orderly issued ended
    have absent := (run_advances operations scheduler.step.2 stepped).2.absent id
      (later.ids.issued_of issued) gone
    rw [thread?, absent]

/-- An ended thread stays ended. In every run, no invocation stands behind the end of its
thread; a thread that is done was ended by a deed, and a thread that a deed ended, or that
was there and is not live any more, has ended for good; and so has a thread whose start
failed or was refused. -/
theorem ended_threads_stay_ended (config : SchedulerConfig) (registry : Registry) (transport : τ)
    (motors : Motors (LoopbackLink α) α) {ids : IdSource} (distinct : ids.Distinct)
    (past present : List (Operation τ α)) :
    let before := (fresh config registry transport ids motors).run past
    let now := before.run present
    NothingAfterEnd now.chronicle ∧
      (∀ id thread, now.threads.find? id = some thread → thread.isDone = true →
        ∃ deed ∈ now.chronicle, deed.Ends id) ∧
      (∀ deed ∈ now.chronicle, ∀ id, deed.Ends id → EndedForGood now id) ∧
      (∀ id, before.threads.contains id = true → now.isLive id = false → EndedForGood now id) ∧
      ∀ hat filter id, now.threads.contains id = false →
        (now.startHats hat filter).2.threads.contains id = true →
        (∀ accepted, (now.startHats hat filter).1 = .ok accepted → id ∉ accepted) →
        EndedForGood (now.startHats hat filter).2 id := by
  intro before now
  have orderlyBefore : Orderly before := (run_advances past _ (fresh_orderly config registry
    transport motors distinct)).1
  obtain ⟨orderly, later⟩ := run_advances present before orderlyBefore
  refine ⟨orderly.ordered, orderly.marked, ?_, ?_, ?_⟩
  · intro deed member id ends
    refine endedForGood_of_dead orderly ?_ (orderly.ended deed member id ends)
    rw [← ends.thread_eq]
    exact orderly.recorded deed member
  · intro id present ended
    rw [OrderedMap.contains_eq_isSome, Option.isSome_iff_exists] at present
    obtain ⟨thread, found⟩ := present
    exact endedForGood_of_dead orderly
      (later.ids.issued_of (orderlyBefore.issued id thread found)) ended
  · intro hat filter id absent present refused
    have orderlyAfter := (startHats_advances now hat filter orderly).1
    rw [OrderedMap.contains_eq_isSome, Option.isSome_iff_exists] at present
    obtain ⟨thread, found⟩ := present
    refine endedForGood_of_dead orderlyAfter (orderlyAfter.issued id thread found) ?_
    rw [OrderedMap.contains_eq_isSome, Option.isSome_eq_false_iff, Option.isNone_iff_eq_none]
      at absent
    exact startHats_refused absent refused

/-- A thread that is stopped while its first call waits to be handled. -/
theorem stoppedThread_ended :
    EndedForGood ((standardScheduler.run
      [.addTarget (.sprite ⟨"cat"⟩ "Cat"), .runBatch singleScript]).run [.stopThread ⟨"#1"⟩])
      ⟨"#1"⟩ :=
  (ended_threads_stay_ended .standard .standard (Inline.idle none : Inline Rat)
    (.atRest .reliable Motors.defaultBackoff) IdSource.numbered_distinct
    [.addTarget (.sprite ⟨"cat"⟩ "Cat"), .runBatch singleScript] [.stopThread ⟨"#1"⟩]).2.2.2.1
    ⟨"#1"⟩ (by decide +kernel) (by decide +kernel)

end Scheduler

end SpriteMachine
