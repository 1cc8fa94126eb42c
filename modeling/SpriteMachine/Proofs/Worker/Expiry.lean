import SpriteMachine.Proofs.Worker.Lifecycle
import SpriteMachine.Proofs.Worker.Pending

/-!
# Expired calls in any order

A look at the deadlines ends the threads of all calls that are due, one after another.
Nothing fixes the order in which a table lists them. The worker that is left is the one
that stopping those threads leaves, and it is told of each of them once, so the order
decides nothing but the order of the reports.
-/

namespace SpriteMachine

variable {α : Type}

/-- The threads that are reported to have failed, in order. -/
def blamed (messages : List (WorkerMessage α)) : List ThreadId :=
  messages.filterMap fun
    | .scriptError thread _ => thread
    | _ => none

/-- Notices that all tell one phase are at most one, where the phase changed. -/
theorem Toggles.constant {before after phase : WorkerStatus} {notices : List WorkerStatus}
    (toggles : Toggles before notices after) (same : ∀ notice ∈ notices, notice = phase) :
    notices = if before = after then [] else [after] := by
  induction toggles with
  | still before => rw [if_pos rfl]
  | @turn before first after rest other onward inductionHypothesis =>
    have later := inductionHypothesis fun notice member =>
      same notice (List.mem_cons_of_mem _ member)
    by_cases reached : first = after
    · rw [if_pos reached] at later
      rw [later, reached, if_neg fun equal => other (reached.trans equal.symm)]
    · rw [if_neg reached] at later
      have firstSame := same first List.mem_cons_self
      have lastSame := same after (by rw [later]; simp)
      exact absurd (firstSame.trans lastSame.symm) reached

namespace ScriptWorker

variable {worker : ScriptWorker α} {now timeout : Nat} {thread : ThreadId}
  {expired order : List (Token × ThreadId)}

/-- A thread is late when the deadline of one of its calls has come. -/
def IsLate (worker : ScriptWorker α) (now : Nat) (thread : ThreadId) : Prop :=
  ∃ token deadline, worker.pending.table.find? token = some ⟨thread, some deadline⟩ ∧
    deadline ≤ now

/-- The worker whose expired calls are taken out of its table. -/
def expiring (worker : ScriptWorker α) (now : Nat) : ScriptWorker α :=
  { worker with pending := (worker.pending.expire now).2 }

/-- The late threads are those of the calls that a look hands out. -/
theorem isLate_iff :
    worker.IsLate now thread ↔ thread ∈ (worker.pending.expire now).1.map Prod.snd := by
  constructor
  · rintro ⟨token, deadline, found, late⟩
    exact List.mem_map.mpr ⟨(token, thread), PendingTokens.mem_expire.mpr ⟨deadline, found, late⟩,
      rfl⟩
  · intro listed
    obtain ⟨⟨token, _⟩, member, rfl⟩ := List.mem_map.mp listed
    obtain ⟨deadline, found, late⟩ := PendingTokens.mem_expire.mp member
    exact ⟨token, deadline, found, late⟩

/-- Stopping the same threads in another order leaves the same worker. -/
theorem stopThreads_congr (worker : ScriptWorker α) {first second : List ThreadId}
    (same : ∀ thread, thread ∈ first ↔ thread ∈ second) :
    (worker.stopThreads first).1 = (worker.stopThreads second).1 := by
  simp only [stopThreads, same]

/-- Failing threads one after another leaves the worker that stopping them leaves. -/
theorem failAll_stops (timeout : Nat) (worker : ScriptWorker α)
    (expired : List (Token × ThreadId)) :
    (failAll timeout worker expired).1 = (worker.stopThreads (expired.map Prod.snd)).1 := by
  induction expired generalizing worker with
  | nil => simp [failAll, stopThreads, PendingTokens.retain, OrderedMap.filter_true]
  | cons first rest inductionHypothesis =>
    refine (inductionHypothesis (worker.fail first.2 (expiry timeout first.1)).1).trans ?_
    simp [fail, stopThreads, PendingTokens.retain, OrderedMap.erase, OrderedMap.filter_filter,
      Bool.and_comm, -List.mem_map]

/-- Each thread that fails is reported, in the order of the calls. -/
theorem failAll_blames (timeout : Nat) (worker : ScriptWorker α)
    (expired : List (Token × ThreadId)) :
    blamed (failAll timeout worker expired).2 = expired.map Prod.snd := by
  induction expired generalizing worker with
  | nil => rfl
  | cons first rest inductionHypothesis =>
    have notice : ∀ left : ScriptWorker α, blamed left.idleNotice = [] := by
      intro left
      unfold idleNotice
      split <;> rfl
    change blamed ((.scriptError (some first.2) _ :: _) ++ _) = _
    rw [blamed, List.filterMap_append, List.filterMap_cons]
    change first.2 :: (blamed _ ++ blamed _) = _
    rw [notice, inductionHypothesis]
    rfl

/-- No thread starts where threads fail. -/
theorem failAll_finished (timeout : Nat) (worker : ScriptWorker α)
    (expired : List (Token × ThreadId)) :
    ∀ notice ∈ lifecycle (failAll timeout worker expired).2, notice = .scriptFinished := by
  induction expired generalizing worker with
  | nil => exact fun notice member => absurd member List.not_mem_nil
  | cons first rest inductionHypothesis =>
    intro notice member
    change notice ∈ lifecycle ((.scriptError (some first.2) _ :: idleNotice _) ++ _) at member
    rw [lifecycle_append, lifecycle_cons rfl, List.mem_append] at member
    rcases member with told | later
    · unfold idleNotice at told
      split at told
      case isTrue => exact List.mem_singleton.mp told
      case isFalse => cases told
    · exact inductionHypothesis _ notice later

/-- Where every thread waits for one call or for none, no two expired calls have the same
thread. -/
theorem expired_distinct (settled : ∀ thread, (worker.seat thread).Settled) (now : Nat) :
    ((worker.pending.expire now).1.map Prod.snd).Nodup := by
  refine List.nodup_iff_count_le_one.mpr fun thread => ?_
  have few : ((worker.seat thread).calls.filter (isDue now)).length ≤ 1 := by
    rcases settled thread with empty | ⟨running, token, deadline, waits⟩
    · rw [empty]
      exact Nat.zero_le 1
    · rw [waits]
      exact List.length_filter_le _ _
  have listed := congrArg List.length (expired_of worker.pending now thread)
  rw [List.length_map] at listed
  rw [List.count, List.countP_map, List.countP_eq_length_filter]
  refine Nat.le_trans (Nat.le_of_eq ?_) few
  exact (congrArg List.length (List.filter_congr fun entry _ =>
    Bool.eq_iff_iff.mpr (by simp))).trans listed

/-- A thread that is late runs, where every thread waits for one call or for none. -/
theorem IsLate.runs (settled : ∀ thread, (worker.seat thread).Settled)
    (late : worker.IsLate now thread) :
    ∃ running, worker.running.find? thread = some running := by
  obtain ⟨token, deadline, found, -⟩ := late
  have waiting : (token, some deadline) ∈ (worker.seat thread).calls :=
    PendingTokens.mem_callsFor.mpr found
  rcases settled thread with empty | ⟨running, _, _, waits⟩
  · rw [empty] at waiting
    cases waiting
  · exact ⟨running, congrArg Seat.place waits⟩

/-- What a look at the deadlines does at a moment: the late threads leave, all others stay
where they are, and exactly the late ones are reported. In whatever order the expired calls
are listed, the same worker is left, the same threads are reported, each as often, and the
same notices are told. -/
structure PollsExactly (worker : ScriptWorker α) (now : Nat) : Prop where
  leaves : ∀ thread, worker.IsLate now thread →
    (worker.poll now).1.running.find? thread = none
  stays : ∀ thread, ¬ worker.IsLate now thread →
    (worker.poll now).1.running.find? thread = worker.running.find? thread
  reports : ∀ thread, thread ∈ blamed (worker.poll now).2 ↔ worker.IsLate now thread
  unordered : ∀ order, order.Perm (worker.pending.expire now).1 →
    (failAll (worker.blockTimeout.getD 0) (worker.expiring now) order).1 =
        (worker.poll now).1 ∧
      (blamed (failAll (worker.blockTimeout.getD 0) (worker.expiring now) order).2).Perm
        (blamed (worker.poll now).2) ∧
      lifecycle (failAll (worker.blockTimeout.getD 0) (worker.expiring now) order).2 =
        lifecycle (worker.poll now).2

/-- The late threads run, and each is handed out once. -/
theorem expiring_phased (settled : ∀ thread, (worker.seat thread).Settled)
    (listed : order.Perm (worker.pending.expire now).1) (timeout : Nat) :
    Phased (worker.expiring now) (failAll timeout (worker.expiring now) order).2
      (failAll timeout (worker.expiring now) order).1 := by
  have named := listed.map Prod.snd
  refine failAll_phased timeout (named.nodup_iff.mpr (expired_distinct settled now)) ?_
  intro thread member
  have late : worker.IsLate now thread := isLate_iff.mpr (named.mem_iff.mp member)
  obtain ⟨running, place⟩ := late.runs settled
  exact ⟨running, place⟩

/-- A poll tells the change of phase that the calls it gives up bring about. -/
theorem poll_phased (settled : ∀ thread, (worker.seat thread).Settled) (now : Nat) :
    Phased worker (worker.poll now).2 (worker.poll now).1 :=
  (expiring_phased settled (.refl _) (worker.blockTimeout.getD 0)).rebase rfl

/-- A worker whose threads each wait for one call polls exactly. -/
theorem polls_exactly (settled : ∀ thread, (worker.seat thread).Settled) (now : Nat) :
    worker.PollsExactly now := by
  have left : (worker.poll now).1 = ((worker.expiring now).stopThreads
      ((worker.pending.expire now).1.map Prod.snd)).1 :=
    failAll_stops (worker.blockTimeout.getD 0) (worker.expiring now) (worker.pending.expire now).1
  have told : blamed (worker.poll now).2 = (worker.pending.expire now).1.map Prod.snd :=
    failAll_blames (worker.blockTimeout.getD 0) (worker.expiring now) (worker.pending.expire now).1
  refine ⟨?_, ?_, ?_, ?_⟩
  · intro thread late
    rw [left, stopThreads, OrderedMap.find_filter]
    cases worker.running.find? thread <;> simp [isLate_iff.mp late]
  · intro thread early
    rw [left, stopThreads, OrderedMap.find_filter]
    have kept : thread ∉ (worker.pending.expire now).1.map Prod.snd :=
      fun listed => early (isLate_iff.mpr listed)
    cases place : worker.running.find? thread <;> simp [expiring, kept, place]
  · intro thread
    rw [told, isLate_iff]
  · intro order listed
    have named := listed.map Prod.snd
    have same : (failAll (worker.blockTimeout.getD 0) (worker.expiring now) order).1 =
        (worker.poll now).1 := by
      rw [failAll_stops, left]
      exact stopThreads_congr _ fun thread => named.mem_iff
    refine ⟨same, ?_, ?_⟩
    · rw [failAll_blames, told]
      exact named
    · have phased := expiring_phased settled listed (worker.blockTimeout.getD 0)
      rw [Phased, same] at phased
      rw [phased.constant (failAll_finished _ _ order)]
      have regular := poll_phased settled now
      exact (regular.constant (failAll_finished _ (worker.expiring now) _)).symm

end ScriptWorker

end SpriteMachine
