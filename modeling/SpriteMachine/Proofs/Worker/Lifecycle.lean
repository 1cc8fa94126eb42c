import SpriteMachine.Proofs.Worker.Tapped
import SpriteMachine.Proofs.Worker.Treatment

/-!
# When threads run, and when none does

A worker tells that threads run when it admits the first one, and that none does when
the last one leaves. Threads leave one at a time inside of longer steps, so every step
is followed thread by thread: what is told turns the phase over each time, from the
phase in which the step began to the one in which it ends.

A step that refuses a call or gives calls up keeps to this when the threads of those
calls run.
-/

namespace SpriteMachine

variable {α : Type}

/-- The notices among messages that threads run, or that none does. -/
def lifecycle (messages : List (WorkerMessage α)) : List WorkerStatus :=
  (messages.filterMap WorkerMessage.status?).filter fun status =>
    status = .scriptRunning ∨ status = .scriptFinished

/-- Notices are told in the order of the messages. -/
@[simp]
theorem lifecycle_append (first second : List (WorkerMessage α)) :
    lifecycle (first ++ second) = lifecycle first ++ lifecycle second := by
  simp [lifecycle]

/-- There are two notices about the phase, running and finished. -/
theorem of_mem_lifecycle {messages : List (WorkerMessage α)} {notice : WorkerStatus}
    (member : notice ∈ lifecycle messages) :
    notice = .scriptRunning ∨ notice = .scriptFinished :=
  of_decide_eq_true (List.mem_filter.mp member).2

/-- A message that is no status tells nothing about the phase. -/
theorem lifecycle_cons {message : WorkerMessage α} (other : message.status? = none)
    (rest : List (WorkerMessage α)) : lifecycle (message :: rest) = lifecycle rest := by
  rw [lifecycle, List.filterMap_cons, other]
  rfl

/-- Notices that lead from one phase to another, each telling a change. -/
inductive Toggles : WorkerStatus → List WorkerStatus → WorkerStatus → Prop where
  | still (phase : WorkerStatus) : Toggles phase [] phase
  | turn {before phase after : WorkerStatus} {rest : List WorkerStatus} (other : phase ≠ before)
      (onward : Toggles phase rest after) : Toggles before (phase :: rest) after

namespace Toggles

variable {before middle after : WorkerStatus} {first second notices : List WorkerStatus}

/-- Notices that toggle from phase to phase in two stretches toggle throughout. -/
theorem append (early : Toggles before first middle) (late : Toggles middle second after) :
    Toggles before (first ++ second) after := by
  induction early with
  | still phase => exact late
  | turn other onward inductionHypothesis => exact .turn other (inductionHypothesis late)

/-- No notice repeats the one before it. -/
theorem isChain (toggles : Toggles before notices after) :
    (before :: notices).IsChain (· ≠ ·) := by
  induction toggles with
  | still phase => exact .singleton phase
  | turn other onward inductionHypothesis => exact .cons_cons other.symm inductionHypothesis

/-- The last notice tells the phase that was reached. -/
theorem getLast (toggles : Toggles before notices after) :
    notices.getLast?.getD before = after := by
  induction toggles with
  | still phase => rfl
  | turn other onward inductionHypothesis =>
    rw [List.getLast?_cons, Option.getD_some]
    exact inductionHypothesis

end Toggles

namespace ScriptWorker

variable {worker : ScriptWorker α} {thread : ThreadId}

/-- The phase of a worker: threads run, or none does. -/
def phase (worker : ScriptWorker α) : WorkerStatus :=
  if worker.running.isEmpty then .scriptFinished else .scriptRunning

/-- A step whose notices tell the phases from the one before it to the one behind it. -/
def Phased (before : ScriptWorker α) (sent : List (WorkerMessage α))
    (after : ScriptWorker α) : Prop :=
  Toggles before.phase (lifecycle sent) after.phase

/-- A step without a notice leaves the phase as it is. -/
theorem Phased.silent {before after : ScriptWorker α} {sent : List (WorkerMessage α)}
    (silent : lifecycle sent = []) (same : after.phase = before.phase) :
    Phased before sent after := by
  rw [Phased, silent, same]
  exact .still _

/-- Two steps that tell their phases are one that does. -/
theorem Phased.trans {first second third : ScriptWorker α} {sent more : List (WorkerMessage α)}
    (early : Phased first sent second) (late : Phased second more third) :
    Phased first (sent ++ more) third := by
  rw [Phased, lifecycle_append]
  exact early.append late

/-- A step may begin at any worker in the same phase. -/
theorem Phased.rebase {first second third : ScriptWorker α} {sent : List (WorkerMessage α)}
    (phased : Phased first sent second) (same : first.phase = third.phase) :
    Phased third sent second := by
  rw [Phased, ← same]
  exact phased

/-- Other messages with the same notices may stand for those of a step. -/
theorem Phased.retell {before after : ScriptWorker α} {sent told : List (WorkerMessage α)}
    (phased : Phased before sent after) (same : lifecycle told = lifecycle sent) :
    Phased before told after := by
  rw [Phased, same]
  exact phased

/-- A worker with a running thread is in the running phase. -/
theorem phase_running (runs : worker.running.isEmpty = false) :
    worker.phase = .scriptRunning := by
  rw [phase, runs]
  rfl

/-- A worker without a running thread is in the finished phase. -/
theorem phase_finished (idle : worker.running.isEmpty = true) :
    worker.phase = .scriptFinished := by
  rw [phase, idle]
  rfl

/-- Threads run exactly when the phase says so. -/
theorem phase_eq_running : worker.phase = .scriptRunning ↔ worker.running.isEmpty = false := by
  cases idle : worker.running.isEmpty with
  | false => simp [phase_running idle]
  | true => simp [phase_finished idle]

/-- A worker with a running thread is in the running phase. -/
theorem phase_of_place {running : RunningThread α}
    (place : worker.running.find? thread = some running) : worker.phase = .scriptRunning :=
  phase_running (OrderedMap.isEmpty_of_find place)

/-- From the running phase on, the notice that no thread runs tells the truth. -/
theorem toggles_idleNotice (worker : ScriptWorker α) :
    Toggles .scriptRunning (lifecycle worker.idleNotice) worker.phase := by
  unfold idleNotice
  cases idle : worker.running.isEmpty with
  | false =>
    rw [phase_running idle]
    exact .still _
  | true =>
    rw [phase_finished idle]
    exact .turn (by decide) (.still _)

/-- The end of a running thread is told when it was the last one. -/
theorem fail_phased (message : String) {running : RunningThread α}
    (place : worker.running.find? thread = some running) :
    Phased worker (worker.fail thread message).2 (worker.fail thread message).1 := by
  rw [Phased, phase_of_place place, fail, lifecycle_cons rfl]
  exact toggles_idleNotice _

/-- The end of a thread that runs is told if it is the last one. -/
theorem finish_phased {running : RunningThread α}
    (place : worker.running.find? thread = some running) :
    Phased worker (worker.finish thread).2 (worker.finish thread).1 := by
  rw [Phased, phase_of_place place, finish, lifecycle_cons rfl]
  exact toggles_idleNotice _

/-- A call leaves the phase as it is. -/
theorem callBlock_phased (worker : ScriptWorker α) (now : Nat) (thread : ThreadId)
    (target : TargetId) (opcode : String) (args : Args α) :
    Phased worker (worker.callBlock now thread target opcode args).2
      (worker.callBlock now thread target opcode args).1 := by
  unfold callBlock
  simp only []
  split <;> exact .silent rfl rfl

/-- A thread that goes on tells the end of the running phase if it ends and is the last one. -/
theorem advance_phased (worker : ScriptWorker α) (now : Nat) (thread : ThreadId) :
    Phased worker (worker.advance now thread).2 (worker.advance now thread).1 := by
  unfold advance
  split
  case h_1 => exact .silent rfl rfl
  case h_2 running place =>
    split
    case h_1 => exact fail_phased _ place
    case h_2 =>
      split
      case h_1 => exact finish_phased place
      case h_2 =>
        split
        case h_1 => exact callBlock_phased worker now thread _ _ _
        case h_2 => exact fail_phased _ place

/-- Threads that go on one after another tell every change of the phase. -/
theorem advanceAll_phased (now : Nat) (worker : ScriptWorker α) (threads : List ThreadId) :
    Phased worker (advanceAll now worker threads).2 (advanceAll now worker threads).1 := by
  induction threads generalizing worker with
  | nil => exact .silent rfl rfl
  | cons first rest inductionHypothesis =>
    exact (advance_phased worker now first).trans (inductionHypothesis _)

/-- Entering threads leaves nobody out of the table who ran before. -/
theorem enter_runs (worker : ScriptWorker α) (starts : List ThreadStart)
    (runs : worker.running.isEmpty = false) : (worker.enter starts).1.running.isEmpty = false := by
  induction starts generalizing worker with
  | nil => exact runs
  | cons first rest inductionHypothesis =>
    by_cases loaded : worker.scripts.contains first.script = true
    · rw [enter_loaded loaded]
      refine inductionHypothesis (worker.seatNew first) ?_
      exact OrderedMap.isEmpty_of_find (by rw [seatNew, OrderedMap.find_insert, if_pos rfl])
    · rw [enter_missing loaded]
      exact inductionHypothesis worker runs

/-- Where a start is admitted, a thread runs. -/
theorem enter_admits (worker : ScriptWorker α) (starts : List ThreadStart)
    (admits : (worker.enter starts).2 ≠ []) : (worker.enter starts).1.running.isEmpty = false := by
  induction starts generalizing worker with
  | nil => exact absurd rfl admits
  | cons first rest inductionHypothesis =>
    by_cases loaded : worker.scripts.contains first.script = true
    · rw [enter_loaded loaded]
      refine enter_runs (worker.seatNew first) rest ?_
      exact OrderedMap.isEmpty_of_find (by rw [seatNew, OrderedMap.find_insert, if_pos rfl])
    · rw [enter_missing loaded] at admits ⊢
      exact inductionHypothesis worker admits

/-- Where no start is admitted, nothing changes. -/
theorem enter_nobody (worker : ScriptWorker α) (starts : List ThreadStart)
    (nobody : (worker.enter starts).2 = []) : (worker.enter starts).1 = worker := by
  induction starts generalizing worker with
  | nil => rfl
  | cons first rest inductionHypothesis =>
    by_cases loaded : worker.scripts.contains first.script = true
    · rw [enter_loaded loaded] at nobody
      cases nobody
    · rw [enter_missing loaded] at nobody ⊢
      exact inductionHypothesis worker nobody

/-- The notice of a start tells that the first thread runs. -/
theorem start_phased (worker : ScriptWorker α) (starts : List ThreadStart) :
    Phased worker (worker.start starts).2.2 (worker.enter starts).1 := by
  change Phased worker (if worker.running.isEmpty && !(worker.enter starts).2.isEmpty then
    [.status .scriptRunning] else []) (worker.enter starts).1
  cases admitted : (worker.enter starts).2 with
  | nil =>
    rw [enter_nobody worker starts admitted, List.isEmpty_nil, Bool.not_true, Bool.and_false]
    exact .silent rfl rfl
  | cons first rest =>
    have runs := enter_admits worker starts (by rw [admitted]; exact List.cons_ne_nil _ _)
    rw [List.isEmpty_cons, Bool.not_false, Bool.and_true]
    cases idle : worker.running.isEmpty with
    | false => exact .silent rfl (by rw [phase_running runs, phase_running idle])
    | true =>
      rw [Phased, phase_running runs, phase_finished idle]
      exact .turn (by decide) (.still _)

/-- A launch tells the running phase first, and its end if every thread ends at once. -/
theorem launch_phased (worker : ScriptWorker α) (now : Nat) (starts : List ThreadStart) :
    Phased worker ((worker.start starts).2.2 ++ (worker.launch now starts).2)
      (worker.launch now starts).1 :=
  (start_phased worker starts).trans (advanceAll_phased now _ _)

/-- A halt tells the finished phase if a thread was running. -/
theorem halt_phased (worker : ScriptWorker α) : Phased worker worker.halt.2 worker.halt.1 := by
  rw [Phased, show worker.halt.1.phase = .scriptFinished from rfl, halt]
  cases idle : worker.running.isEmpty with
  | false =>
    rw [phase_running idle]
    exact .turn (by decide) (.still _)
  | true =>
    rw [phase_finished idle]
    exact .still _

/-- Stopping threads tells the finished phase if the last one is stopped. -/
theorem stopThreads_phased (worker : ScriptWorker α) (threads : List ThreadId) :
    Phased worker (worker.stopThreads threads).2 (worker.stopThreads threads).1 := by
  unfold stopThreads
  cases idle : worker.running.isEmpty with
  | false =>
    rw [Phased, phase_running idle]
    exact toggles_idleNotice _
  | true =>
    refine .silent rfl ?_
    rw [phase_finished idle]
    exact phase_finished (OrderedMap.isEmpty_filter idle _)

/-- An answer tells the finished phase if its thread was the last one and ends. -/
theorem resume_phased (worker : ScriptWorker α) (now : Nat) (token : Token) (value : Value α) :
    Phased worker (worker.resume now token value).2 (worker.resume now token value).1 := by
  unfold resume
  split
  case h_1 => exact .silent rfl rfl
  case h_2 =>
    dsimp only
    split
    case h_1 => exact .silent rfl rfl
    case h_2 thread pending resolved _ running place =>
      refine (advance_phased _ now thread).rebase (Eq.trans (phase_running ?_)
        (phase_of_place place).symm)
      exact OrderedMap.isEmpty_of_find (OrderedMap.find_insert .. |>.trans (if_pos rfl))

/-- A refusal of a call whose thread runs tells when it was the last one. -/
theorem refuse_phased (token : Token) (reason : String)
    (owned : ∀ thread, worker.Owns token thread →
      ∃ running, worker.running.find? thread = some running) :
    Phased worker (worker.refuse token reason).2 (worker.refuse token reason).1 := by
  unfold refuse
  rw [resolve_eq]
  cases awaited : worker.pending.table.find? token with
  | none => exact .silent rfl rfl
  | some found =>
    obtain ⟨running, place⟩ := owned found.continuation ⟨found.deadline, awaited⟩
    exact fail_phased reason place

/-- Failing threads that run, each once, tells when the last one left. The induction is on
the calls; the threads of the later ones still run behind the first. -/
theorem failAll_phased (timeout : Nat) {expired : List (Token × ThreadId)}
    (distinct : (expired.map Prod.snd).Nodup)
    (run : ∀ thread ∈ expired.map Prod.snd,
      ∃ running, worker.running.find? thread = some running) :
    Phased worker (failAll timeout worker expired).2 (failAll timeout worker expired).1 := by
  induction expired generalizing worker with
  | nil => exact .silent rfl rfl
  | cons first rest inductionHypothesis =>
    obtain ⟨absent, distinctRest⟩ := List.nodup_cons.mp distinct
    obtain ⟨running, place⟩ := run first.2 List.mem_cons_self
    refine (fail_phased (expiry timeout first.1) place).trans
      (inductionHypothesis distinctRest fun thread member => ?_)
    have other : thread ≠ first.2 := fun same => absent (same ▸ member)
    obtain ⟨later, stays⟩ := run thread (List.mem_cons_of_mem _ member)
    exact ⟨later, by rw [fail, OrderedMap.find_erase, if_neg other, stays]⟩

end ScriptWorker

end SpriteMachine
