import Mathlib.Data.List.Chain
import SpriteMachine.Proofs.Worker.Expiry
import SpriteMachine.Proofs.Worker.Issue
import SpriteMachine.Proofs.Worker.Sequence

/-!
# The tables of a worker agree

Between two stimuli the table of threads and the table of pending calls describe the same
situation: every thread runs a loaded script and waits for one call, and every pending
call is that of a thread which runs. The seats carry this. Each stimulus settles every
seat again, and a thread is only ever seated at a script that the worker finds.

From it follow the notices, since a worker fails the thread of a pending call without
looking whether it runs, and the looks at the deadlines.
-/

namespace SpriteMachine

variable {α : Type}

namespace ScriptWorker

variable {worker : ScriptWorker α}

/-- The tables agree: every running thread has a loaded script and exactly one pending
call, and the thread of every pending call runs. -/
structure Consistent (worker : ScriptWorker α) : Prop where
  registered : ∀ thread running, worker.running.find? thread = some running →
    worker.scripts.contains running.script = true
  waits : ∀ thread, worker.running.contains thread = true → ∃! token, worker.Owns token thread
  runs : ∀ token thread, worker.Owns token thread → worker.running.contains thread = true

/-- A worker between two stimuli: its tokens are its own, every thread waits for one call
or has no seat, and those that run have loaded scripts. -/
structure Seated (worker : ScriptWorker α) : Prop where
  numbered : worker.Numbered
  settled : ∀ thread, (worker.seat thread).Settled
  registered : ∀ thread running, worker.running.find? thread = some running →
    worker.scripts.contains running.script = true

/-- The tables of a worker with settled seats agree. -/
theorem Seated.consistent (seated : worker.Seated) : worker.Consistent := by
  refine ⟨seated.registered, ?_, ?_⟩
  · intro thread present
    rw [OrderedMap.contains_eq_isSome] at present
    rcases seated.settled thread with empty | ⟨running, token, deadline, waits⟩
    · have nobody : worker.running.find? thread = none := congrArg Seat.place empty
      rw [nobody] at present
      cases present
    · refine ⟨token, owns_iff.mpr ⟨deadline, by rw [waits]; exact List.mem_cons_self⟩, ?_⟩
      intro other owns
      refine Classical.byContradiction fun different => ?_
      exact not_owns_of_ne waits (fun same => different same.symm) owns
  · intro token thread owns
    rw [OrderedMap.contains_eq_isSome]
    rcases seated.settled thread with empty | ⟨running, _, _, waits⟩
    · exact absurd owns (not_owns_of_vacant empty)
    · have place : worker.running.find? thread = some running := congrArg Seat.place waits
      rw [place]
      rfl

/-- A thread that does not run has no seat. -/
theorem Seated.vacant (seated : worker.Seated) {thread : ThreadId}
    (absent : worker.running.contains thread = false) : worker.seat thread = .vacant := by
  rcases seated.settled thread with empty | ⟨running, _, _, waits⟩
  · exact empty
  · have place : worker.running.find? thread = some running := congrArg Seat.place waits
    rw [OrderedMap.contains_eq_isSome, place] at absent
    cases absent

/-- The worker without scripts is seated. -/
theorem idle_seated (timeout : Option Nat) :
    (idle timeout : ScriptWorker α).Seated where
  numbered _ _ found := by cases found
  settled _ := Or.inl rfl
  registered _ _ found := by cases found

/-- A thread that is seated behind an arrival has a loaded script. -/
theorem arrive_registered {scripts : OrderedMap ScriptId (Script α)} {thread : ThreadId}
    {running found : RunningThread α} {token : Token} {deadline : Option Nat}
    (place : (arrive scripts thread running token deadline).1.place = some found) :
    scripts.contains found.script = true := by
  unfold arrive at place
  split at place
  case h_1 => cases place
  case h_2 script loaded =>
    split at place
    case h_1 => cases place
    case h_2 =>
      split at place
      case h_1 =>
        obtain rfl : running = found := Option.some.inj place
        rw [OrderedMap.contains_eq_isSome, loaded]
        rfl
      case h_2 => cases place

variable [Scalar α] {now : Nat} {stimulus : Stimulus α}

/-- Whatever its treatment, a thread that is seated has a script that is loaded when threads
are started. -/
theorem Treats.registered {thread : ThreadId} {outcome : Seat α × List (WorkerMessage α)}
    {cause : Option (Cause α)} (seated : worker.Seated)
    (treats : worker.Treats now stimulus thread outcome cause) {running : RunningThread α}
    (place : outcome.1.place = some running) :
    (worker.prepared stimulus).scripts.contains running.script = true := by
  cases cause with
  | none =>
    obtain rfl : outcome = _ := treats
    exact OrderedMap.contains_insertAll_of_contains _ (seated.registered thread running place)
  | some cause =>
    cases cause with
    | entered start =>
      obtain ⟨token, -, rfl⟩ := treats
      exact arrive_registered place
    | answered value =>
      obtain ⟨earlier, token, -, -, rfl⟩ := treats
      exact OrderedMap.contains_insertAll_of_contains _ (arrive_registered place)
    | refused reason =>
      obtain rfl : outcome = _ := treats
      cases place
    | expired token =>
      obtain rfl : outcome = _ := treats
      cases place
    | stopped =>
      obtain rfl : outcome = _ := treats
      cases place

/-- A stimulus that starts no running thread settles every seat again. -/
theorem Seated.react (seated : worker.Seated) (admits : worker.Admits stimulus) :
    (worker.react now stimulus).1.Seated := by
  refine ⟨(react_moves worker now stimulus).numbered seated.numbered,
    fun thread => react_settled now seated.numbered (seated.settled thread) admits, ?_⟩
  intro thread running place
  rcases react_scripts worker now stimulus with same | ⟨token, unit, scripts, rfl, read, -⟩
  · rw [same]
    exact (react_treats now thread seated.numbered (seated.settled thread) admits).registered
      seated place
  · change (worker.register token unit.source).1.running.find? thread = some running at place
    rw [register_eq read] at place
    cases place

/-- Every stimulus has its notices, where the tables agree. -/
theorem Seated.phased (seated : worker.Seated) (now : Nat) (stimulus : Stimulus α) :
    Phased worker (worker.react now stimulus).2 (worker.react now stimulus).1 := by
  cases stimulus with
  | look => exact poll_phased seated.settled now
  | message message =>
    cases message with
    | connected => exact .silent rfl rfl
    | prepare url => exact .silent rfl rfl
    | register token unit =>
      change Phased worker (worker.register token unit.source).2
        (worker.register token unit.source).1
      cases read : (ScriptUnit.parse unit.source : Except SyntaxFault (List (Script α))) with
      | error fault =>
        unfold register
        rw [read]
        exact .silent rfl rfl
      | ok scripts =>
        rw [register_eq read]
        exact (halt_phased worker).retell (by rw [lifecycle_append]; exact List.append_nil _)
    | runAsync source starts =>
      change Phased worker (worker.runAsync now source starts).2
        (worker.runAsync now source starts).1
      cases read : (ScriptUnit.parse source : Except SyntaxFault (List (Script α))) with
      | error fault =>
        unfold runAsync
        rw [read]
        exact .silent rfl rfl
      | ok scripts =>
        have kept : (worker.addScripts scripts).phase = worker.phase := rfl
        rw [runAsync_eq read]
        exact ((launch_phased (worker.addScripts scripts) now starts).rebase kept).retell rfl
    | result token value => exact resume_phased worker now token value
    | failure token reason =>
      refine refuse_phased token reason fun thread owns => ?_
      have present := seated.consistent.runs token thread owns
      rw [OrderedMap.contains_eq_isSome] at present
      exact Option.isSome_iff_exists.mp present
    | startHats token hat option starts =>
      change Phased worker (worker.startHats now token starts).2
        (worker.startHats now token starts).1
      rw [startHats_eq]
      refine (launch_phased worker now starts).retell ?_
      rw [lifecycle_append, lifecycle_append, lifecycle_cons rfl]
    | stopThreads threads => exact stopThreads_phased worker threads
    | stopAll => exact halt_phased worker

end ScriptWorker

section Runs

open ScriptWorker

variable [Scalar α]

/-- The worker behind a history. -/
def reacted (worker : ScriptWorker α) : List (Nat × Stimulus α) → ScriptWorker α
  | [] => worker
  | (moment, stimulus) :: rest => reacted (worker.react moment stimulus).1 rest

/-- Everything that a worker sends in the course of a history. -/
def output (worker : ScriptWorker α) (history : List (Nat × Stimulus α)) :
    List (WorkerMessage α) :=
  (exchanges worker history).flatMap Exchange.sent

/-- The threads that start together are distinct, and none of them runs already. -/
def StartsAnew (run : List (Exchange α)) : Prop :=
  ∀ exchange ∈ run, (exchange.entered.map ThreadStart.thread).Nodup ∧
    ∀ start ∈ exchange.entered, exchange.before.running.contains start.thread = false

/-- A history leaves a seated worker seated, tells every change of the phase and issues the
tokens of all calls. The induction is on the history; the seats carry it. -/
theorem reacted_seated {worker : ScriptWorker α} (seated : worker.Seated)
    {history : List (Nat × Stimulus α)} (anew : StartsAnew (exchanges worker history)) :
    (reacted worker history).Seated ∧
      Phased worker (output worker history) (reacted worker history) ∧
      Issues worker (output worker history) (reacted worker history) := by
  induction history generalizing worker with
  | nil => exact ⟨seated, .silent rfl rfl, .silent rfl rfl⟩
  | cons first rest inductionHypothesis =>
    obtain ⟨now, stimulus⟩ := first
    obtain ⟨distinct, absent⟩ := anew (firstExchange worker now stimulus) List.mem_cons_self
    have admits : worker.Admits stimulus :=
      ⟨distinct, fun start member => seated.vacant (absent start member)⟩
    obtain ⟨later, phased, issues⟩ := inductionHypothesis (seated.react admits)
      fun exchange member => anew exchange (List.mem_cons_of_mem _ member)
    exact ⟨later, (seated.phased now stimulus).trans phased,
      (react_issues worker now stimulus).trans issues⟩

/-- Whatever messages and looks at the deadlines a worker meets, as long as the threads that
start together are distinct and do not run yet: the tables agree; no two calls ever carry the
same token; the notices that threads run and that none does take turns, beginning with the
first, and the last of them says whether threads run; and a look at the deadlines at any
moment ends exactly the threads that are late, in whatever order their calls are listed. -/
theorem tables_and_notices_agree (timeout : Option Nat) (history : List (Nat × Stimulus α))
    (anew : StartsAnew (exchanges (.idle timeout) history)) :
    (reacted (.idle timeout) history).Consistent ∧
      (callTokens (output (.idle timeout) history)).Nodup ∧
      (lifecycle (output (.idle timeout) history)).IsChain (· ≠ ·) ∧
      (∀ notice, (lifecycle (output (.idle timeout) history)).head? = some notice →
        notice = .scriptRunning) ∧
      ((reacted (.idle timeout) history).running.isEmpty = false ↔
        (lifecycle (output (.idle timeout) history)).getLast? = some .scriptRunning) ∧
      ∀ now, (reacted (.idle timeout) history).PollsExactly now := by
  obtain ⟨seated, phased, issues⟩ := reacted_seated (idle_seated timeout) anew
  have toggles : Toggles .scriptFinished (lifecycle (output (.idle timeout) history))
      (reacted (.idle timeout) history).phase := phased
  refine ⟨seated.consistent, issues.distinct, toggles.isChain.tail, ?_, ?_,
    polls_exactly seated.settled⟩
  · intro notice first
    rcases of_mem_lifecycle (List.mem_of_head? first) with running | finished
    · exact running
    · exact absurd finished.symm (toggles.isChain.rel_head? first)
  · rw [← phase_eq_running, ← toggles.getLast]
    cases lifecycle (output (.idle timeout) history) |>.getLast? <;> simp

/-- Two threads on a script of two blocks. The call of the second expires, the first runs to
the end of its script, and is started once more and stopped. -/
def staggered : List (Nat × Stimulus Rat) :=
  [(0, .message (.runAsync ("@script \x7b\"script\":\"s\",\"target\":\"a\"\x7d\n" ++
      "set x = motion_xposition\nlooks_say MESSAGE=$x\n@end\n")
      [⟨⟨"t"⟩, ⟨"s"⟩, ⟨"a"⟩⟩, ⟨⟨"u"⟩, ⟨"s"⟩, ⟨"a"⟩⟩])),
    (1, .message (.result ⟨"w-0"⟩ (.text "1"))), (5, .look),
    (6, .message (.result ⟨"w-2"⟩ (.text "2"))),
    (7, .message (.startHats ⟨"h-0"⟩ "event_whenflagclicked" none [⟨⟨"t"⟩, ⟨"s"⟩, ⟨"a"⟩⟩])),
    (8, .message .stopAll)]

/-- Two threads with staggered deadlines: the tables agree, tokens are handed out in turn, one
thread is blamed, and running and finished take turns. -/
theorem staggered_agrees :
    (reacted (.idle (some 5)) staggered).Consistent ∧
      callTokens (output (.idle (some 5)) staggered) =
        [⟨"w-0"⟩, ⟨"w-1"⟩, ⟨"w-2"⟩, ⟨"w-3"⟩] ∧
      blamed (output (.idle (some 5)) staggered) = [⟨"u"⟩] ∧
      lifecycle (output (.idle (some 5)) staggered) =
        [.scriptRunning, .scriptFinished, .scriptRunning, .scriptFinished] :=
  ⟨(tables_and_notices_agree (some 5) staggered (by unfold StartsAnew; decide +kernel)).1,
    by decide +kernel, by decide +kernel, by decide +kernel⟩

end Runs

end SpriteMachine
