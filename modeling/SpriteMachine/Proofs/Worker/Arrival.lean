import SpriteMachine.Proofs.Worker.Seat

/-!
# Arriving at a statement

A thread that arrives at a statement calls its block, ends behind the last statement,
or fails. `arrive` says which, from the loaded scripts and the thread's place alone:
the rest of the worker decides nothing but the token of the call. Taking one thread
or many to their statements gives every one of them the arrival it has alone.
-/

namespace SpriteMachine.ScriptWorker

variable {α : Type}

/-- What a thread is told when its script is not loaded any more. -/
def missingScript (script : ScriptId) : String := script.label ++ " is no longer registered"

/-- What a thread is told when a statement uses an unknown variable. -/
def unknownVariable (line : Nat) (name : String) : String :=
  "line " ++ toString line ++ ": unknown variable $" ++ name

/-- The seat of a thread behind its arrival at a place, and what is said about it, when
its call would carry a token and a deadline. -/
def arrive (scripts : OrderedMap ScriptId (Script α)) (thread : ThreadId)
    (running : RunningThread α) (token : Token) (deadline : Option Nat) :
    Seat α × List (WorkerMessage α) :=
  match scripts.find? running.script with
  | none => (.vacant, [.scriptError (some thread) (missingScript running.script)])
  | some script =>
    match script.body[running.position]? with
    | none => (.vacant, [.ended thread])
    | some statement =>
      match statement.bind running.memory.find? with
      | .ok args =>
        (⟨some running, [(token, deadline)]⟩,
          [.call running.target thread statement.opcode args token])
      | .error name =>
        (.vacant, [.scriptError (some thread) (unknownVariable statement.line name)])

/-- An arrival calls a statement of a loaded script. -/
theorem mem_arrive {scripts : OrderedMap ScriptId (Script α)} {thread id : ThreadId}
    {running : RunningThread α} {token other : Token} {deadline : Option Nat} {target : TargetId}
    {opcode : String} {args : Args α}
    (calls : .call target id opcode args other ∈ (arrive scripts thread running token deadline).2) :
    ∃ script, scripts.find? running.script = some script ∧
      ∃ statement ∈ script.body, statement.opcode = opcode := by
  unfold arrive at calls
  split at calls
  case h_1 => cases List.mem_singleton.mp calls
  case h_2 script loaded =>
    split at calls
    case h_1 => cases List.mem_singleton.mp calls
    case h_2 statement reached =>
      split at calls
      case h_1 =>
        cases List.mem_singleton.mp calls
        exact ⟨script, loaded, statement, List.mem_of_getElem? reached, rfl⟩
      case h_2 => cases List.mem_singleton.mp calls

/-- A message that is the last one about a thread: its script ended or failed. -/
def IsLast (thread : ThreadId) (message : WorkerMessage α) : Prop :=
  message = .ended thread ∨ ∃ reason, message = .scriptError (some thread) reason

/-- How a thread may have arrived: it waits for the call that was sent, or it is gone and
the last message about it was sent. -/
inductive Arrived (thread : ThreadId) : Seat α → List (WorkerMessage α) → Prop where
  | called (running : RunningThread α) (token : Token) (deadline : Option Nat)
      (target : TargetId) (opcode : String) (args : Args α) :
      Arrived thread ⟨some running, [(token, deadline)]⟩ [.call target thread opcode args token]
  | closed {message : WorkerMessage α} (last : IsLast thread message) :
      Arrived thread .vacant [message]

/-- A thread arrives at a statement and calls it, or at the end of its script. -/
theorem arrive_arrived (scripts : OrderedMap ScriptId (Script α)) (thread : ThreadId)
    (running : RunningThread α) (token : Token) (deadline : Option Nat) :
    Arrived thread (arrive scripts thread running token deadline).1
      (arrive scripts thread running token deadline).2 := by
  unfold arrive
  split
  case h_1 => exact .closed (Or.inr ⟨_, rfl⟩)
  case h_2 =>
    split
    case h_1 => exact .closed (Or.inl rfl)
    case h_2 =>
      split
      case h_1 => exact .called ..
      case h_2 => exact .closed (Or.inr ⟨_, rfl⟩)

/-- Behind an arrival a thread waits for its call or is gone. -/
theorem Arrived.settled {thread : ThreadId} {seat : Seat α} {told : List (WorkerMessage α)}
    (arrived : Arrived thread seat told) : seat.Settled := by
  cases arrived with
  | called running token deadline => exact Or.inr ⟨running, token, deadline, rfl⟩
  | closed last => exact Seat.settled_vacant

variable {worker : ScriptWorker α} {thread : ThreadId}

/-- The notice of an idle worker is about no thread. -/
@[simp]
theorem about_idleNotice (thread : ThreadId) (worker : ScriptWorker α) :
    about thread worker.idleNotice = [] := by
  unfold idleNotice
  split <;> rfl

/-- A failing thread leaves its seat and nobody else does. -/
theorem fail_moves (worker : ScriptWorker α) (thread : ThreadId) (message : String) :
    Moves (· = thread) worker (worker.fail thread message).2 (worker.fail thread message).1 where
  numbered numbered token awaited found :=
    numbered token awaited (Option.filter_eq_some_iff.mp
      ((OrderedMap.find_filter _ _ _).symm.trans found)).1
  issued _ issued := issued
  calls other call member := by
    change call ∈ (worker.pending.retain (· ≠ thread)).callsFor other at member
    rw [PendingTokens.callsFor_retain] at member
    split at member
    case isTrue => exact Or.inl member
    case isFalse => cases member
  spared other untouched := by
    have different : other ≠ thread := untouched
    constructor
    · simp [seat, fail, PendingTokens.callsFor_retain, different]
    · have named : (WorkerMessage.scriptError (α := α) (some thread) message).thread? ≠
          some other := fun same => different (Option.some.inj same).symm
      rw [fail, about_cons_of_ne named, about_idleNotice]

/-- A thread that fails leaves its seat and is reported once. -/
theorem fail_seat (worker : ScriptWorker α) (thread : ThreadId) (message : String) :
    (worker.fail thread message).1.seat thread = .vacant ∧
      about thread (worker.fail thread message).2 = [.scriptError (some thread) message] := by
  constructor
  · simp [seat, fail, PendingTokens.callsFor_retain, Seat.vacant]
  · rw [fail, about_cons_of_eq rfl, about_idleNotice]

/-- A thread that ends leaves its place and nobody else does. -/
theorem finish_moves (worker : ScriptWorker α) (thread : ThreadId) :
    Moves (· = thread) worker (worker.finish thread).2 (worker.finish thread).1 where
  numbered numbered := numbered
  issued _ issued := issued
  calls _ _ member := Or.inl member
  spared other untouched := by
    have different : other ≠ thread := untouched
    constructor
    · simp [seat, finish, different]
    · have named : (WorkerMessage.ended (α := α) thread).thread? ≠ some other :=
        fun same => different (Option.some.inj same).symm
      rw [finish, about_cons_of_ne named, about_idleNotice]

/-- A thread that ends leaves its place and is reported once. -/
theorem finish_seat (worker : ScriptWorker α) (thread : ThreadId) :
    (worker.finish thread).1.seat thread = ⟨none, worker.pending.callsFor thread⟩ ∧
      about thread (worker.finish thread).2 = [.ended thread] := by
  constructor
  · simp [seat, finish]
  · rw [finish, about_cons_of_eq rfl, about_idleNotice]

/-- A call waits under a token that was not issued before. -/
theorem callBlock_moves (worker : ScriptWorker α) (now : Nat) (thread : ThreadId)
    (target : TargetId) (opcode : String) (args : Args α) :
    Moves (· = thread) worker (worker.callBlock now thread target opcode args).2
      (worker.callBlock now thread target opcode args).1 := by
  unfold callBlock
  simp only []
  split
  case h_1 pending registered =>
    refine ⟨?_, fun _ issued => issued.next, ?_, ?_⟩
    · intro numbered token awaited found
      unfold PendingTokens.register? at registered
      split at registered
      case isTrue => cases registered
      case isFalse =>
        obtain rfl := Option.some.inj registered
        rw [OrderedMap.find_insert] at found
        split at found
        case isTrue same =>
          rw [same]
          exact worker.tokens.next_issued
        case isFalse => exact (numbered token awaited found).next
    · intro other call member
      rw [seat, PendingTokens.callsFor_register registered other, List.mem_append] at member
      rcases member with kept | new
      · exact Or.inl kept
      · split at new
        case isTrue =>
          rw [List.mem_singleton] at new
          exact Or.inr (new ▸ worker.tokens.next_fresh)
        case isFalse => cases new
    · intro other untouched
      have different : thread ≠ other := fun same => untouched same.symm
      constructor
      · rw [seat, PendingTokens.callsFor_register registered other, if_neg different,
          List.append_nil]
        rfl
      · have named : (WorkerMessage.call target thread opcode args
            worker.tokens.next.1).thread? ≠ some other :=
          fun same => different (Option.some.inj same)
        exact about_cons_of_ne named []
  case h_2 =>
    exact ⟨fun numbered token awaited found => (numbered token awaited found).next,
      fun _ issued => issued.next, fun _ _ member => Or.inl member, fun _ _ => ⟨rfl, rfl⟩⟩

/-- A call waits under a fresh token behind the others of its thread, and is sent. -/
theorem callBlock_seat (numbered : worker.Numbered) (now : Nat) (thread : ThreadId)
    (target : TargetId) (opcode : String) (args : Args α) :
    (worker.callBlock now thread target opcode args).1.seat thread =
        ⟨worker.running.find? thread, worker.pending.callsFor thread ++
          [(worker.tokens.next.1, worker.blockTimeout.map (now + ·))]⟩ ∧
      about thread (worker.callBlock now thread target opcode args).2 =
        [.call target thread opcode args worker.tokens.next.1] := by
  have absent : worker.pending.contains worker.tokens.next.1 = false := by
    rw [PendingTokens.contains, OrderedMap.contains_eq_isSome, Option.isSome_eq_false_iff,
      Option.isNone_iff_eq_none]
    cases found : worker.pending.table.find? worker.tokens.next.1 with
    | none => rfl
    | some awaited =>
      exact absurd (numbered _ awaited found) worker.tokens.next_fresh
  have registered : worker.pending.register? worker.tokens.next.1 thread
      (worker.blockTimeout.map (now + ·)) =
        some ⟨worker.pending.table.insert worker.tokens.next.1
          ⟨thread, worker.blockTimeout.map (now + ·)⟩⟩ := by
    rw [PendingTokens.register?, absent]
    rfl
  have calls := PendingTokens.callsFor_register registered thread
  rw [if_pos rfl] at calls
  unfold callBlock
  simp only [registered]
  exact ⟨by rw [seat, calls], about_cons_of_eq rfl []⟩

/-- Taking a thread to its statement concerns that thread only. -/
theorem advance_moves (worker : ScriptWorker α) (now : Nat) (thread : ThreadId) :
    Moves (· = thread) worker (worker.advance now thread).2 (worker.advance now thread).1 := by
  unfold advance
  split
  case h_1 => exact Moves.still worker
  case h_2 =>
    split
    case h_1 => exact fail_moves worker thread _
    case h_2 =>
      split
      case h_1 => exact finish_moves worker thread
      case h_2 =>
        split
        case h_1 => exact callBlock_moves worker now thread _ _ _
        case h_2 => exact fail_moves worker thread _

/-- Taking a thread to its statement changes neither the scripts nor the time limit. -/
theorem advance_keeps (worker : ScriptWorker α) (now : Nat) (thread : ThreadId) :
    (worker.advance now thread).1.scripts = worker.scripts ∧
      (worker.advance now thread).1.blockTimeout = worker.blockTimeout := by
  unfold advance
  split
  case h_1 => exact ⟨rfl, rfl⟩
  case h_2 =>
    split
    case h_1 => exact ⟨rfl, rfl⟩
    case h_2 =>
      split
      case h_1 => exact ⟨rfl, rfl⟩
      case h_2 =>
        split
        case h_1 =>
          unfold callBlock
          simp only []
          split <;> exact ⟨rfl, rfl⟩
        case h_2 => exact ⟨rfl, rfl⟩

/-- A thread that runs and waits for nothing has its arrival. -/
theorem advance_seat (numbered : worker.Numbered) (now : Nat) {running : RunningThread α}
    (seated : worker.seat thread = ⟨some running, []⟩) :
    ∃ token, ¬ worker.tokens.HasIssued token ∧
      ((worker.advance now thread).1.seat thread, about thread (worker.advance now thread).2) =
        arrive worker.scripts thread running token (worker.blockTimeout.map (now + ·)) := by
  have place : worker.running.find? thread = some running := congrArg Seat.place seated
  have calls : worker.pending.callsFor thread = [] := congrArg Seat.calls seated
  refine ⟨worker.tokens.next.1, worker.tokens.next_fresh, ?_⟩
  unfold advance arrive
  simp only [place]
  cases loaded : worker.scripts.find? running.script with
  | none =>
    obtain ⟨vacant, told⟩ := fail_seat worker thread (missingScript running.script)
    exact Prod.ext vacant told
  | some script =>
    cases reached : script.body[running.position]? with
    | none =>
      obtain ⟨vacant, told⟩ := finish_seat worker thread
      rw [calls] at vacant
      simp only [reached]
      exact Prod.ext vacant told
    | some statement =>
      cases bound : statement.bind running.memory.find? with
      | ok args =>
        obtain ⟨waits, told⟩ := callBlock_seat numbered now thread running.target
          statement.opcode args
        rw [calls, place] at waits
        simp only [reached, bound]
        exact Prod.ext waits told
      | error name =>
        obtain ⟨vacant, told⟩ := fail_seat worker thread (unknownVariable statement.line name)
        simp only [reached, bound]
        exact Prod.ext vacant told

/-- Taking threads to their statements concerns those threads only. -/
theorem advanceAll_moves (now : Nat) (worker : ScriptWorker α) (threads : List ThreadId) :
    Moves (· ∈ threads) worker (advanceAll now worker threads).2
      (advanceAll now worker threads).1 := by
  induction threads generalizing worker with
  | nil => exact Moves.still worker
  | cons first rest inductionHypothesis =>
    refine ((advance_moves worker now first).trans (inductionHypothesis _)).widen ?_
    exact fun thread member => List.mem_cons.mpr member

/-- Taking threads to their statements changes neither the scripts nor the time limit. -/
theorem advanceAll_keeps (now : Nat) (worker : ScriptWorker α) (threads : List ThreadId) :
    (advanceAll now worker threads).1.scripts = worker.scripts ∧
      (advanceAll now worker threads).1.blockTimeout = worker.blockTimeout := by
  induction threads generalizing worker with
  | nil => exact ⟨rfl, rfl⟩
  | cons first rest inductionHypothesis =>
    obtain ⟨scripts, limit⟩ := advance_keeps worker now first
    obtain ⟨scriptsLater, limitLater⟩ := inductionHypothesis (worker.advance now first).1
    exact ⟨scriptsLater.trans scripts, limitLater.trans limit⟩

/-- Each of several threads has the arrival it has alone. -/
theorem advanceAll_seat (now : Nat) {threads : List ThreadId} (distinct : threads.Nodup)
    (numbered : worker.Numbered) {running : RunningThread α} (member : thread ∈ threads)
    (seated : worker.seat thread = ⟨some running, []⟩) :
    ∃ token, ¬ worker.tokens.HasIssued token ∧
      ((advanceAll now worker threads).1.seat thread,
          about thread (advanceAll now worker threads).2) =
        arrive worker.scripts thread running token (worker.blockTimeout.map (now + ·)) := by
  induction threads generalizing worker with
  | nil => cases member
  | cons first rest inductionHypothesis =>
    obtain ⟨absent, distinctRest⟩ := List.nodup_cons.mp distinct
    have moves := advance_moves worker now first
    have others := advanceAll_moves now (worker.advance now first).1 rest
    have told : about thread (advanceAll now worker (first :: rest)).2 =
        about thread (worker.advance now first).2 ++
          about thread (advanceAll now (worker.advance now first).1 rest).2 :=
      about_append thread _ _
    rw [told]
    rcases List.mem_cons.mp member with rfl | later
    · obtain ⟨token, new, arrival⟩ := advance_seat numbered now seated
      obtain ⟨kept, silent⟩ := others.spared thread absent
      refine ⟨token, new, ?_⟩
      rw [← arrival, silent, List.append_nil]
      exact Prod.ext kept rfl
    · have different : thread ≠ first := fun same => absent (same ▸ later)
      obtain ⟨kept, silent⟩ := moves.spared thread different
      obtain ⟨token, new, arrival⟩ := inductionHypothesis distinctRest
        (moves.numbered numbered) later (kept.trans seated)
      obtain ⟨scripts, limit⟩ := advance_keeps worker now first
      rw [scripts, limit] at arrival
      refine ⟨token, fun issued => new (moves.issued token issued), ?_⟩
      rw [← arrival, silent, List.nil_append]
      rfl

/-- The starts whose scripts are loaded. -/
def admitted (worker : ScriptWorker α) (starts : List ThreadStart) : List ThreadStart :=
  starts.filter fun start => worker.scripts.contains start.script

/-- A worker with one more thread at the first statement of its script. -/
def seatNew (worker : ScriptWorker α) (start : ThreadStart) : ScriptWorker α :=
  { worker with
    running := worker.running.insert start.thread ⟨start.script, start.target, 0, .empty⟩ }

section

variable {start : ThreadStart} {starts : List ThreadStart}

/-- A start whose script is loaded is admitted. -/
theorem admitted_loaded (loaded : worker.scripts.contains start.script = true) :
    worker.admitted (start :: starts) = start :: worker.admitted starts :=
  List.filter_cons_of_pos loaded

/-- A start whose script is missing is passed over. -/
theorem admitted_missing (missing : ¬ worker.scripts.contains start.script = true) :
    worker.admitted (start :: starts) = worker.admitted starts :=
  List.filter_cons_of_neg missing

/-- A start whose script is loaded takes a seat before the others enter. -/
theorem enter_loaded (loaded : worker.scripts.contains start.script = true) :
    worker.enter (start :: starts) =
      (((worker.seatNew start).enter starts).1,
        start.thread :: ((worker.seatNew start).enter starts).2) := by
  rw [enter, if_pos loaded]
  rfl

/-- A start whose script is missing leaves the worker as it is. -/
theorem enter_missing (missing : ¬ worker.scripts.contains start.script = true) :
    worker.enter (start :: starts) = worker.enter starts := by
  rw [enter, if_neg missing]

end

/-- Entering keeps everything but the places of threads, and the threads of the
admitted starts are returned. -/
theorem enter_keeps (worker : ScriptWorker α) (starts : List ThreadStart) :
    (worker.enter starts).1 = { worker with running := (worker.enter starts).1.running } ∧
      (worker.enter starts).2 = (worker.admitted starts).map ThreadStart.thread := by
  induction starts generalizing worker with
  | nil => exact ⟨rfl, rfl⟩
  | cons first rest inductionHypothesis =>
    by_cases loaded : worker.scripts.contains first.script = true
    · rw [enter_loaded loaded, admitted_loaded loaded]
      obtain ⟨kept, threads⟩ := inductionHypothesis (worker.seatNew first)
      exact ⟨kept, congrArg (first.thread :: ·) threads⟩
    · rw [enter_missing loaded, admitted_missing loaded]
      exact inductionHypothesis worker

/-- A thread that is not among the admitted starts keeps its place. -/
theorem enter_other (worker : ScriptWorker α) (starts : List ThreadStart)
    (absent : thread ∉ (worker.admitted starts).map ThreadStart.thread) :
    (worker.enter starts).1.running.find? thread = worker.running.find? thread := by
  induction starts generalizing worker with
  | nil => rfl
  | cons first rest inductionHypothesis =>
    by_cases loaded : worker.scripts.contains first.script = true
    · rw [enter_loaded loaded]
      rw [admitted_loaded loaded, List.map_cons, List.mem_cons, not_or] at absent
      rw [inductionHypothesis (worker.seatNew first) absent.2, seatNew, OrderedMap.find_insert,
        if_neg absent.1]
    · rw [enter_missing loaded]
      rw [admitted_missing loaded] at absent
      exact inductionHypothesis worker absent

/-- An admitted thread stands at the first statement of its script. -/
theorem enter_place (worker : ScriptWorker α) (starts : List ThreadStart)
    (distinct : ((worker.admitted starts).map ThreadStart.thread).Nodup) {start : ThreadStart}
    (member : start ∈ worker.admitted starts) :
    (worker.enter starts).1.running.find? start.thread =
      some ⟨start.script, start.target, 0, .empty⟩ := by
  induction starts generalizing worker with
  | nil => cases member
  | cons first rest inductionHypothesis =>
    by_cases loaded : worker.scripts.contains first.script = true
    · rw [enter_loaded loaded]
      rw [admitted_loaded loaded] at member distinct
      obtain ⟨absent, distinctRest⟩ := List.nodup_cons.mp distinct
      rcases List.mem_cons.mp member with rfl | later
      · rw [enter_other (worker.seatNew start) rest absent, seatNew, OrderedMap.find_insert,
          if_pos rfl]
      · exact inductionHypothesis (worker.seatNew first) distinctRest later
    · rw [enter_missing loaded]
      rw [admitted_missing loaded] at member distinct
      exact inductionHypothesis worker distinct member

end SpriteMachine.ScriptWorker
