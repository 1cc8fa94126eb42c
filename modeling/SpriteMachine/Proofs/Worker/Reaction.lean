import SpriteMachine.Proofs.Worker.Arrival

/-!
# The steps of a worker, seat by seat

Every step of a worker has two lemmas. One says which threads it concerns: all others
keep their seats and nothing is said about them. The other says what it does to a
thread it concerns, in terms of that thread's seat alone.
-/

namespace SpriteMachine

variable {α : Type}

/-- The place of a thread at the first statement of its script. -/
def ThreadStart.place (start : ThreadStart) : RunningThread α :=
  ⟨start.script, start.target, 0, .empty⟩

/-- The place behind a statement whose block returned a value. -/
def RunningThread.answered (scripts : OrderedMap ScriptId (Script α)) (value : Value α)
    (running : RunningThread α) : RunningThread α :=
  { running with
    position := running.position + 1
    memory :=
      match ((scripts.find? running.script).bind
          fun script => script.body[running.position]?).bind Statement.assign with
      | some name => running.memory.insert name value
      | none => running.memory }

namespace ScriptWorker

/-- What a thread is told when its call expired. -/
def expiry (timeout : Nat) (token : Token) : String :=
  "block " ++ token.text ++ " timed out after " ++ toString timeout ++ "ms"

/-- Puts threads at their first statements and takes them there. -/
def launch (worker : ScriptWorker α) (now : Nat) (starts : List ThreadStart) : Sent α :=
  advanceAll now (worker.enter starts).1 (worker.enter starts).2

variable {worker : ScriptWorker α} {thread : ThreadId}

/-- Taking seats concerns the admitted threads only. -/
theorem enter_moves (worker : ScriptWorker α) (starts : List ThreadStart) :
    Moves (· ∈ (worker.admitted starts).map ThreadStart.thread) worker []
      (worker.enter starts).1 := by
  obtain ⟨kept, -⟩ := enter_keeps worker starts
  refine ⟨?_, ?_, ?_, ?_⟩
  · intro numbered
    rw [kept]
    exact numbered
  · intro token issued
    rw [kept]
    exact issued
  · intro other call member
    rw [kept] at member
    exact Or.inl member
  · intro other untouched
    refine ⟨?_, rfl⟩
    rw [seat, enter_other worker starts untouched, kept]
    rfl

/-- Launching concerns the admitted threads only. -/
theorem launch_moves (worker : ScriptWorker α) (now : Nat) (starts : List ThreadStart) :
    Moves (· ∈ (worker.admitted starts).map ThreadStart.thread) worker
      (worker.launch now starts).2 (worker.launch now starts).1 := by
  have entering := enter_moves worker starts
  have advancing := advanceAll_moves now (worker.enter starts).1 (worker.enter starts).2
  rw [(enter_keeps worker starts).2] at advancing
  refine (entering.trans (by
    rw [launch, (enter_keeps worker starts).2]
    exact advancing)).widen ?_
  rintro thread (member | member) <;> exact member

/-- A launched thread arrives at the first statement of its script. -/
theorem launch_seat (numbered : worker.Numbered) (now : Nat) {starts : List ThreadStart}
    (distinct : ((worker.admitted starts).map ThreadStart.thread).Nodup) {start : ThreadStart}
    (member : start ∈ worker.admitted starts) (vacant : worker.seat start.thread = .vacant) :
    ∃ token, ¬ worker.tokens.HasIssued token ∧
      ((worker.launch now starts).1.seat start.thread,
          about start.thread (worker.launch now starts).2) =
        arrive worker.scripts start.thread start.place token
          (worker.blockTimeout.map (now + ·)) := by
  have entering := enter_moves worker starts
  obtain ⟨kept, threads⟩ := enter_keeps worker starts
  have place := enter_place worker starts distinct member
  have calls : worker.pending.callsFor start.thread = [] := congrArg Seat.calls vacant
  have seated : (worker.enter starts).1.seat start.thread = ⟨some start.place, []⟩ := by
    rw [seat, place, kept]
    exact congrArg _ calls
  have inside : start.thread ∈ (worker.enter starts).2 := by
    rw [threads]
    exact List.mem_map.mpr ⟨start, member, rfl⟩
  obtain ⟨token, new, arrival⟩ := advanceAll_seat now (by rw [threads]; exact distinct)
    (entering.numbered numbered) inside seated
  refine ⟨token, fun issued => new (entering.issued token issued), ?_⟩
  rw [launch, arrival, kept]

/-- The notice that the first thread starts is about nobody. -/
theorem about_start_notice (thread : ThreadId) (worker : ScriptWorker α)
    (starts : List ThreadStart) : about thread (worker.start starts).2.2 = [] := by
  unfold start
  dsimp only
  split <;> rfl

/-- Forgetting every thread empties every seat silently. -/
theorem halt_seat (worker : ScriptWorker α) (thread : ThreadId) :
    worker.halt.1.seat thread = .vacant ∧ about thread worker.halt.2 = [] := by
  refine ⟨rfl, ?_⟩
  unfold halt
  dsimp only
  split <;> rfl

/-- Stopping threads empties their seats silently and spares the others. -/
theorem stopThreads_seat (worker : ScriptWorker α) (threads : List ThreadId)
    (thread : ThreadId) :
    (worker.stopThreads threads).1.seat thread =
        (if thread ∈ threads then .vacant else worker.seat thread) ∧
      about thread (worker.stopThreads threads).2 = [] := by
  constructor
  · by_cases named : thread ∈ threads
    · cases place : worker.running.find? thread <;>
        simp [seat, stopThreads, PendingTokens.callsFor_retain, named, Seat.vacant, place]
    · cases place : worker.running.find? thread <;>
        simp [seat, stopThreads, PendingTokens.callsFor_retain, named, place]
  · unfold stopThreads
    dsimp only
    split
    case isTrue => rfl
    case isFalse => exact about_idleNotice thread _

/-- The answer to a call takes its thread to the next statement. -/
theorem resume_seat (numbered : worker.Numbered) (now : Nat) (value : Value α)
    {running : RunningThread α} {token : Token} {deadline : Option Nat}
    (waits : worker.seat thread = ⟨some running, [(token, deadline)]⟩) :
    ∃ next, ¬ worker.tokens.HasIssued next ∧
      ((worker.resume now token value).1.seat thread,
          about thread (worker.resume now token value).2) =
        arrive worker.scripts thread (running.answered worker.scripts value) next
          (worker.blockTimeout.map (now + ·)) := by
  have place : worker.running.find? thread = some running := congrArg Seat.place waits
  have calls : worker.pending.callsFor thread = [(token, deadline)] := congrArg Seat.calls waits
  have awaited : worker.pending.table.find? token = some ⟨thread, deadline⟩ :=
    PendingTokens.mem_callsFor.mp (calls ▸ List.mem_singleton_self _)
  have resolved : worker.pending.resolve token =
      (some thread, (worker.pending.resolve token).2) := by
    rw [PendingTokens.resolve, awaited]
    rfl
  unfold resume
  rw [resolved]
  simp only [place]
  let moved : ScriptWorker α := { worker with
    pending := (worker.pending.resolve token).2
    running := worker.running.insert thread (running.answered worker.scripts value) }
  have numberedMoved : moved.Numbered := fun other found member =>
    numbered other found (Option.filter_eq_some_iff.mp
      ((OrderedMap.find_filter _ _ _).symm.trans member)).1
  have seatedMoved :
      moved.seat thread = ⟨some (running.answered worker.scripts value), []⟩ := by
    simp [moved, seat, PendingTokens.callsFor_resolve, calls]
  exact advance_seat numberedMoved now seatedMoved

/-- Resolving a pending token takes it from the calls of its thread only. -/
theorem resolve_moves {token : Token} {found : Awaited ThreadId}
    (awaited : worker.pending.table.find? token = some found) :
    Moves (· = found.continuation) worker []
      { worker with pending := (worker.pending.resolve token).2 } := by
  refine ⟨?_, fun _ issued => issued, ?_, ?_⟩
  · intro numbered other kept member
    exact numbered other kept (Option.filter_eq_some_iff.mp
      ((OrderedMap.find_filter _ _ _).symm.trans member)).1
  · intro other call member
    rw [seat, PendingTokens.callsFor_resolve] at member
    exact Or.inl (List.mem_filter.mp member).1
  · intro other untouched
    refine ⟨?_, rfl⟩
    have different : ∀ call ∈ worker.pending.callsFor other, call.1 ≠ token := by
      rintro ⟨same, deadline⟩ member rfl
      have owned := PendingTokens.mem_callsFor.mp member
      rw [awaited] at owned
      exact untouched (congrArg Awaited.continuation (Option.some.inj owned)).symm
    rw [seat, PendingTokens.callsFor_resolve, List.filter_eq_self.mpr]
    · rfl
    · simpa using different

/-- What resolving a token finds. -/
theorem resolve_eq (token : Token) : worker.pending.resolve token =
    ((worker.pending.table.find? token).map Awaited.continuation,
      (worker.pending.resolve token).2) := rfl

/-- The threads for which a token is pending. -/
def Owns (worker : ScriptWorker α) (token : Token) (thread : ThreadId) : Prop :=
  ∃ deadline, worker.pending.table.find? token = some ⟨thread, deadline⟩

/-- An answer concerns the thread whose call it answers. -/
theorem resume_moves (worker : ScriptWorker α) (now : Nat) (token : Token) (value : Value α) :
    Moves (worker.Owns token) worker (worker.resume now token value).2
      (worker.resume now token value).1 := by
  unfold resume
  rw [resolve_eq]
  cases awaited : worker.pending.table.find? token with
  | none => exact Moves.still worker
  | some found =>
    have owner : worker.Owns token found.continuation := ⟨found.deadline, awaited⟩
    have dropping := resolve_moves awaited
    simp only [Option.map_some]
    split
    case h_1 => exact dropping.widen fun thread same => same ▸ owner
    case h_2 running place =>
      have placing : Moves (· = found.continuation)
          { worker with pending := (worker.pending.resolve token).2 } []
          { worker with
            pending := (worker.pending.resolve token).2
            running := worker.running.insert found.continuation
              (running.answered worker.scripts value) } := by
        refine ⟨id, fun _ issued => issued, fun _ _ member => Or.inl member, ?_⟩
        intro other untouched
        have different : other ≠ found.continuation := untouched
        exact ⟨by simp [seat, different], rfl⟩
      refine ((dropping.trans placing).trans (advance_moves _ now found.continuation)).widen ?_
      rintro thread ((same | same) | same) <;> exact same ▸ owner

/-- A refusal concerns the thread whose call it refuses. -/
theorem refuse_moves (worker : ScriptWorker α) (token : Token) (message : String) :
    Moves (worker.Owns token) worker (worker.refuse token message).2
      (worker.refuse token message).1 := by
  unfold refuse
  rw [resolve_eq]
  cases awaited : worker.pending.table.find? token with
  | none => exact Moves.still worker
  | some found =>
    have owner : worker.Owns token found.continuation := ⟨found.deadline, awaited⟩
    have failing := fail_moves { worker with pending := (worker.pending.resolve token).2 }
      found.continuation message
    refine ((resolve_moves awaited).trans failing).widen ?_
    rintro thread (same | same) <;> exact same ▸ owner

/-- A refusal ends the thread whose call it refuses. -/
theorem refuse_seat {token : Token} (owner : worker.Owns token thread) (message : String) :
    (worker.refuse token message).1.seat thread = .vacant ∧
      about thread (worker.refuse token message).2 = [.scriptError (some thread) message] := by
  obtain ⟨deadline, awaited⟩ := owner
  unfold refuse
  rw [resolve_eq, awaited]
  exact fail_seat { worker with pending := (worker.pending.resolve token).2 } thread message

/-- Failing threads concerns those threads only. -/
theorem failAll_moves (timeout : Nat) (worker : ScriptWorker α)
    (expired : List (Token × ThreadId)) :
    Moves (· ∈ expired.map Prod.snd) worker (failAll timeout worker expired).2
      (failAll timeout worker expired).1 := by
  induction expired generalizing worker with
  | nil => exact Moves.still worker
  | cons first rest inductionHypothesis =>
    refine ((fail_moves worker first.2 (expiry timeout first.1)).trans
      (inductionHypothesis _)).widen ?_
    exact fun thread member => List.mem_cons.mpr member

/-- Each expired call of a thread is reported, and the thread leaves its seat. -/
theorem failAll_seat (timeout : Nat) (worker : ScriptWorker α)
    (expired : List (Token × ThreadId)) (thread : ThreadId) :
    (failAll timeout worker expired).1.seat thread =
        (if thread ∈ expired.map Prod.snd then .vacant else worker.seat thread) ∧
      about thread (failAll timeout worker expired).2 =
        (expired.filter fun entry => entry.2 = thread).map
          fun entry => .scriptError (some thread) (expiry timeout entry.1) := by
  induction expired generalizing worker with
  | nil => exact ⟨rfl, rfl⟩
  | cons first rest inductionHypothesis =>
    obtain ⟨token, owner⟩ := first
    obtain ⟨seated, told⟩ := inductionHypothesis (worker.fail owner (expiry timeout token)).1
    have split : about thread (failAll timeout worker ((token, owner) :: rest)).2 =
        about thread (worker.fail owner (expiry timeout token)).2 ++
          about thread (failAll timeout (worker.fail owner (expiry timeout token)).1 rest).2 :=
      about_append thread _ _
    rw [split, told]
    refine ⟨seated.trans ?_, ?_⟩
    · rw [List.map_cons]
      by_cases later : thread ∈ rest.map Prod.snd
      · rw [if_pos later, if_pos (List.mem_cons_of_mem _ later)]
      · rw [if_neg later]
        by_cases same : thread = owner
        · subst same
          rw [if_pos List.mem_cons_self, (fail_seat worker thread _).1]
        · rw [if_neg (by simp [same, later]),
            ((fail_moves worker owner _).spared thread same).1]
    · by_cases same : owner = thread
      · subst same
        rw [(fail_seat worker owner _).2, List.filter_cons_of_pos (by simp), List.map_cons]
        rfl
      · rw [((fail_moves worker owner _).spared thread fun equal => same equal.symm).2,
          List.filter_cons_of_neg (by simpa using same), List.nil_append]

/-- Whether the deadline of a call has come. -/
def isDue (now : Nat) (call : Token × Option Nat) : Bool := call.2.any (· ≤ now)

/-- The expired calls of a thread are those of its calls that are due. -/
theorem expired_of (pending : PendingTokens ThreadId) (now : Nat) (thread : ThreadId) :
    ((pending.expire now).1.filter fun entry => entry.2 = thread) =
      ((pending.callsFor thread).filter (isDue now)).map fun call => (call.1, thread) := by
  simp only [PendingTokens.expire, PendingTokens.callsFor, OrderedMap.filter, List.filter_map,
    List.map_map, List.filter_filter]
  have names : ∀ entry ∈ pending.table.entries.filter (fun entry =>
      decide (entry.2.continuation = thread) && PendingTokens.Awaited.isDue now entry.2),
      (entry.1, entry.2.continuation) = (entry.1, thread) := by
    intro entry member
    have owned := (List.mem_filter.mp member).2
    rw [Bool.and_eq_true, decide_eq_true_iff] at owned
    rw [owned.1]
  refine (List.map_congr_left names).trans ?_
  congr 1
  apply List.filter_congr
  intro entry _
  simp [isDue, PendingTokens.Awaited.isDue, Bool.and_comm]

/-- Looking at the deadlines concerns the threads with a call that is due. -/
theorem poll_moves (worker : ScriptWorker α) (now : Nat) :
    Moves (fun thread => ∃ call ∈ (worker.seat thread).calls, isDue now call) worker
      (worker.poll now).2 (worker.poll now).1 := by
  have dropping : Moves (fun thread => ∃ call ∈ (worker.seat thread).calls, isDue now call)
      worker [] { worker with pending := (worker.pending.expire now).2 } := by
    refine ⟨?_, fun _ issued => issued, ?_, ?_⟩
    · intro numbered other kept member
      exact numbered other kept (Option.filter_eq_some_iff.mp
        ((OrderedMap.find_filter _ _ _).symm.trans member)).1
    · intro other call member
      rw [seat, PendingTokens.expire, PendingTokens.callsFor_filter] at member
      exact Or.inl (List.mem_filter.mp member).1
    · intro other untouched
      refine ⟨?_, rfl⟩
      rw [seat, PendingTokens.expire, PendingTokens.callsFor_filter, List.filter_eq_self.mpr]
      · rfl
      · intro call member
        have early : isDue now call = false := by
          cases due : isDue now call with
          | false => rfl
          | true => exact absurd ⟨call, member, due⟩ untouched
        simpa [isDue, PendingTokens.Awaited.isDue] using early
  have failing := failAll_moves (worker.blockTimeout.getD 0)
    { worker with pending := (worker.pending.expire now).2 } (worker.pending.expire now).1
  refine (dropping.trans failing).widen ?_
  rintro thread (due | listed)
  · exact due
  · obtain ⟨entry, member, same⟩ := List.mem_map.mp listed
    have inside : entry ∈ (worker.pending.expire now).1.filter fun entry => entry.2 = thread :=
      List.mem_filter.mpr ⟨member, by simpa using same⟩
    rw [expired_of] at inside
    obtain ⟨call, waiting, -⟩ := List.mem_map.mp inside
    obtain ⟨waits, due⟩ := List.mem_filter.mp waiting
    exact ⟨call, waits, due⟩

/-- A thread whose only call is due has it reported and is gone. -/
theorem poll_seat {now : Nat} {place : Option (RunningThread α)} {call : Token × Option Nat}
    (waits : worker.seat thread = ⟨place, [call]⟩) (due : isDue now call = true) :
    (worker.poll now).1.seat thread = .vacant ∧
      about thread (worker.poll now).2 =
        [.scriptError (some thread) (expiry (worker.blockTimeout.getD 0) call.1)] := by
  have calls : worker.pending.callsFor thread = [call] := congrArg Seat.calls waits
  have expired := expired_of worker.pending now thread
  rw [calls, List.filter_cons_of_pos due] at expired
  obtain ⟨seated, told⟩ := failAll_seat (worker.blockTimeout.getD 0)
    { worker with pending := (worker.pending.expire now).2 } (worker.pending.expire now).1 thread
  have listed : thread ∈ (worker.pending.expire now).1.map Prod.snd := by
    have member : (call.1, thread) ∈ (worker.pending.expire now).1.filter
        fun entry => entry.2 = thread := expired ▸ List.mem_cons_self
    exact List.mem_map.mpr ⟨_, (List.mem_filter.mp member).1, rfl⟩
  rw [if_pos listed] at seated
  rw [expired] at told
  exact ⟨seated, told⟩

/-- A token is pending for a thread only when it is the one the thread waits for. -/
theorem owns_iff {token : Token} : worker.Owns token thread ↔
    ∃ deadline, (token, deadline) ∈ (worker.seat thread).calls :=
  exists_congr fun _ => PendingTokens.mem_callsFor.symm

/-- The starts of `startHats` are launched after a notice and the reply. -/
theorem startHats_eq (now : Nat) (token : Token) (starts : List ThreadStart) :
    worker.startHats now token starts =
      ((worker.launch now starts).1, (worker.start starts).2.2 ++
        .started token ((worker.admitted starts).map ThreadStart.thread) ::
          (worker.launch now starts).2) := by
  rw [← (enter_keeps worker starts).2]
  rfl

/-- A request to start hats says about a thread what the launch says. -/
theorem about_startHats (worker : ScriptWorker α) (now : Nat) (thread : ThreadId) (token : Token)
    (starts : List ThreadStart) :
    about thread (worker.startHats now token starts).2 =
      about thread (worker.launch now starts).2 := by
  rw [startHats_eq, about_append, about_start_notice, List.nil_append]
  exact about_cons_of_ne (by simp [WorkerMessage.thread?]) _

/-- Forgetting every thread may touch all of them. -/
theorem halt_moves (worker : ScriptWorker α) :
    Moves (fun _ => True) worker worker.halt.2 worker.halt.1 where
  numbered _ _ _ found := by cases found
  issued _ issued := issued
  calls _ _ member := by cases member
  spared _ untouched := absurd trivial untouched

/-- Replacing the scripts forgets every thread. -/
theorem replaceScripts_moves (worker : ScriptWorker α) (scripts : List (Script α)) :
    Moves (fun _ => True) worker worker.halt.2 (worker.replaceScripts scripts).1 :=
  have halting := halt_moves worker
  ⟨halting.numbered, halting.issued, halting.calls, halting.spared⟩

/-- Stopping threads concerns the named ones only. -/
theorem stopThreads_moves (worker : ScriptWorker α) (threads : List ThreadId) :
    Moves (· ∈ threads) worker (worker.stopThreads threads).2
      (worker.stopThreads threads).1 where
  numbered numbered token awaited found :=
    numbered token awaited (Option.filter_eq_some_iff.mp
      ((OrderedMap.find_filter _ _ _).symm.trans found)).1
  issued _ issued := issued
  calls other call member := by
    change call ∈ (worker.pending.retain (· ∉ threads)).callsFor other at member
    rw [PendingTokens.callsFor_retain] at member
    split at member
    case isTrue => exact Or.inl member
    case isFalse => cases member
  spared other untouched := by
    obtain ⟨seated, silent⟩ := stopThreads_seat worker threads other
    rw [if_neg untouched] at seated
    exact ⟨seated, silent⟩

/-- The worker knows every script of a batch that it was sent. -/
theorem admitted_added {scripts : List (Script α)}
    {starts : List ThreadStart}
    (sent : ∀ start ∈ starts, start.script ∈ scripts.map Script.id) :
    (worker.addScripts scripts).admitted starts = starts := by
  refine List.filter_eq_self.mpr fun start member => ?_
  refine OrderedMap.contains_insertAll worker.scripts ?_
  obtain ⟨script, present, same⟩ := List.mem_map.mp (sent start member)
  exact List.mem_map.mpr ⟨(script.id, script), List.mem_map.mpr ⟨script, present, rfl⟩, same⟩

/-- Launching with scripts added moves the worker as launching without them. -/
theorem launch_added_moves (worker : ScriptWorker α) (now : Nat) (scripts : List (Script α))
    (starts : List ThreadStart) :
    Moves (· ∈ ((worker.addScripts scripts).admitted starts).map ThreadStart.thread) worker
      ((worker.addScripts scripts).launch now starts).2
      ((worker.addScripts scripts).launch now starts).1 := by
  have moves := launch_moves (worker.addScripts scripts) now starts
  exact ⟨moves.numbered, moves.issued, moves.calls, moves.spared⟩

/-- A launch treats the threads it starts and no others. -/
theorem launch_seats (now : Nat) (thread : ThreadId) {prepared : ScriptWorker α}
    {starts : List ThreadStart}
    (numbered : prepared.Numbered)
    (distinct : ((prepared.admitted starts).map ThreadStart.thread).Nodup)
    (vacant : ∀ start ∈ prepared.admitted starts, start.thread = thread →
      prepared.seat thread = .vacant) :
    match (prepared.admitted starts).find? (·.thread = thread) with
    | some start => ∃ token, ¬ prepared.tokens.HasIssued token ∧
        ((prepared.launch now starts).1.seat thread,
          about thread (prepared.launch now starts).2) =
          arrive prepared.scripts thread start.place token
            (prepared.blockTimeout.map (now + ·))
    | none => (prepared.launch now starts).1.seat thread = prepared.seat thread ∧
        about thread (prepared.launch now starts).2 = [] := by
  cases found : (prepared.admitted starts).find? (·.thread = thread) with
  | some start =>
    have named : start.thread = thread := by simpa using List.find?_some found
    have member := List.mem_of_find?_eq_some found
    subst named
    exact launch_seat numbered now distinct member (vacant start member rfl)
  | none =>
    refine (launch_moves prepared now starts).spared thread fun listed => ?_
    obtain ⟨start, member, named⟩ := List.mem_map.mp listed
    have other := List.find?_eq_none.mp found start member
    simp [named] at other

/-- A thread that waits owns no token but the one it waits for. -/
theorem not_owns_of_ne {running : Option (RunningThread α)} {token other : Token}
    {deadline : Option Nat} (waits : worker.seat thread = ⟨running, [(token, deadline)]⟩)
    (different : token ≠ other) : ¬ worker.Owns other thread := by
  rw [owns_iff, waits]
  rintro ⟨found, member⟩
  exact different (congrArg Prod.fst (List.mem_singleton.mp member)).symm

/-- A thread with a vacant seat owns no token. -/
theorem not_owns_of_vacant {token : Token} (empty : worker.seat thread = .vacant) :
    ¬ worker.Owns token thread := by
  rw [owns_iff, empty]
  rintro ⟨found, member⟩
  cases member

/-- Launching changes neither the scripts nor the time limit. -/
theorem launch_keeps (worker : ScriptWorker α) (now : Nat) (starts : List ThreadStart) :
    (worker.launch now starts).1.scripts = worker.scripts ∧
      (worker.launch now starts).1.blockTimeout = worker.blockTimeout := by
  obtain ⟨kept, -⟩ := enter_keeps worker starts
  obtain ⟨scripts, limit⟩ := advanceAll_keeps now (worker.enter starts).1 (worker.enter starts).2
  exact ⟨scripts.trans (by rw [kept]), limit.trans (by rw [kept])⟩

/-- Failing threads changes neither the scripts nor the time limit. -/
theorem failAll_keeps (timeout : Nat) (worker : ScriptWorker α)
    (expired : List (Token × ThreadId)) :
    (failAll timeout worker expired).1.scripts = worker.scripts ∧
      (failAll timeout worker expired).1.blockTimeout = worker.blockTimeout := by
  induction expired generalizing worker with
  | nil => exact ⟨rfl, rfl⟩
  | cons first rest inductionHypothesis =>
    exact inductionHypothesis (worker.fail first.2 (expiry timeout first.1)).1

/-- An answer changes neither the scripts nor the time limit. -/
theorem resume_keeps (worker : ScriptWorker α) (now : Nat) (token : Token) (value : Value α) :
    (worker.resume now token value).1.scripts = worker.scripts ∧
      (worker.resume now token value).1.blockTimeout = worker.blockTimeout := by
  unfold resume
  split
  case h_1 => exact ⟨rfl, rfl⟩
  case h_2 =>
    dsimp only
    split
    case h_1 => exact ⟨rfl, rfl⟩
    case h_2 =>
      obtain ⟨scripts, limit⟩ := advance_keeps _ now _
      exact ⟨scripts, limit⟩

/-- A refusal changes neither the scripts nor the time limit. -/
theorem refuse_keeps (worker : ScriptWorker α) (token : Token) (reason : String) :
    (worker.refuse token reason).1.scripts = worker.scripts ∧
      (worker.refuse token reason).1.blockTimeout = worker.blockTimeout := by
  unfold refuse
  split <;> exact ⟨rfl, rfl⟩

end ScriptWorker

end SpriteMachine
