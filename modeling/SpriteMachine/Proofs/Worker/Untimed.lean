import SpriteMachine.Proofs.Worker.Reaction

/-!
# Workers that wait as long as it takes

A worker without a time limit gives its calls no deadline, so a look at the deadlines finds
nothing. All that it asks of the host are the blocks of the statements that it has loaded.
-/

namespace SpriteMachine

variable {α : Type}

/-- Messages that call allowed opcodes only. -/
def AsksOnly (allowed : String → Prop) (messages : List (WorkerMessage α)) : Prop :=
  ∀ target id opcode args token, .call target id opcode args token ∈ messages → allowed opcode

namespace AsksOnly

variable {allowed : String → Prop} {first second : List (WorkerMessage α)}

/-- No message calls no opcode. -/
theorem nil : AsksOnly allowed ([] : List (WorkerMessage α)) :=
  fun _ _ _ _ _ none => (List.not_mem_nil none).elim

/-- Messages call allowed opcodes only when both parts do. -/
theorem append (before : AsksOnly allowed first) (after : AsksOnly allowed second) :
    AsksOnly allowed (first ++ second) := fun target id opcode args token member =>
  (List.mem_append.mp member).elim (before target id opcode args token)
    (after target id opcode args token)

end AsksOnly

namespace ScriptWorker

/-- The loaded scripts call allowed opcodes only. -/
def CallsOnly (allowed : String → Prop) (worker : ScriptWorker α) : Prop :=
  ∀ id script, worker.scripts.find? id = some script →
    ∀ statement ∈ script.body, allowed statement.opcode

/-- A worker gives up no call: it has no time limit, and no call that waits has a deadline. -/
structure Untimed (worker : ScriptWorker α) : Prop where
  limit : worker.blockTimeout = none
  endless : ∀ token awaited, worker.pending.table.find? token = some awaited →
    awaited.deadline = none

variable {worker later : ScriptWorker α} {allowed : String → Prop}

/-- Only the loaded scripts tell what a worker may call. -/
theorem CallsOnly.congr (calls : worker.CallsOnly allowed)
    (scripts : later.scripts = worker.scripts) : later.CallsOnly allowed := by
  rw [CallsOnly, scripts]
  exact calls

/-- Fewer calls wait. -/
theorem Untimed.fewer (untimed : worker.Untimed) (limit : later.blockTimeout = worker.blockTimeout)
    (pending : ∀ token awaited, later.pending.table.find? token = some awaited →
      worker.pending.table.find? token = some awaited) : later.Untimed :=
  ⟨limit.trans untimed.limit,
    fun token awaited found => untimed.endless token awaited (pending token awaited found)⟩

/-- Nothing is ever due. -/
theorem Untimed.poll (untimed : worker.Untimed) (now : Nat) : worker.poll now = (worker, []) := by
  have early : ∀ entry ∈ worker.pending.table.entries,
      PendingTokens.Awaited.isDue now entry.2 = false := by
    intro entry inside
    rw [PendingTokens.Awaited.isDue,
      untimed.endless entry.1 entry.2 (OrderedMap.mem_entries_iff.mp inside)]
    rfl
  have none : (worker.pending.table.filter fun _ awaited =>
      PendingTokens.Awaited.isDue now awaited).entries = [] :=
    List.filter_eq_nil_iff.mpr fun entry inside => by simp [early entry inside]
  have all : (worker.pending.table.filter fun _ awaited =>
      !PendingTokens.Awaited.isDue now awaited) = worker.pending.table :=
    OrderedMap.eq_of_entries (List.filter_eq_self.mpr fun entry inside => by
      simp [early entry inside])
  simp only [ScriptWorker.poll, PendingTokens.expire, none, all, List.map_nil, failAll]

/-- A thread that fails leaves the other calls without deadline. -/
theorem Untimed.fail (untimed : worker.Untimed) (thread : ThreadId) (reason : String) :
    (worker.fail thread reason).1.Untimed :=
  untimed.fewer rfl fun _ _ found => (Option.filter_eq_some_iff.mp
    ((OrderedMap.find_filter _ _ _).symm.trans found)).1

/-- Without a time limit a call waits without deadline. -/
theorem Untimed.callBlock (untimed : worker.Untimed) (now : Nat) (thread : ThreadId)
    (target : TargetId) (opcode : String) (args : Args α) :
    (worker.callBlock now thread target opcode args).1.Untimed := by
  unfold ScriptWorker.callBlock
  dsimp only
  split
  case h_1 pending registered =>
    refine ⟨untimed.limit, fun token awaited found => ?_⟩
    unfold PendingTokens.register? at registered
    split at registered
    case isTrue => cases registered
    case isFalse =>
      obtain rfl := Option.some.inj registered
      rw [OrderedMap.find_insert] at found
      split at found
      case isTrue =>
        obtain rfl := Option.some.inj found
        rw [untimed.limit]
        rfl
      case isFalse => exact untimed.endless token awaited found
  case h_2 => exact untimed.fewer rfl fun _ _ found => found

/-- A thread that goes on waits without deadline. -/
theorem Untimed.advance (untimed : worker.Untimed) (now : Nat) (thread : ThreadId) :
    (worker.advance now thread).1.Untimed := by
  unfold ScriptWorker.advance
  split
  case h_1 => exact untimed
  case h_2 =>
    split
    case h_1 => exact untimed.fail thread _
    case h_2 =>
      split
      case h_1 => exact untimed.fewer rfl fun _ _ found => found
      case h_2 =>
        split
        case h_1 => exact untimed.callBlock now thread _ _ _
        case h_2 => exact untimed.fail thread _

/-- Threads that go on one after another wait without deadline. -/
theorem Untimed.advanceAll (untimed : worker.Untimed) (now : Nat) (threads : List ThreadId) :
    (advanceAll now worker threads).1.Untimed := by
  induction threads generalizing worker with
  | nil => exact untimed
  | cons first rest inductionHypothesis => exact inductionHypothesis (untimed.advance now first)

/-- Threads that are launched wait without deadline. -/
theorem Untimed.launch (untimed : worker.Untimed) (now : Nat) (starts : List ThreadStart) :
    (worker.launch now starts).1.Untimed := by
  obtain ⟨kept, -⟩ := enter_keeps worker starts
  refine Untimed.advanceAll (untimed.fewer ?_ fun token awaited found => ?_) now _
  · rw [kept]
  · rw [kept] at found
    exact found

/-- A call that was answered waits no more. -/
theorem Untimed.resolve (untimed : worker.Untimed) (token : Token) :
    ({ worker with pending := (worker.pending.resolve token).2 } : ScriptWorker α).Untimed := by
  refine untimed.fewer rfl fun other awaited found => ?_
  change (worker.pending.table.erase token).find? other = some awaited at found
  rw [OrderedMap.find_erase] at found
  split at found
  case isTrue => cases found
  case isFalse => exact found

/-- An answer lets its thread wait without deadline again. -/
theorem Untimed.resume (untimed : worker.Untimed) (now : Nat) (token : Token) (value : Value α) :
    (worker.resume now token value).1.Untimed := by
  have resolved := untimed.resolve token
  unfold ScriptWorker.resume
  split
  case h_1 => exact untimed
  case h_2 thread pending result =>
    rw [result] at resolved
    dsimp only
    split
    case h_1 => exact resolved
    case h_2 =>
      refine Untimed.advance ?_ now thread
      exact resolved.fewer rfl fun _ _ found => found

/-- A refusal leaves the other calls without deadline. -/
theorem Untimed.refuse (untimed : worker.Untimed) (token : Token) (reason : String) :
    (worker.refuse token reason).1.Untimed := by
  have resolved := untimed.resolve token
  unfold ScriptWorker.refuse
  split
  case h_1 => exact untimed
  case h_2 thread pending result =>
    rw [result] at resolved
    exact resolved.fail thread reason

/-- The notice of an idle worker calls no opcode. -/
theorem asks_idleNotice (worker : ScriptWorker α) : AsksOnly allowed worker.idleNotice := by
  intro target id opcode args token member
  unfold idleNotice at member
  split at member
  case isTrue => cases List.mem_singleton.mp member
  case isFalse => cases member

/-- A thread that fails calls no opcode. -/
theorem asks_fail (worker : ScriptWorker α) (thread : ThreadId) (reason : String) :
    AsksOnly allowed (worker.fail thread reason).2 := by
  intro target id opcode args token member
  rcases List.mem_cons.mp member with same | notice
  · cases same
  · exact asks_idleNotice _ target id opcode args token notice

/-- A thread asks for the block of its statement. -/
theorem CallsOnly.advance (calls : worker.CallsOnly allowed) (now : Nat) (thread : ThreadId) :
    AsksOnly allowed (worker.advance now thread).2 := by
  unfold ScriptWorker.advance
  split
  case h_1 => exact .nil
  case h_2 running found =>
    split
    case h_1 => exact asks_fail worker thread _
    case h_2 script loaded =>
      split
      case h_1 =>
        intro target id opcode args token member
        rcases List.mem_cons.mp member with same | notice
        · cases same
        · exact asks_idleNotice _ target id opcode args token notice
      case h_2 statement reached =>
        split
        case h_1 =>
          unfold ScriptWorker.callBlock
          dsimp only
          split
          case h_1 =>
            intro target id opcode args token member
            cases List.mem_singleton.mp member
            exact calls _ script loaded statement (List.mem_of_getElem? reached)
          case h_2 => exact .nil
        case h_2 => exact asks_fail worker thread _

/-- Threads that go on call what their scripts may call. -/
theorem CallsOnly.advanceAll (calls : worker.CallsOnly allowed) (now : Nat)
    (threads : List ThreadId) : AsksOnly allowed (advanceAll now worker threads).2 := by
  induction threads generalizing worker with
  | nil => exact .nil
  | cons first rest inductionHypothesis =>
    exact (calls.advance now first).append
      (inductionHypothesis (calls.congr (advance_keeps worker now first).1))

/-- Threads that are launched call what their scripts may call. -/
theorem CallsOnly.launch (calls : worker.CallsOnly allowed) (now : Nat)
    (starts : List ThreadStart) : AsksOnly allowed (worker.launch now starts).2 := by
  obtain ⟨kept, -⟩ := enter_keeps worker starts
  refine CallsOnly.advanceAll (calls.congr ?_) now _
  rw [kept]

/-- An answer lets its thread call what its script may call. -/
theorem CallsOnly.resume (calls : worker.CallsOnly allowed) (now : Nat) (token : Token)
    (value : Value α) : AsksOnly allowed (worker.resume now token value).2 := by
  unfold ScriptWorker.resume
  split
  case h_1 => exact .nil
  case h_2 =>
    dsimp only
    split
    case h_1 => exact .nil
    case h_2 =>
      refine CallsOnly.advance (calls.congr ?_) now _
      rfl

/-- A refusal calls no opcode. -/
theorem asks_refuse (worker : ScriptWorker α) (token : Token) (reason : String) :
    AsksOnly allowed (worker.refuse token reason).2 := by
  unfold refuse
  split
  case h_1 => exact .nil
  case h_2 => exact asks_fail _ _ reason

end ScriptWorker

end SpriteMachine
