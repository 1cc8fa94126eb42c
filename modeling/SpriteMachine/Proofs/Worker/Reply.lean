import SpriteMachine.Worker.ScriptWorker

/-!
# Who is answered

A worker replies to a request once, under the token of the request, and to nothing else.
-/

namespace SpriteMachine

variable {α : Type}

/-- The tokens of the requests that messages answer. -/
def replies (messages : List (WorkerMessage α)) : List Token :=
  messages.filterMap WorkerMessage.replyToken?

/-- Replies are told in the order of the messages. -/
@[simp]
theorem replies_append (first second : List (WorkerMessage α)) :
    replies (first ++ second) = replies first ++ replies second :=
  List.filterMap_append

/-- A message that is no reply answers nothing. -/
theorem replies_cons {message : WorkerMessage α} (silent : message.replyToken? = none)
    (rest : List (WorkerMessage α)) : replies (message :: rest) = replies rest :=
  List.filterMap_cons_none silent

/-- A token is replied to by a message that carries it. -/
theorem mem_replies {token : Token} {messages : List (WorkerMessage α)} :
    token ∈ replies messages ↔ ∃ message ∈ messages, message.replyToken? = some token :=
  List.mem_filterMap

namespace ScriptWorker

/-- The notice of an idle worker replies to nothing. -/
@[simp]
theorem replies_idleNotice (worker : ScriptWorker α) : replies worker.idleNotice = [] := by
  unfold idleNotice
  split <;> rfl

/-- A thread that fails replies to nothing. -/
@[simp]
theorem replies_fail (worker : ScriptWorker α) (thread : ThreadId) (message : String) :
    replies (worker.fail thread message).2 = [] := by
  rw [fail, replies_cons rfl, replies_idleNotice]

/-- A thread that goes on replies to nothing. -/
@[simp]
theorem replies_advance (worker : ScriptWorker α) (now : Nat) (thread : ThreadId) :
    replies (worker.advance now thread).2 = [] := by
  unfold advance
  split
  case h_1 => rfl
  case h_2 =>
    split
    case h_1 => exact replies_fail ..
    case h_2 =>
      split
      case h_1 => rw [finish, replies_cons rfl, replies_idleNotice]
      case h_2 =>
        split
        case h_1 =>
          unfold callBlock
          dsimp only
          split <;> rfl
        case h_2 => exact replies_fail ..

/-- Threads that go on reply to nothing. -/
@[simp]
theorem replies_advanceAll (now : Nat) (worker : ScriptWorker α) (threads : List ThreadId) :
    replies (advanceAll now worker threads).2 = [] := by
  induction threads generalizing worker with
  | nil => rfl
  | cons first rest inductionHypothesis =>
    have both := replies_append (worker.advance now first).2
      (advanceAll now (worker.advance now first).1 rest).2
    rw [replies_advance, inductionHypothesis] at both
    exact both

/-- The notice of a start replies to nothing. -/
@[simp]
theorem replies_start (worker : ScriptWorker α) (starts : List ThreadStart) :
    replies (worker.start starts).2.2 = [] := by
  unfold start
  dsimp only
  split <;> rfl

/-- A halt replies to nothing. -/
@[simp]
theorem replies_halt (worker : ScriptWorker α) : replies worker.halt.2 = [] := by
  unfold halt
  dsimp only
  split <;> rfl

/-- Stopping threads replies to nothing. -/
theorem replies_stopThreads (worker : ScriptWorker α) (threads : List ThreadId) :
    replies (worker.stopThreads threads).2 = [] := by
  unfold stopThreads
  dsimp only
  split
  case isTrue => rfl
  case isFalse => exact replies_idleNotice _

/-- An answer of the host is not replied to. -/
theorem replies_resume (worker : ScriptWorker α) (now : Nat) (token : Token) (value : Value α) :
    replies (worker.resume now token value).2 = [] := by
  unfold resume
  split
  case h_1 => rfl
  case h_2 =>
    dsimp only
    split
    case h_1 => rfl
    case h_2 => exact replies_advance ..

/-- A refusal of the host is not replied to. -/
theorem replies_refuse (worker : ScriptWorker α) (token : Token) (message : String) :
    replies (worker.refuse token message).2 = [] := by
  unfold refuse
  split
  case h_1 => rfl
  case h_2 => exact replies_fail ..

/-- A poll replies to nothing. -/
theorem replies_poll (worker : ScriptWorker α) (now : Nat) :
    replies (worker.poll now).2 = [] := by
  unfold poll
  generalize worker.pending.expire now = expired
  obtain ⟨expired, pending⟩ := expired
  dsimp only
  generalize ({ worker with pending := pending } : ScriptWorker α) = left
  induction expired generalizing left with
  | nil => rfl
  | cons first rest inductionHypothesis =>
    obtain ⟨token, thread⟩ := first
    have both := fun reason => replies_append (left.fail thread reason).2
      (failAll (worker.blockTimeout.getD 0) (left.fail thread reason).1 rest).2
    simp only [replies_fail, inductionHypothesis] at both
    exact both _

variable [Scalar α]

/-- A unit that is run at once is not replied to. -/
theorem replies_runAsync (worker : ScriptWorker α) (now : Nat) (source : String)
    (starts : List ThreadStart) : replies (worker.runAsync now source starts).2 = [] := by
  unfold runAsync
  split
  case h_1 scripts _ =>
    have started := replies_start (worker.addScripts scripts) starts
    dsimp only
    rw [List.cons_append, replies_cons rfl, replies_append, started, replies_advanceAll,
      List.append_nil]
  case h_2 => rfl

end ScriptWorker

end SpriteMachine
