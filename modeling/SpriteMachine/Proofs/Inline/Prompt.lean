import SpriteMachine.Proofs.Inline.Request

/-!
# The host's end of a worker on the same thread

Between two requests no reply is left over. Only when requests do not wait at all a reply
may stay behind, under a token that no later request has. The worker's scripts change when
it is given some, and not by anything else that it is told or does on its own.
-/

namespace SpriteMachine

variable {α : Type}

/-- A message that brings scripts. -/
def HostMessage.Loads : HostMessage α → Prop
  | register .. => True
  | runAsync .. => True
  | _ => False

/-- The token of a request. -/
def HostMessage.request? : HostMessage α → Option Token
  | register token _ => some token
  | startHats token .. => some token
  | _ => none

namespace ScriptWorker

/-- A request to start hats is replied to once, under its token. -/
theorem replies_startHats (worker : ScriptWorker α) (now : Nat) (token : Token)
    (starts : List ThreadStart) : replies (worker.startHats now token starts).2 = [token] := by
  rw [startHats_eq, replies_append, replies_start, List.nil_append]
  change token :: replies (worker.launch now starts).2 = [token]
  rw [launch, replies_advanceAll]

variable [Scalar α]

/-- Only a message that brings scripts changes those that are loaded. -/
theorem handle_scripts (worker : ScriptWorker α) (now : Nat) {message : HostMessage α}
    (plain : ¬ message.Loads) : (worker.handle now message).1.scripts = worker.scripts := by
  cases message with
  | connected => rfl
  | prepare url => rfl
  | register token unit => exact absurd trivial plain
  | runAsync source starts => exact absurd trivial plain
  | result token value => exact (resume_keeps worker now token value).1
  | failure token reason => exact (refuse_keeps worker token reason).1
  | startHats token hat option starts =>
    change (worker.startHats now token starts).1.scripts = worker.scripts
    rw [startHats_eq]
    exact (launch_keeps worker now starts).1
  | stopThreads threads => rfl
  | stopAll => rfl

/-- The answer to a unit begins with a notice. -/
theorem register_notice (worker : ScriptWorker α) (token : Token) (source : String) :
    ∃ rest, (worker.register token source).2 = .status .scriptLoading :: rest := by
  unfold register
  split <;> exact ⟨_, rfl⟩

/-- A request to register a unit is replied to once, under its token. -/
theorem replies_register (worker : ScriptWorker α) (token : Token) (source : String) :
    replies (worker.register token source).2 = [token] := by
  cases read : (ScriptUnit.parse source : Except SyntaxFault (List (Script α))) with
  | ok scripts =>
    have halted : replies (worker.replaceScripts scripts).2 = [] := replies_halt worker
    rw [register_eq read, replies_append, replies_cons rfl, halted]
    rfl
  | error fault =>
    rw [register, read]
    rfl

/-- A request is replied to once, any other message never. -/
theorem replies_handle (worker : ScriptWorker α) (now : Nat) (message : HostMessage α) :
    replies (worker.handle now message).2 = message.request?.toList := by
  cases message with
  | connected => rfl
  | prepare url => rfl
  | register token unit => exact replies_register worker token unit.source
  | runAsync source starts => exact replies_runAsync worker now source starts
  | result token value => exact replies_resume worker now token value
  | failure token reason => exact replies_refuse worker token reason
  | startHats token hat option starts => exact replies_startHats worker now token starts
  | stopThreads threads => exact replies_stopThreads worker threads
  | stopAll => exact replies_halt worker

end ScriptWorker

/-- Looking for a message keeps the scripts and adds no reply. -/
theorem Inline.receive_kept {state later : Inline α} {receipt : Receipt α}
    (received : state.receive = (receipt, later)) :
    later.worker.scripts = state.worker.scripts ∧
      ∀ token ∈ replies later.outbox, token ∈ replies state.outbox := by
  have filled : state.refill.worker.scripts = state.worker.scripts ∧
      ∀ token ∈ replies state.refill.outbox, token ∈ replies state.outbox := by
    unfold refill
    split
    case isTrue =>
      have kept := (ScriptWorker.failAll_keeps (state.worker.blockTimeout.getD 0)
        { state.worker with pending := (state.worker.pending.expire state.moment).2 }
        (state.worker.pending.expire state.moment).1).1
      refine ⟨kept, fun token member => ?_⟩
      have silent := ScriptWorker.replies_poll state.worker state.moment
      change token ∈ replies (state.worker.poll state.moment).2 at member
      rw [silent] at member
      cases member
    case isFalse => exact ⟨rfl, fun _ member => member⟩
  cases sent : state.refill.outbox with
  | nil =>
    rw [receive_nil sent] at received
    obtain ⟨-, rfl⟩ := Prod.mk.inj received
    exact filled
  | cons first rest =>
    rw [receive_cons sent] at received
    obtain ⟨-, rfl⟩ := Prod.mk.inj received
    refine ⟨filled.1, fun token member => filled.2 token ?_⟩
    obtain ⟨reply, inside, answers⟩ := mem_replies.mp member
    rw [sent]
    exact mem_replies.mpr ⟨reply, List.mem_cons_of_mem _ inside, answers⟩

/-- Sending adds the reply to a request. -/
theorem Inline.replies_send [Scalar α] (state : Inline α) (message : HostMessage α) :
    replies (state.send message).outbox = replies state.outbox ++ message.request?.toList := by
  have handled := ScriptWorker.replies_handle state.worker state.moment message
  unfold send
  dsimp only
  rw [replies_append, handled]

namespace Bridge

variable {before after bridge : Bridge (Inline α) α}

/-- No reply is left over, or else requests do not wait and its token was used. -/
structure Prompt (bridge : Bridge (Inline α) α) : Prop where
  unasked : 0 < bridge.timeout → replies bridge.transport.outbox = []
  issued : ∀ token ∈ replies bridge.transport.outbox, bridge.tokens.HasIssued token

/-- The host listens: messages are taken and the worker may give up calls. -/
structure Hears (before after : Bridge (Inline α) α) : Prop where
  timeout : after.timeout = before.timeout
  tokens : after.tokens = before.tokens
  scripts : after.transport.worker.scripts = before.transport.worker.scripts
  fewer : ∀ token ∈ replies after.transport.outbox, token ∈ replies before.transport.outbox

/-- The host listens twice as it listens once. -/
theorem Hears.trans {first second third : Bridge (Inline α) α} (before : Hears first second)
    (after : Hears second third) : Hears first third :=
  ⟨after.timeout.trans before.timeout, after.tokens.trans before.tokens,
    after.scripts.trans before.scripts,
    fun token member => before.fewer token (after.fewer token member)⟩

/-- While the host listens, the bridge stays prompt. -/
theorem Hears.prompt (hears : Hears before after) (prompt : Prompt before) : Prompt after := by
  refine ⟨fun patient => List.eq_nil_iff_forall_not_mem.mpr fun token member => ?_,
    fun token member => ?_⟩
  · have left := hears.fewer token member
    rw [prompt.unasked (hears.timeout ▸ patient)] at left
    cases left
  · rw [hears.tokens]
    exact prompt.issued token (hears.fewer token member)

/-- The worker's scripts stay, and the bridge stays prompt. -/
structure Steady (before after : Bridge (Inline α) α) : Prop where
  timeout : after.timeout = before.timeout
  scripts : after.transport.worker.scripts = before.transport.worker.scripts
  prompt : Prompt before → Prompt after

/-- A bridge that is left alone is steady. -/
theorem Steady.refl (bridge : Bridge (Inline α) α) : Steady bridge bridge :=
  ⟨rfl, rfl, fun prompt => prompt⟩

/-- A bridge is steady over two stretches. -/
theorem Steady.trans {first second third : Bridge (Inline α) α} (before : Steady first second)
    (after : Steady second third) : Steady first third :=
  ⟨after.timeout.trans before.timeout, after.scripts.trans before.scripts,
    fun prompt => after.prompt (before.prompt prompt)⟩

/-- A bridge is steady while the host listens. -/
theorem Hears.steady (hears : Hears before after) : Steady before after :=
  ⟨hears.timeout, hears.scripts, hears.prompt⟩

/-- One look at the transport. -/
theorem hears_of_receive {receipt : Receipt α} {later : Inline α}
    (received : bridge.transport.receive = (receipt, later)) (kept : List (WorkerMessage α)) :
    Hears bridge { bridge with transport := later, backlog := kept } := by
  obtain ⟨scripts, fewer⟩ := Inline.receive_kept received
  exact ⟨rfl, rfl, scripts, fewer⟩

variable [Scalar α]

/-- To take the next message is to listen. -/
theorem next_hears (bridge : Bridge (Inline α) α) : Hears bridge bridge.next.2 := by
  unfold next
  split
  case h_1 => exact ⟨rfl, rfl, rfl, fun _ member => member⟩
  case h_2 =>
    generalize looked : Transport.receive bridge.transport = result
    obtain ⟨receipt, later⟩ := result
    exact hears_of_receive looked bridge.backlog

/-- To wait for a reply is to listen, by induction on the looks. -/
theorem awaitReply_hears (token : Token) (request : String) (deadline : Nat)
    (bridge : Bridge (Inline α) α) : Hears bridge (awaitReply token request deadline bridge).2 := by
  fun_induction awaitReply token request deadline bridge with
  | case1 bridge transport arrived => exact hears_of_receive arrived bridge.backlog
  | case2 bridge transport arrived => exact hears_of_receive arrived bridge.backlog
  | case3 bridge message transport arrived answers => exact hears_of_receive arrived bridge.backlog
  | case4 bridge message transport arrived other kept late => exact hears_of_receive arrived _
  | case5 bridge message transport arrived other kept early inductionHypothesis =>
    exact (hears_of_receive arrived _).trans inductionHypothesis

/-- A request that does not wait is not answered when no reply is left over for it. -/
theorem awaitReply_impatient {token : Token} {request : String} {deadline : Nat}
    (late : deadline ≤ bridge.transport.moment)
    (foreign : ∃ first rest, bridge.transport.outbox = first :: rest ∧
      first.replyToken? ≠ some token) :
    ∃ fault, (awaitReply token request deadline bridge).1 = .error fault := by
  obtain ⟨first, rest, sent, other⟩ := foreign
  have found := Inline.await_cons sent (deadline - Transport.moment bridge.transport)
  rw [awaitReply]
  split
  case h_1 => exact ⟨_, rfl⟩
  case h_2 => exact ⟨_, rfl⟩
  case h_3 message transport arrived =>
    rw [found] at arrived
    obtain ⟨same, rfl⟩ := Prod.mk.inj arrived
    obtain rfl := Receipt.message.inj same
    rw [if_neg other]
    dsimp only
    split
    case isTrue => exact ⟨_, rfl⟩
    case isFalse early => exact absurd late early

/-- Posting no request asks for no reply. -/
theorem post_prompt (prompt : Prompt bridge) {message : HostMessage α}
    (unasking : message.request? = none) : Prompt (bridge.post message).2 := by
  have same : replies (bridge.transport.send message).outbox = replies bridge.transport.outbox := by
    rw [Inline.replies_send, unasking, Option.toList_none, List.append_nil]
  rw [post_inline]
  refine ⟨fun patient => same.trans (prompt.unasked patient), fun token member => ?_⟩
  change token ∈ replies (bridge.transport.send message).outbox at member
  rw [same] at member
  exact prompt.issued token member

/-- Posting anything but scripts and requests. -/
theorem post_steady (bridge : Bridge (Inline α) α) {message : HostMessage α}
    (plain : ¬ message.Loads) (unasking : message.request? = none) :
    Steady bridge (bridge.post message).2 :=
  ⟨rfl, ScriptWorker.handle_scripts bridge.transport.worker bridge.transport.moment plain,
    fun prompt => post_prompt prompt unasking⟩

/-- A request is posted and then waits. -/
theorem request_hears (bridge : Bridge (Inline α) α) (build : Token → HostMessage α) :
    Hears { bridge with
        tokens := bridge.tokens.next.2
        transport := bridge.transport.send (build bridge.tokens.next.1) }
      (bridge.request build).2 :=
  awaitReply_hears _ _ _ _

/-- The reply to a request carries a token that was issued. -/
theorem request_issued (prompt : Prompt bridge) (build : Token → HostMessage α)
    (asks : ∀ token, (build token).request? = some token) :
    ∀ token ∈ replies (bridge.request build).2.transport.outbox,
      (bridge.request build).2.tokens.HasIssued token := by
  intro token member
  have hears := request_hears bridge build
  have sent := hears.fewer token member
  rw [hears.tokens]
  dsimp only at sent
  rw [Inline.replies_send, asks, Option.toList_some, List.mem_append] at sent
  rcases sent with old | new
  · exact (prompt.issued token old).next
  · rw [List.mem_singleton.mp new]
    exact bridge.tokens.next_issued

/-- Asking for starts leaves the scripts, and the reply is taken. -/
theorem startHats_steady (bridge : Bridge (Inline α) α) (hat : String) (option : Option String)
    (starts : List ThreadStart) : Steady bridge (bridge.startHats hat option starts).2 := by
  have hears := request_hears bridge fun token => .startHats token hat option starts
  have issued := fun prompt : Prompt bridge =>
    request_issued prompt (fun token => .startHats token hat option starts) fun _ => rfl
  rw [← startHats_bridge] at hears issued
  refine ⟨hears.timeout, hears.scripts.trans ?_, fun prompt => ⟨fun patient => ?_, issued prompt⟩⟩
  · have plain : ¬ (HostMessage.startHats bridge.tokens.next.1 hat option starts :
        HostMessage α).Loads := fun loads => loads
    exact ScriptWorker.handle_scripts bridge.transport.worker bridge.transport.moment plain
  · have waits : 0 < bridge.timeout := hears.timeout ▸ patient
    rw [startHats_inline waits (prompt.unasked waits)]
    exact ScriptWorker.replies_advanceAll _ _ _

/-- Whether or not a unit is taken over, the bridge stays prompt when it can be read. -/
theorem register_prompt (prompt : Prompt bridge) {unit : LinkedUnit} {scripts : List (Script α)}
    (read : ScriptUnit.parse unit.source = .ok scripts) : Prompt (bridge.register unit).2 := by
  have timeout := (request_hears bridge fun token => .register token unit).timeout
  have issued := request_issued prompt (fun token => .register token unit) fun _ => rfl
  rw [← register_bridge] at timeout issued
  refine ⟨fun patient => ?_, issued⟩
  have waits : 0 < bridge.timeout := timeout ▸ patient
  rw [register_inline waits (prompt.unasked waits) read]
  rfl

/-- Loading fails when requests do not wait: the first message that comes is a notice or was
sent before. -/
theorem register_impatient (prompt : Prompt bridge) (impatient : bridge.timeout = 0)
    (unit : LinkedUnit) : ∃ fault, (bridge.register unit).1 = .error fault := by
  obtain ⟨others, notice⟩ := bridge.transport.worker.register_notice bridge.tokens.next.1
    unit.source
  have sent : (bridge.transport.send (.register bridge.tokens.next.1 unit)).outbox =
      bridge.transport.outbox ++ .status .scriptLoading :: others :=
    congrArg (bridge.transport.outbox ++ ·) notice
  have foreign : ∃ first rest,
      (bridge.transport.send (.register bridge.tokens.next.1 unit)).outbox = first :: rest ∧
        first.replyToken? ≠ some bridge.tokens.next.1 := by
    cases left : bridge.transport.outbox with
    | nil =>
      rw [left] at sent
      exact ⟨_, _, sent, fun none => by cases none⟩
    | cons first rest =>
      rw [left] at sent
      refine ⟨_, _, sent, fun answers => bridge.tokens.next_fresh (prompt.issued _ ?_)⟩
      rw [left]
      exact mem_replies.mpr ⟨first, List.mem_cons_self, answers⟩
  have waits : ∃ fault, (bridge.request fun token => .register token unit).1 = .error fault := by
    unfold request
    simp only [post_inline]
    refine awaitReply_impatient (Nat.le_of_eq ?_) foreign
    rw [impatient]
    rfl
  obtain ⟨fault, failed⟩ := waits
  unfold register
  split
  case h_1 result =>
    rw [result] at failed
    cases failed
  case h_2 => exact ⟨_, rfl⟩
  case h_3 => exact ⟨_, rfl⟩
  case h_4 => exact ⟨_, rfl⟩

end Bridge

end SpriteMachine
