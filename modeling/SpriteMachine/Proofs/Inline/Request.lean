import SpriteMachine.Proofs.Worker.Reply
import SpriteMachine.Proofs.Worker.Treatment
import SpriteMachine.Worker.Bridge
import SpriteMachine.Worker.Inline

/-!
# Requests to a worker on the same thread

The inline transport has its reply in the outbox when a request starts to wait, so the
request is answered: what was sent before the reply moves to the backlog, what was sent
behind it stays in the outbox, and time does not pass.
-/

namespace SpriteMachine

variable {α : Type}

/-- Nothing is received when nothing was sent. -/
theorem Inline.receive_nil {state : Inline α} (sent : state.refill.outbox = []) :
    state.receive = (.nothing, state.refill) := by
  rw [receive, sent]

/-- The first message that was sent is received. -/
theorem Inline.receive_cons {state : Inline α} {first : WorkerMessage α}
    {rest : List (WorkerMessage α)} (sent : state.refill.outbox = first :: rest) :
    state.receive = (.message first, { state.refill with outbox := rest }) := by
  rw [receive, sent]

variable [Scalar α]

/-- Waiting takes the first message of the outbox. -/
theorem Inline.await_cons {state : Inline α} {first : WorkerMessage α}
    {rest : List (WorkerMessage α)} (sent : state.outbox = first :: rest) (limit : Nat) :
    Transport.await limit state = (.message first, { state with outbox := rest }) := by
  have full : state.refill = state := by
    rw [refill, sent]
    rfl
  have filled : state.refill.outbox = first :: rest := by rw [full, sent]
  have received := receive_cons filled
  rw [full] at received
  exact received

namespace Bridge

/-- Waiting finds a reply that was sent already. -/
theorem awaitReply_sent {token : Token} {request : String} {deadline : Nat}
    {reply : WorkerMessage α} {behind : List (WorkerMessage α)}
    (answers : reply.replyToken? = some token) (before : List (WorkerMessage α))
    (foreign : replies before = []) (bridge : Bridge (Inline α) α)
    (sent : bridge.transport.outbox = before ++ reply :: behind)
    (patient : bridge.transport.moment < deadline) :
    awaitReply token request deadline bridge =
      (.ok reply, { bridge with
        backlog := bridge.backlog ++ before
        transport := { bridge.transport with outbox := behind } }) := by
  induction before generalizing bridge with
  | nil =>
    rw [awaitReply]
    have found := Inline.await_cons sent (deadline - Transport.moment bridge.transport)
    split
    case h_1 transport arrived =>
      rw [found] at arrived
      cases arrived
    case h_2 transport arrived =>
      rw [found] at arrived
      cases arrived
    case h_3 message transport arrived =>
      rw [found] at arrived
      obtain ⟨same, rfl⟩ := Prod.mk.inj arrived
      obtain rfl := Receipt.message.inj same
      rw [if_pos answers, List.append_nil]
  | cons first rest inductionHypothesis =>
    rw [List.cons_append] at sent
    rw [awaitReply]
    have found := Inline.await_cons sent (deadline - Transport.moment bridge.transport)
    have silent : first.replyToken? = none := by
      cases own : first.replyToken? with
      | none => rfl
      | some other =>
        have listed : other ∈ replies (first :: rest) :=
          mem_replies.mpr ⟨first, List.mem_cons_self, own⟩
        rw [foreign] at listed
        cases listed
    split
    case h_1 transport arrived =>
      rw [found] at arrived
      cases arrived
    case h_2 transport arrived =>
      rw [found] at arrived
      cases arrived
    case h_3 message transport arrived =>
      rw [found] at arrived
      obtain ⟨same, rfl⟩ := Prod.mk.inj arrived
      obtain rfl := Receipt.message.inj same
      rw [if_neg (by rw [silent]; simp)]
      dsimp only
      split
      case isTrue late => exact absurd patient (Nat.not_lt.mpr late)
      case isFalse =>
        have later := inductionHypothesis ((replies_cons silent rest).symm.trans foreign)
          { bridge with
            transport := { bridge.transport with outbox := rest ++ reply :: behind }
            backlog := bridge.backlog ++ [first] } rfl patient
        rw [later, List.append_assoc, List.singleton_append]

/-- Posting hands a message to the worker at once. -/
theorem post_inline (bridge : Bridge (Inline α) α) (message : HostMessage α) :
    bridge.post message =
      (.ok (), { bridge with transport := bridge.transport.send message }) := rfl

/-- A request is answered by the reply that the worker sends on its message. -/
theorem request_inline {bridge : Bridge (Inline α) α} (build : Token → HostMessage α)
    (patient : 0 < bridge.timeout) (unasked : replies bridge.transport.outbox = [])
    {worker : ScriptWorker α} {before behind : List (WorkerMessage α)} {reply : WorkerMessage α}
    (handled : bridge.transport.worker.handle bridge.transport.moment
      (build bridge.tokens.next.1) = (worker, before ++ reply :: behind))
    (foreign : replies before = [])
    (answers : reply.replyToken? = some bridge.tokens.next.1) :
    bridge.request build = (.ok reply, { bridge with
      tokens := bridge.tokens.next.2
      backlog := bridge.backlog ++ (bridge.transport.outbox ++ before)
      transport := ⟨worker, behind, bridge.transport.moment⟩ }) := by
  have sends : bridge.transport.send (build bridge.tokens.next.1) =
      ⟨worker, bridge.transport.outbox ++ (before ++ reply :: behind),
        bridge.transport.moment⟩ := by
    rw [Inline.send, handled]
  unfold request
  simp only [post_inline, sends]
  have foreignAll : replies (bridge.transport.outbox ++ before) = [] := by
    rw [replies_append, unasked, foreign, List.append_nil]
  refine awaitReply_sent answers (bridge.transport.outbox ++ before) foreignAll
    { bridge with
      tokens := bridge.tokens.next.2
      transport := ⟨worker, bridge.transport.outbox ++ (before ++ reply :: behind),
        bridge.transport.moment⟩ } ?_ ?_
  · rw [List.append_assoc]
  · exact Nat.lt_add_of_pos_right patient

/-- A request to start threads is answered with those whose scripts are loaded. -/
theorem startHats_inline {bridge : Bridge (Inline α) α} (patient : 0 < bridge.timeout)
    (unasked : replies bridge.transport.outbox = []) (hat : String) (option : Option String)
    (starts : List ThreadStart) :
    bridge.startHats hat option starts =
      (.ok ((bridge.transport.worker.admitted starts).map ThreadStart.thread), { bridge with
        tokens := bridge.tokens.next.2
        backlog := bridge.backlog ++
          (bridge.transport.outbox ++ (bridge.transport.worker.start starts).2.2)
        transport :=
          ⟨(bridge.transport.worker.launch bridge.transport.moment starts).1,
            (bridge.transport.worker.launch bridge.transport.moment starts).2,
            bridge.transport.moment⟩ }) := by
  have requested := request_inline (fun token => .startHats token hat option starts) patient
    unasked (ScriptWorker.startHats_eq bridge.transport.moment bridge.tokens.next.1 starts)
    (ScriptWorker.replies_start _ starts) rfl
  unfold startHats
  rw [requested]

/-- A request to load a unit that can be read is answered without a refusal. -/
theorem register_inline {bridge : Bridge (Inline α) α} (patient : 0 < bridge.timeout)
    (unasked : replies bridge.transport.outbox = []) {unit : LinkedUnit}
    {scripts : List (Script α)} (read : ScriptUnit.parse unit.source = .ok scripts) :
    bridge.register unit = (.ok (), { bridge with
      tokens := bridge.tokens.next.2
      backlog := bridge.backlog ++ (bridge.transport.outbox ++
        (.status .scriptLoading :: (bridge.transport.worker.replaceScripts scripts).2))
      transport := ⟨(bridge.transport.worker.replaceScripts scripts).1, [],
        bridge.transport.moment⟩ }) := by
  have foreign : replies (.status .scriptLoading ::
      (bridge.transport.worker.replaceScripts scripts).2) = [] :=
    (replies_cons rfl _).trans (ScriptWorker.replies_halt bridge.transport.worker)
  have requested := request_inline (fun token => .register token unit) patient unasked
    (ScriptWorker.register_eq read bridge.tokens.next.1) foreign rfl
  unfold register
  rw [requested]

end Bridge

end SpriteMachine
