import SpriteMachine.Worker.Bridge
import SpriteMachine.Worker.Link

/-!
# A bridge over a link

What a bridge keeps in its backlog counts as still under way, in front of everything that
the worker has sent. Seen so, waiting for a reply moves no message: the worker goes on, and
at most a reply is taken out. All else that a bridge does is to send one message or to hand
out the first one.
-/

namespace SpriteMachine

variable {τ α : Type}

namespace Link

/-- A link with messages in front of those that the worker has sent. -/
def behind (backlog : List (WorkerMessage α)) (link : Link α) : Link α :=
  { link with outbound := backlog ++ link.outbound }

variable [Scalar α] {before after : Link α}

/-- The worker goes on, or a reply is taken out. -/
inductive Drift : Link α → Link α → Prop where
  | move {before after : Link α} (move : Move before after) : Drift before after
  | reply (worker : ScriptWorker α) (inbound : List (HostMessage α))
      (front back : List (WorkerMessage α)) {message : WorkerMessage α}
      (replies : message.replyToken?.isSome) :
      Drift ⟨worker, inbound, front ++ message :: back⟩ ⟨worker, inbound, front ++ back⟩

/-- What happens to a link while the host waits. -/
abbrev Drifts : Link α → Link α → Prop := Relation.ReflTransGen Drift

/-- What the worker does does not depend on what it has sent. -/
theorem Move.behind (move : Move before after) (backlog : List (WorkerMessage α)) :
    Move (before.behind backlog) (after.behind backlog) := by
  cases move with
  | handle now worker message inbound outbound =>
    have moved := Move.handle now worker message inbound (backlog ++ outbound)
    rw [List.append_assoc] at moved
    exact moved
  | look now worker inbound outbound =>
    have moved := Move.look now worker inbound (backlog ++ outbound)
    rw [List.append_assoc] at moved
    exact moved

/-- What the worker does drifts on, whatever is still behind in its inbox. -/
theorem Moves.drifts (moves : Moves before after) (backlog : List (WorkerMessage α)) :
    Drifts (before.behind backlog) (after.behind backlog) := by
  induction moves with
  | refl => exact .refl
  | tail _ move inductionHypothesis => exact inductionHypothesis.tail (.move (move.behind backlog))

/-- A message that is heard stands first in its queue, or goes to the end of the backlog. -/
theorem Hears.message {message : WorkerMessage α} (hears : Hears before (.message message) after)
    (backlog : List (WorkerMessage α)) :
    ∃ here : Link α, Drifts (before.behind backlog) (here.behind (backlog ++ [message])) ∧
      Drifts (here.behind backlog) (after.behind backlog) ∧
      Drifts (here.behind (backlog ++ [message])) (after.behind (backlog ++ [message])) := by
  obtain ⟨_, there, first, rfl, second⟩ := hears
  refine ⟨there, ?_, Moves.drifts second backlog, Moves.drifts second (backlog ++ [message])⟩
  have drifts := Moves.drifts first backlog
  unfold Link.behind at drifts ⊢
  rw [List.append_assoc]
  exact drifts

/-- Hearing nothing leaves the link as it is. -/
theorem Delivers.idle {α : Type} {before after : Link α} {receipt : Receipt α}
    (delivers : Delivers before receipt after) (idle : ∀ message, receipt ≠ .message message) :
    before = after := by
  cases receipt with
  | message message => exact absurd rfl (idle message)
  | nothing => exact delivers
  | disconnected => exact delivers

/-- Hearing nothing is waiting. -/
theorem Hears.idle {receipt : Receipt α} (hears : Hears before receipt after)
    (idle : ∀ message, receipt ≠ .message message) (backlog : List (WorkerMessage α)) :
    Drifts (before.behind backlog) (after.behind backlog) := by
  obtain ⟨here, there, first, delivers, second⟩ := hears
  obtain rfl := delivers.idle idle
  exact Moves.drifts (first.trans second) backlog

/-- The reply that the host waits for is taken out. -/
theorem takesOut (link : Link α) (backlog : List (WorkerMessage α)) {message : WorkerMessage α}
    (replies : message.replyToken?.isSome) :
    Drift (link.behind (backlog ++ [message])) (link.behind backlog) := by
  have taken := Drift.reply link.worker link.inbound backlog link.outbound replies
  rw [← List.singleton_append, ← List.append_assoc] at taken
  exact taken

end Link

open Link

namespace Bridge

variable [Scalar α] [Transport τ α] {view : τ → Link α} {bridge : Bridge τ α}

/-- The link of a bridge: its backlog is still under way. -/
def link (view : τ → Link α) (bridge : Bridge τ α) : Link α :=
  (view bridge.transport).behind bridge.backlog

/-- A message is sent while the worker goes on, or it is not sent. -/
def Posts (before : Link α) (message : HostMessage α) (after : Link α) : Prop :=
  ∃ here, Drifts before here ∧ (Drifts here after ∨ Drifts (here.post message) after)

/-- Sending a message. -/
theorem post_posts (relays : Relays view) (bridge : Bridge τ α) (message : HostMessage α) :
    Posts (bridge.link view) message ((bridge.post message).2.link view) := by
  obtain ⟨here, first, second⟩ := relays.send message bridge.transport
  refine ⟨here.behind bridge.backlog, Moves.drifts first _, ?_⟩
  unfold Bridge.post
  cases sent : Transport.send message bridge.transport with
  | mk passed transport =>
    rw [sent] at second
    cases passed with
    | true => exact Or.inr (Moves.drifts second bridge.backlog)
    | false => exact Or.inl (Moves.drifts second bridge.backlog)

/-- A message that arrives while the host waits. -/
theorem heard (relays : Relays view) {bridge : Bridge τ α} {limit : Nat}
    {message : WorkerMessage α} {transport : τ}
    (arrived : Transport.await limit bridge.transport = (.message message, transport)) :
    ∃ here : Link α,
      Drifts (bridge.link view) (here.behind (bridge.backlog ++ [message])) ∧
      Drifts (here.behind bridge.backlog) ((view transport).behind bridge.backlog) ∧
      Drifts (here.behind (bridge.backlog ++ [message]))
        ((view transport).behind (bridge.backlog ++ [message])) := by
  have hears := relays.await limit bridge.transport
  rw [arrived] at hears
  exact hears.message bridge.backlog

/-- Waiting for a reply is waiting. -/
theorem awaitReply_drifts (relays : Relays view) (token : Token) (request : String)
    (deadline : Nat) (bridge : Bridge τ α) :
    Drifts (bridge.link view) ((bridge.awaitReply token request deadline).2.link view) := by
  fun_induction awaitReply token request deadline bridge with
  | case1 bridge transport arrived =>
    have hears := relays.await (deadline - Transport.moment bridge.transport) bridge.transport
    rw [arrived] at hears
    exact hears.idle (fun _ same => by cases same) bridge.backlog
  | case2 bridge transport arrived =>
    have hears := relays.await (deadline - Transport.moment bridge.transport) bridge.transport
    rw [arrived] at hears
    exact hears.idle (fun _ same => by cases same) bridge.backlog
  | case3 bridge message transport arrived answers =>
    obtain ⟨here, first, second, -⟩ := heard relays arrived
    exact (first.tail (here.takesOut bridge.backlog (by rw [answers]; rfl))).trans second
  | case4 bridge message transport arrived other kept late =>
    obtain ⟨here, first, -, second⟩ := heard relays arrived
    exact first.trans second
  | case5 bridge message transport arrived other kept early inductionHypothesis =>
    obtain ⟨here, first, -, second⟩ := heard relays arrived
    exact (first.trans second).trans inductionHypothesis

/-- A request sends one message and waits. -/
theorem request_posts (relays : Relays view) (bridge : Bridge τ α) (build : Token → HostMessage α) :
    Posts (bridge.link view) (build bridge.tokens.next.1) ((bridge.request build).2.link view) := by
  have posts := post_posts relays { bridge with tokens := bridge.tokens.next.2 }
    (build bridge.tokens.next.1)
  unfold request
  dsimp only
  split
  case h_1 fault later posted =>
    rw [posted] at posts
    exact posts
  case h_2 later posted =>
    rw [posted] at posts
    obtain ⟨here, first, second⟩ := posts
    have waits := awaitReply_drifts relays bridge.tokens.next.1 (build bridge.tokens.next.1).kind
      (Transport.moment later.transport + later.timeout) later
    exact ⟨here, first, second.imp (fun cut => cut.trans waits) fun sent => sent.trans waits⟩

/-- To register a unit posts one message. -/
theorem register_posts (relays : Relays view) (bridge : Bridge τ α) (unit : LinkedUnit) :
    Posts (bridge.link view) (.register bridge.tokens.next.1 unit)
      ((bridge.register unit).2.link view) := by
  rw [register_bridge]
  exact request_posts relays bridge fun token => .register token unit

/-- To ask for starts posts one message. -/
theorem startHats_posts (relays : Relays view) (bridge : Bridge τ α) (hat : String)
    (option : Option String) (starts : List ThreadStart) :
    Posts (bridge.link view) (.startHats bridge.tokens.next.1 hat option starts)
      ((bridge.startHats hat option starts).2.link view) := by
  rw [startHats_bridge]
  exact request_posts relays bridge fun token => .startHats token hat option starts

/-- Looking for a message hands out the first one, if it finds one. -/
theorem next_delivers (relays : Relays view) {bridge later : Bridge τ α} {receipt : Receipt α}
    (looked : bridge.next = (receipt, later)) :
    ∃ here there, Drifts (bridge.link view) here ∧ Delivers here receipt there ∧
      Drifts there (later.link view) := by
  unfold next at looked
  split at looked
  case h_1 message rest kept =>
    obtain ⟨rfl, rfl⟩ := Prod.mk.inj looked
    refine ⟨_, link view { bridge with backlog := rest }, .refl, ?_, .refl⟩
    rw [link, kept]
    rfl
  case h_2 empty =>
    have hears := relays.receive bridge.transport
    split at looked
    case h_1 found transport received =>
      rw [received] at hears
      obtain ⟨rfl, rfl⟩ := Prod.mk.inj looked
      obtain ⟨here, there, first, delivers, second⟩ := hears
      have nothing : bridge.link view = view bridge.transport := by
        rw [link, empty]
        rfl
      have later : link view { bridge with transport := transport } = view transport := by
        rw [link, empty]
        rfl
      rw [nothing, later]
      exact ⟨here, there, Moves.drifts first [], delivers, Moves.drifts second []⟩

end Bridge

end SpriteMachine
