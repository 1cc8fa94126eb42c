import Mathlib.Tactic.Basic
import SpriteMachine.Worker.Bridge
import SpriteMachine.Worker.Tap

/-!
# Calls that pass a tap

A tap on a transport records every call that the host was given and every answer that it
sent. Between two answers the host only listens: the calls that reach it while it waits for
something else are deferred, in order, and are handed out before anything newer.
-/

namespace SpriteMachine

/-- The call that a message of the host answers. -/
def HostMessage.answered? {α : Type} : HostMessage α → Option Token
  | result token _ => some token
  | failure token _ => some token
  | _ => none

/-- The thread and the token of a call. -/
def WorkerMessage.called? {α : Type} : WorkerMessage α → Option (ThreadId × Token)
  | call _ thread _ _ token => some (thread, token)
  | _ => none

variable {τ α : Type}

/-- A reply is no call. -/
theorem called_of_replyToken {message : WorkerMessage α} {token : Token}
    (replies : message.replyToken? = some token) : message.called? = none := by
  cases message <;> first | rfl | cases replies

/-- The message that a look finds, if it finds one. -/
def Receipt.found {α : Type} : Receipt α → List (WorkerMessage α)
  | .message arrived => [arrived]
  | _ => []

/-- Everything passes the tap. -/
structure Tap.IsOpen (tap : Tap τ α) : Prop where
  uncut : tap.isCut = false
  sends : tap.refusesSends = false

/-- A transport on which sending succeeds. -/
def Reliable (τ : Type) {α : Type} [Transport τ α] : Prop :=
  ∀ (message : HostMessage α) (state : τ), (Transport.send message state).1 = true

namespace Bridge

/-- The calls that the host was given. -/
def asked (bridge : Bridge (Tap τ α) α) : List (ThreadId × Token) :=
  bridge.transport.delivered.filterMap WorkerMessage.called?

/-- The calls among them that were not handed out yet. -/
def deferred (bridge : Bridge (Tap τ α) α) : List (ThreadId × Token) :=
  bridge.backlog.filterMap WorkerMessage.called?

/-- The calls that the host answered, each as often as it did. -/
def answered (bridge : Bridge (Tap τ α) α) : List Token :=
  bridge.transport.sent.filterMap HostMessage.answered?

/-- The host sent something, and listened without handing out anything. -/
structure Exchanges (before : Bridge (Tap τ α) α) (said : List Token)
    (after : Bridge (Tap τ α) α) : Prop where
  isOpen : after.transport.IsOpen
  answered : after.answered = before.answered ++ said
  heard : ∃ calls, after.asked = before.asked ++ calls ∧ after.deferred = before.deferred ++ calls

/-- Two exchanges are one in which both were said. -/
theorem Exchanges.trans {first second third : Bridge (Tap τ α) α} {said more : List Token}
    (before : Exchanges first said second) (after : Exchanges second more third) :
    Exchanges first (said ++ more) third := by
  obtain ⟨calls, asked, deferred⟩ := before.heard
  obtain ⟨others, askedMore, deferredMore⟩ := after.heard
  refine ⟨after.isOpen, ?_, calls ++ others, ?_, ?_⟩
  · rw [after.answered, before.answered, List.append_assoc]
  · rw [askedMore, asked, List.append_assoc]
  · rw [deferredMore, deferred, List.append_assoc]

/-- What a look through an open tap finds is recorded. -/
theorem take_tapped {look : τ → Receipt α × τ} {tap : Tap τ α} (isOpen : tap.IsOpen)
    {receipt : Receipt α} {later : Tap τ α} (looked : tap.take look = (receipt, later)) :
    later.IsOpen ∧ later.sent = tap.sent ∧ later.delivered = tap.delivered ++ receipt.found := by
  obtain ⟨uncut, sends⟩ := isOpen
  have isOpen : tap.IsOpen := ⟨uncut, sends⟩
  unfold Tap.take at looked
  rw [uncut, if_neg Bool.false_ne_true] at looked
  split at looked
  case h_1 =>
    obtain ⟨rfl, rfl⟩ := Prod.mk.inj looked
    exact ⟨⟨rfl, sends⟩, rfl, rfl⟩
  case h_2 =>
    split at looked
    case h_1 =>
      obtain ⟨rfl, rfl⟩ := Prod.mk.inj looked
      exact ⟨isOpen, rfl, (List.append_nil _).symm⟩
    case h_2 =>
      split at looked
      all_goals
        obtain ⟨rfl, rfl⟩ := Prod.mk.inj looked
        refine ⟨⟨rfl, sends⟩, rfl, ?_⟩
      · rfl
      · exact (List.append_nil _).symm
      · exact (List.append_nil _).symm

/-- A look that finds nothing to keep. -/
theorem Exchanges.look {look : τ → Receipt α × τ} {bridge : Bridge (Tap τ α) α}
    (isOpen : bridge.transport.IsOpen) {receipt : Receipt α} {later : Tap τ α}
    (looked : bridge.transport.take look = (receipt, later))
    (idle : ∀ message, receipt = .message message → message.called? = none) :
    Exchanges bridge [] { bridge with transport := later } := by
  obtain ⟨laterOpen, sent, delivered⟩ := take_tapped isOpen looked
  have silent : receipt.found.filterMap WorkerMessage.called? = [] := by
    cases receipt with
    | message message => rw [Receipt.found, List.filterMap_cons, idle message rfl]; rfl
    | nothing => rfl
    | disconnected => rfl
  refine ⟨laterOpen, ?_, [], ?_, (List.append_nil _).symm⟩
  · rw [Bridge.answered, sent, List.append_nil, Bridge.answered]
  · rw [Bridge.asked, delivered, List.filterMap_append, silent, Bridge.asked]

/-- A message that is kept for later. -/
theorem Exchanges.keep {look : τ → Receipt α × τ} {bridge : Bridge (Tap τ α) α}
    (isOpen : bridge.transport.IsOpen) {message : WorkerMessage α} {later : Tap τ α}
    (looked : bridge.transport.take look = (.message message, later)) :
    Exchanges bridge []
      { bridge with transport := later, backlog := bridge.backlog ++ [message] } := by
  obtain ⟨laterOpen, sent, delivered⟩ := take_tapped isOpen looked
  refine ⟨laterOpen, ?_, [message].filterMap WorkerMessage.called?, ?_, List.filterMap_append⟩
  · rw [Bridge.answered, sent, List.append_nil, Bridge.answered]
  · rw [Bridge.asked, delivered, List.filterMap_append, Receipt.found, Bridge.asked]

variable [Transport τ α]

/-- Sending through an open tap succeeds and is recorded. -/
theorem send_tapped (reliable : Reliable τ) {tap : Tap τ α} (isOpen : tap.IsOpen)
    (message : HostMessage α) :
    ∃ later, Transport.send message tap = (true, later) ∧ later.IsOpen ∧
      later.sent = tap.sent ++ [message] ∧ later.delivered = tap.delivered := by
  obtain ⟨uncut, sends⟩ := isOpen
  have sent : Transport.send message tap = tap.send message := rfl
  have passes : (tap.isCut || tap.refusesSends) = false := by rw [uncut, sends]; rfl
  rw [sent, Tap.send, passes, if_neg Bool.false_ne_true]
  cases tap.behind with
  | none =>
    exact ⟨{ tap with behind := none, sent := tap.sent ++ [message] }, rfl, ⟨uncut, sends⟩,
      rfl, rfl⟩
  | some transport =>
    have succeeds := reliable message transport
    dsimp only
    generalize Transport.send message transport = outcome at succeeds ⊢
    obtain ⟨passed, later⟩ := outcome
    obtain rfl : passed = true := succeeds
    exact ⟨{ tap with behind := some later, sent := tap.sent ++ [message] }, rfl,
      ⟨uncut, sends⟩, rfl, rfl⟩

/-- Posting sends one message and hears nothing. -/
theorem post_exchanges (reliable : Reliable τ) {bridge : Bridge (Tap τ α) α}
    (isOpen : bridge.transport.IsOpen) (message : HostMessage α) :
    (bridge.post message).1 = .ok () ∧
      Exchanges bridge message.answered?.toList (bridge.post message).2 := by
  obtain ⟨later, sent, laterOpen, recorded, kept⟩ := send_tapped reliable isOpen message
  rw [post, sent]
  refine ⟨rfl, laterOpen, ?_, [], ?_, (List.append_nil _).symm⟩
  · rw [Bridge.answered, recorded, List.filterMap_append]
    cases answers : message.answered? <;> simp [Bridge.answered, answers]
  · rw [Bridge.asked, kept, List.append_nil, Bridge.asked]

/-- Waiting for a reply defers every call that comes instead. -/
theorem awaitReply_exchanges (token : Token) (request : String) (deadline : Nat)
    {bridge : Bridge (Tap τ α) α} (isOpen : bridge.transport.IsOpen) :
    Exchanges bridge [] (awaitReply token request deadline bridge).2 := by
  fun_induction awaitReply token request deadline bridge with
  | case1 bridge transport arrived => exact .look isOpen arrived fun _ same => by cases same
  | case2 bridge transport arrived => exact .look isOpen arrived fun _ same => by cases same
  | case3 bridge message transport arrived answers =>
    refine .look isOpen arrived fun other same => ?_
    obtain rfl := Receipt.message.inj same
    exact called_of_replyToken answers
  | case4 bridge message transport arrived other kept late => exact .keep isOpen arrived
  | case5 bridge message transport arrived other kept early inductionHypothesis =>
    have keeps : Exchanges bridge [] kept := .keep isOpen arrived
    exact keeps.trans (inductionHypothesis keeps.isOpen)

/-- A request sends one message and defers calls. -/
theorem request_exchanges (reliable : Reliable τ) {bridge : Bridge (Tap τ α) α}
    (isOpen : bridge.transport.IsOpen) (build : Token → HostMessage α)
    (silent : ∀ token, (build token).answered? = none) :
    Exchanges bridge [] (bridge.request build).2 := by
  have named : Exchanges bridge [] { bridge with tokens := bridge.tokens.next.2 } :=
    ⟨isOpen, (List.append_nil _).symm, [], (List.append_nil _).symm, (List.append_nil _).symm⟩
  obtain ⟨sent, posts⟩ := post_exchanges reliable named.isOpen (build bridge.tokens.next.1)
  rw [silent] at posts
  unfold request
  dsimp only
  generalize post { bridge with tokens := bridge.tokens.next.2 } _ = posted at sent posts
  obtain ⟨outcome, later⟩ := posted
  obtain rfl : outcome = .ok () := sent
  exact (named.trans posts).trans (awaitReply_exchanges _ _ _ posts.isOpen)

/-- To ask for the starts of a hat answers no call and hands out none. -/
theorem startHats_exchanges (reliable : Reliable τ) {bridge : Bridge (Tap τ α) α}
    (isOpen : bridge.transport.IsOpen) (hat : String) (option : Option String)
    (starts : List ThreadStart) : Exchanges bridge [] (bridge.startHats hat option starts).2 := by
  rw [startHats_bridge]
  exact request_exchanges reliable isOpen (fun token => .startHats token hat option starts)
    fun _ => rfl

/-- To register a unit answers no call and hands out none. -/
theorem register_exchanges (reliable : Reliable τ) {bridge : Bridge (Tap τ α) α}
    (isOpen : bridge.transport.IsOpen) (unit : LinkedUnit) :
    Exchanges bridge [] (bridge.register unit).2 := by
  rw [register_bridge]
  exact request_exchanges reliable isOpen (fun token => .register token unit) fun _ => rfl

/-- A call that is handed out was deferred, or it has just been delivered. -/
structure HandsOut (before : Bridge (Tap τ α) α) (message : WorkerMessage α)
    (after : Bridge (Tap τ α) α) : Prop where
  isOpen : after.transport.IsOpen
  answered : after.answered = before.answered
  moved : (after.asked = before.asked ∧
      before.deferred = message.called?.toList ++ after.deferred) ∨
    (after.asked = before.asked ++ message.called?.toList ∧ after.deferred = before.deferred)

/-- The next message is handed out, from the backlog or as it is received. -/
theorem next_handsOut {bridge later : Bridge (Tap τ α) α} {message : WorkerMessage α}
    (isOpen : bridge.transport.IsOpen) (received : bridge.next = (.message message, later)) :
    HandsOut bridge message later := by
  have single : ∀ message : WorkerMessage α, [message].filterMap WorkerMessage.called? =
      message.called?.toList := by
    intro message
    cases called : message.called? <;> simp [called]
  unfold next at received
  split at received
  case h_1 first rest kept =>
    obtain ⟨same, rfl⟩ := Prod.mk.inj received
    obtain rfl := Receipt.message.inj same
    refine ⟨isOpen, rfl, Or.inl ⟨rfl, ?_⟩⟩
    rw [deferred, kept, ← List.singleton_append, List.filterMap_append, single, deferred]
  case h_2 =>
    split at received
    case h_1 receipt transport looked =>
      obtain ⟨rfl, rfl⟩ := Prod.mk.inj received
      obtain ⟨laterOpen, sent, delivered⟩ := take_tapped isOpen looked
      refine ⟨laterOpen, ?_, Or.inr ⟨?_, rfl⟩⟩
      · rw [answered, sent, answered]
      · rw [asked, delivered, List.filterMap_append, Receipt.found, single, asked]

/-- A look that hands out nothing changes no record. -/
theorem next_idle {bridge later : Bridge (Tap τ α) α} {receipt : Receipt α}
    (isOpen : bridge.transport.IsOpen) (looked : bridge.next = (receipt, later))
    (idle : ∀ message, receipt ≠ .message message) : Exchanges bridge [] later := by
  unfold next at looked
  split at looked
  case h_1 =>
    obtain ⟨rfl, -⟩ := Prod.mk.inj looked
    exact absurd rfl (idle _)
  case h_2 =>
    split at looked
    case h_1 found transport taken =>
      obtain ⟨rfl, rfl⟩ := Prod.mk.inj looked
      exact .look isOpen taken fun message same => absurd same (idle message)

end Bridge

end SpriteMachine
