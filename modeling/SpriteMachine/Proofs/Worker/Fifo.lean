import SpriteMachine.Proofs.Worker.Tapped
import SpriteMachine.Worker.Inline
import SpriteMachine.Worker.Scheduled

/-!
# First in, first out

A transport is first in, first out when its messages are heard in the order in which they
were produced and none is lost; more may be produced at any moment. The inline transport is
so, and so is a link with any schedule. A tap records what it delivers: what was produced
is that record, followed by what is still held.
-/

namespace SpriteMachine

/-- A list consists of two others, each in its order. -/
inductive Merges {β : Type} : List β → List β → List β → Prop where
  | nil : Merges [] [] []
  | left (item : β) {whole left right : List β} (rest : Merges whole left right) :
      Merges (item :: whole) (item :: left) right
  | right (item : β) {whole left right : List β} (rest : Merges whole left right) :
      Merges (item :: whole) left (item :: right)

namespace Merges

variable {β : Type} {whole left right : List β}

/-- A list consists of nothing and itself. -/
theorem right_only (items : List β) : Merges items [] items := by
  induction items with
  | nil => exact .nil
  | cons first rest inductionHypothesis => exact .right first inductionHypothesis

/-- Lists that are merged piece by piece are merged as a whole. -/
theorem append {others before after : List β} (first : Merges whole left right)
    (second : Merges others before after) :
    Merges (whole ++ others) (left ++ before) (right ++ after) := by
  induction first with
  | nil => exact second
  | left item rest inductionHypothesis => exact .left item inductionHypothesis
  | right item rest inductionHypothesis => exact .right item inductionHypothesis

/-- Items that none of the first list is like are all in the second one. -/
theorem filter_eq (merges : Merges whole left right) {test : β → Bool}
    (apart : ∀ item ∈ left, test item = false) : whole.filter test = right.filter test := by
  induction merges with
  | nil => rfl
  | left item rest inductionHypothesis =>
    rw [List.filter_cons_of_neg (by simp [apart item List.mem_cons_self]),
      inductionHypothesis fun other member => apart other (List.mem_cons_of_mem _ member)]
  | right item rest inductionHypothesis =>
    rw [List.filter_cons, List.filter_cons, inductionHypothesis apart]

end Merges

section Fifo

variable {τ α : Type} (produced held : τ → List (WorkerMessage α))

/-- One state of a transport becomes another by hearing messages: those heard were held
longest, and what was produced meanwhile is held behind the others. -/
def Flows (before : τ) (heard : List (WorkerMessage α)) (after : τ) : Prop :=
  ∃ new, produced after = produced before ++ new ∧ held before ++ new = heard ++ held after

/-- A transport that is first in, first out, told by all that was produced in a state and
by what is still held in it. -/
structure Fifo [Transport τ α] : Prop where
  send : ∀ message state, Flows produced held state [] (Transport.send message state).2
  receive : ∀ state, Flows produced held state (Transport.receive state).1.found
    (Transport.receive state).2
  await : ∀ limit state, Flows produced held state (Transport.await limit state).1.found
    (Transport.await limit state).2

variable {produced held}

/-- Nothing is heard where nothing happens. -/
theorem Flows.refl (state : τ) : Flows produced held state [] state :=
  ⟨[], (List.append_nil _).symm, by rw [List.append_nil, List.nil_append]⟩

/-- What is heard in two stretches is heard in order. -/
theorem Flows.trans {first second third : τ} {heard later : List (WorkerMessage α)}
    (before : Flows produced held first heard second)
    (after : Flows produced held second later third) :
    Flows produced held first (heard ++ later) third := by
  obtain ⟨new, grown, kept⟩ := before
  obtain ⟨more, grownOn, keptOn⟩ := after
  refine ⟨new ++ more, ?_, ?_⟩
  · rw [grownOn, grown, List.append_assoc]
  · rw [← List.append_assoc, kept, List.append_assoc, keptOn, List.append_assoc]

end Fifo

/-- A transport holds its messages in order: what is heard was held longest, and what is
new stands behind the others. -/
structure Queues {τ α : Type} [Transport τ α] (held : τ → List (WorkerMessage α)) : Prop where
  send : ∀ message state, ∃ new,
    held (Transport.send message state).2 = held state ++ new
  receive : ∀ state, ∃ new, held state ++ new =
    (Transport.receive state).1.found ++ held (Transport.receive state).2
  await : ∀ limit state, ∃ new, held state ++ new =
    (Transport.await limit state).1.found ++ held (Transport.await limit state).2

namespace Inline

variable {α : Type}

/-- Receiving finds what stands first in the outbox, and new messages stand behind. -/
theorem receive_found (state : Inline α) : ∃ new, state.outbox ++ new =
    state.receive.1.found ++ state.receive.2.outbox := by
  have order : ∃ new, state.outbox ++ new = state.refill.outbox := by
    unfold refill
    split
    case isTrue empty =>
      rw [List.isEmpty_iff.mp empty]
      exact ⟨_, rfl⟩
    case isFalse => exact ⟨[], List.append_nil _⟩
  obtain ⟨new, filled⟩ := order
  refine ⟨new, filled.trans ?_⟩
  unfold receive
  dsimp only
  split
  case h_1 kept =>
    rw [kept]
    rfl
  case h_2 kept =>
    rw [kept]
    rfl

/-- The inline transport holds nothing back. -/
theorem outbox_of_idle {state : Inline α} (idle : state.receive.1.found = []) :
    state.outbox = [] := by
  cases waits : state.outbox with
  | nil => rfl
  | cons first rest =>
    have found : state.receive.1.found = [first] := by simp [receive, refill, waits, Receipt.found]
    rw [found] at idle
    cases idle

variable [Scalar α]

/-- The inline transport queues what the worker sends. -/
theorem queues : Queues (Inline.outbox : Inline α → List (WorkerMessage α)) where
  send _ _ := ⟨_, rfl⟩
  receive := receive_found
  await _ := receive_found

end Inline

namespace Scheduled

variable {α : Type} [Scalar α]

/-- The messages on their way to the host. -/
def outbound (state : Scheduled α) : List (WorkerMessage α) := state.link.outbound

/-- Asking a link finds the message that was outbound longest. -/
theorem ask_found (moment : Nat) (turns : List Turn) (link : Link α) :
    ∃ new, link.outbound ++ new =
      (ask moment turns link).1.found ++ (ask moment turns link).2.outbound := by
  fun_induction ask moment turns link with
  | case1 link => exact ⟨[], List.append_nil _⟩
  | case2 now turns worker outbound inductionHypothesis => exact inductionHypothesis
  | case3 now turns worker outbound first inbound inductionHypothesis =>
    obtain ⟨new, order⟩ := inductionHypothesis
    exact ⟨_, (List.append_assoc _ _ _).symm.trans order⟩
  | case4 now turns worker inbound outbound inductionHypothesis =>
    obtain ⟨new, order⟩ := inductionHypothesis
    exact ⟨_, (List.append_assoc _ _ _).symm.trans order⟩
  | case5 turns worker inbound => exact ⟨[], rfl⟩
  | case6 turns worker inbound first outbound => exact ⟨[], List.append_nil _⟩
  | case7 turns link => exact ⟨[], List.append_nil _⟩
  | case8 turns link => exact ⟨[], List.append_nil _⟩

/-- A link queues what its worker sends, whatever its schedule. -/
theorem queues : Queues (Scheduled.outbound : Scheduled α → List (WorkerMessage α)) where
  send _ _ := ⟨[], (List.append_nil _).symm⟩
  receive _ := ask_found _ _ _
  await _ _ := ask_found _ _ _

end Scheduled

namespace Tap

variable {τ α : Type}

/-- What a tap holds: the messages put in, before those of the transport. -/
def held (behind : τ → List (WorkerMessage α)) (tap : Tap τ α) : List (WorkerMessage α) :=
  tap.injected ++ tap.behind.elim [] behind

/-- What has been produced for a tap so far. -/
def produced (behind : τ → List (WorkerMessage α)) (tap : Tap τ α) : List (WorkerMessage α) :=
  tap.delivered ++ tap.held behind

/-- What a tap hears is recorded, and it was held longest. -/
theorem take_held {behind : τ → List (WorkerMessage α)} {look : τ → Receipt α × τ}
    (finds : ∀ state, ∃ new, behind state ++ new = (look state).1.found ++ behind (look state).2)
    (tap : Tap τ α) :
    (tap.take look).2.delivered = tap.delivered ++ (tap.take look).1.found ∧
      ∃ new, tap.held behind ++ new = (tap.take look).1.found ++ (tap.take look).2.held behind := by
  unfold take
  split
  case isTrue => exact ⟨(List.append_nil _).symm, [], List.append_nil _⟩
  case isFalse =>
    split
    case h_1 first rest waits =>
      refine ⟨rfl, [], ?_⟩
      rw [held, waits, List.append_nil]
      rfl
    case h_2 none =>
      split
      case h_1 => exact ⟨(List.append_nil _).symm, [], List.append_nil _⟩
      case h_2 transport stands =>
        obtain ⟨new, order⟩ := finds transport
        generalize look transport = looked at order
        obtain ⟨receipt, later⟩ := looked
        have holds : tap.held behind = behind transport := by rw [held, none, stands]; rfl
        rw [holds]
        cases receipt with
        | message message => exact ⟨rfl, new, by simpa [held, none] using order⟩
        | nothing => exact ⟨(List.append_nil _).symm, new, by simpa [held, none] using order⟩
        | disconnected => exact ⟨(List.append_nil _).symm, new, by simpa [held, none] using order⟩

/-- Hearing something does not cut a tap. -/
theorem take_isCut (look : τ → Receipt α × τ) (tap : Tap τ α) :
    (tap.take look).2.isCut = tap.isCut := by
  unfold take
  split
  case isTrue => rfl
  case isFalse =>
    split
    case h_1 => rfl
    case h_2 =>
      split
      case h_1 => rfl
      case h_2 => split <;> rfl

/-- A tap that is not cut holds back only what the transport behind it does. -/
theorem held_of_idle {behind : τ → List (WorkerMessage α)} {look : τ → Receipt α × τ}
    (lets : ∀ state, (look state).1.found = [] → behind state = []) {tap : Tap τ α}
    (uncut : tap.isCut = false) (idle : (tap.take look).1.found = []) :
    tap.held behind = [] := by
  cases waits : tap.injected with
  | cons first rest =>
    have found : (tap.take look).1.found = [first] := by simp [take, uncut, waits, Receipt.found]
    rw [found] at idle
    cases idle
  | nil =>
    rw [held, waits, List.nil_append]
    cases stands : tap.behind with
    | none => rfl
    | some transport =>
      have found : (tap.take look).1.found = (look transport).1.found := by
        simp only [take, uncut, waits, stands]
        generalize look transport = looked
        obtain ⟨receipt, later⟩ := looked
        cases receipt <;> rfl
      exact lets transport (found.symm.trans idle)

/-- What is heard and recorded is what was produced first. -/
theorem flows_of_held {behind : τ → List (WorkerMessage α)} {before after : Tap τ α}
    {heard : List (WorkerMessage α)} (recorded : after.delivered = before.delivered ++ heard)
    (order : ∃ new, before.held behind ++ new = heard ++ after.held behind) :
    Flows (produced behind) (held behind) before heard after := by
  obtain ⟨new, order⟩ := order
  refine ⟨new, ?_, order⟩
  rw [produced, produced, recorded, List.append_assoc, ← order, List.append_assoc]

variable [Transport τ α]

/-- A tap hands out nothing while it sends. -/
theorem send_held {behind : τ → List (WorkerMessage α)} (queues : Queues behind)
    (message : HostMessage α) (tap : Tap τ α) :
    (tap.send message).2.delivered = tap.delivered ∧
      ∃ new, tap.held behind ++ new = (tap.send message).2.held behind := by
  unfold send
  split
  case isTrue => exact ⟨rfl, [], List.append_nil _⟩
  case isFalse =>
    split
    case h_1 stands => exact ⟨rfl, [], List.append_nil _⟩
    case h_2 transport stands =>
      obtain ⟨new, grown⟩ := queues.send message transport
      generalize Transport.send message transport = outcome at grown
      obtain ⟨passed, later⟩ := outcome
      cases passed <;> exact ⟨rfl, new, by simp [held, stands, ← grown, List.append_assoc]⟩

/-- A tap on a transport that queues is first in, first out. -/
theorem fifo {behind : τ → List (WorkerMessage α)} (queues : Queues behind) :
    Fifo (produced behind) (held behind) where
  send message tap := by
    obtain ⟨recorded, order⟩ := send_held queues message tap
    exact flows_of_held (recorded.trans (List.append_nil _).symm) order
  receive tap := by
    obtain ⟨recorded, order⟩ := take_held queues.receive tap
    exact flows_of_held recorded order
  await limit tap := by
    obtain ⟨recorded, order⟩ := take_held (queues.await limit) tap
    exact flows_of_held recorded order

end Tap

end SpriteMachine
