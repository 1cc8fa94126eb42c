import Mathlib.Data.List.Nodup
import Mathlib.Logic.Function.Iterate
import Mathlib.Logic.Relation
import SpriteMachine.Number.Exact
import SpriteMachine.Proofs.Identifier
import SpriteMachine.Proofs.Worker.Fifo

/-!
# What becomes of the messages of a worker

On a transport that is first in, first out a host calls its bridge as it likes: it asks for
the next message, posts, and makes requests that succeed or give up.

Whatever a request hears is its reply or goes to the backlog, and the backlog is handed out
before anything newer. So at each moment the messages handed out, the backlog and what the
transport still holds are, in this order, all messages that were produced but for the
replies that requests gave back. Tokens are never issued twice, so a reply that comes too
late is no one's answer.
-/

namespace SpriteMachine

namespace Bridge

variable {τ α : Type} [Transport τ α] {produced held : τ → List (WorkerMessage α)}

/-- The reply that a request gives back, if it does not give up. -/
def reply : Except BridgeFault (WorkerMessage α) → List (WorkerMessage α)
  | .ok message => [message]
  | .error _ => []

/-- Waiting on a bridge keeps what is heard, up to the reply with a token if it comes. -/
structure Waits (produced held : τ → List (WorkerMessage α)) (token : Token)
    (before : Bridge τ α) (outcome : Except BridgeFault (WorkerMessage α))
    (after : Bridge τ α) : Prop where
  heard : ∃ kept, after.backlog = before.backlog ++ kept ∧
    Flows produced held before.transport (kept ++ reply outcome) after.transport
  own : ∀ message, outcome = .ok message → message.replyToken? = some token

omit [Transport τ α] in
/-- What was put into the backlog before a wait stands in front of what it keeps. -/
theorem Waits.later {token : Token} {before here after : Bridge τ α}
    {outcome : Except BridgeFault (WorkerMessage α)} {first : List (WorkerMessage α)}
    (waits : Waits produced held token here outcome after)
    (backlog : here.backlog = before.backlog ++ first)
    (flows : Flows produced held before.transport first here.transport) :
    Waits produced held token before outcome after := by
  obtain ⟨⟨kept, others, rest⟩, own⟩ := waits
  refine ⟨⟨first ++ kept, by rw [others, backlog, List.append_assoc], ?_⟩, own⟩
  rw [List.append_assoc]
  exact flows.trans rest

/-- A wait for a reply keeps what it hears and issues no token, by induction on its looks. -/
theorem awaitReply_waits (fifo : Fifo produced held) (token : Token) (request : String)
    (deadline : Nat) (bridge : Bridge τ α) :
    Waits produced held token bridge (awaitReply token request deadline bridge).1
        (awaitReply token request deadline bridge).2 ∧
      (awaitReply token request deadline bridge).2.tokens = bridge.tokens := by
  fun_induction awaitReply token request deadline bridge with
  | case1 bridge transport arrived =>
    have looks := fifo.await (deadline - Transport.moment bridge.transport) bridge.transport
    rw [arrived] at looks
    exact ⟨⟨⟨[], (List.append_nil _).symm, looks⟩, fun _ gaveUp => by cases gaveUp⟩, rfl⟩
  | case2 bridge transport arrived =>
    have looks := fifo.await (deadline - Transport.moment bridge.transport) bridge.transport
    rw [arrived] at looks
    exact ⟨⟨⟨[], (List.append_nil _).symm, looks⟩, fun _ gaveUp => by cases gaveUp⟩, rfl⟩
  | case3 bridge message transport arrived answers =>
    have looks := fifo.await (deadline - Transport.moment bridge.transport) bridge.transport
    rw [arrived] at looks
    refine ⟨⟨⟨[], (List.append_nil _).symm, looks⟩, fun other same => ?_⟩, rfl⟩
    rw [← Except.ok.inj same]
    exact answers
  | case4 bridge message transport arrived other kept late =>
    have looks := fifo.await (deadline - Transport.moment bridge.transport) bridge.transport
    rw [arrived] at looks
    exact ⟨⟨⟨[message], rfl, looks⟩, fun _ gaveUp => by cases gaveUp⟩, rfl⟩
  | case5 bridge message transport arrived other kept early inductionHypothesis =>
    have looks := fifo.await (deadline - Transport.moment bridge.transport) bridge.transport
    rw [arrived] at looks
    exact ⟨inductionHypothesis.1.later rfl looks, inductionHypothesis.2⟩

/-- A request waits for a reply with the token that it issues. -/
theorem request_waits (fifo : Fifo produced held) (bridge : Bridge τ α)
    (build : Token → HostMessage α) :
    Waits produced held bridge.tokens.next.1 bridge (bridge.request build).1
        (bridge.request build).2 ∧
      (bridge.request build).2.tokens = bridge.tokens.next.2 := by
  have sends := fifo.send (build bridge.tokens.next.1) bridge.transport
  unfold request post
  dsimp only
  generalize Transport.send (build bridge.tokens.next.1) bridge.transport = outcome at sends
  obtain ⟨passed, transport⟩ := outcome
  cases passed with
  | false => exact ⟨⟨⟨[], (List.append_nil _).symm, sends⟩, fun _ gaveUp => by cases gaveUp⟩, rfl⟩
  | true =>
    obtain ⟨waits, tokens⟩ := awaitReply_waits fifo bridge.tokens.next.1
      (build bridge.tokens.next.1).kind (Transport.moment transport + bridge.timeout)
      { bridge with tokens := bridge.tokens.next.2, transport := transport }
    exact ⟨waits.later (List.append_nil _).symm sends, tokens⟩

/-- The next message is the first of the backlog or, when nothing is kept, the next one
that is heard. -/
theorem next_cases (bridge : Bridge τ α) :
    (∃ first rest, bridge.backlog = first :: rest ∧
        bridge.next = (.message first, { bridge with backlog := rest })) ∨
      bridge.backlog = [] ∧ bridge.next = ((Transport.receive bridge.transport).1,
        { bridge with transport := (Transport.receive bridge.transport).2 }) := by
  unfold next
  cases kept : bridge.backlog with
  | cons first rest => exact Or.inl ⟨first, rest, rfl, rfl⟩
  | nil => exact Or.inr ⟨rfl, rfl⟩

end Bridge

/-- What a host does with a bridge. -/
inductive BridgeCall (α : Type) where
  | next
  | post (message : HostMessage α)
  | request (build : Token → HostMessage α)

/-- A bridge together with what became of the calls on it so far: the messages handed out,
the tokens of the requests that were answered with their replies, and the tokens of those
that gave up. -/
structure Conversation (τ α : Type) where
  bridge : Bridge τ α
  handed : List (WorkerMessage α)
  answers : List (Token × WorkerMessage α)
  abandoned : List Token

namespace Conversation

variable {τ α : Type}

/-- A conversation that has not begun. -/
def opening (transport : τ) (timeout : Nat) : Conversation τ α :=
  ⟨.across transport timeout, [], [], []⟩

/-- The messages that wait to be handed out. -/
def waiting (held : τ → List (WorkerMessage α)) (now : Conversation τ α) :
    List (WorkerMessage α) :=
  now.bridge.backlog ++ held now.bridge.transport

variable [Transport τ α]

/-- One call. -/
def call (now : Conversation τ α) : BridgeCall α → Conversation τ α
  | .next =>
    { now with bridge := now.bridge.next.2, handed := now.handed ++ now.bridge.next.1.found }
  | .post message => { now with bridge := (now.bridge.post message).2 }
  | .request build =>
    match now.bridge.request build with
    | (.ok reply, bridge) =>
      { now with bridge := bridge, answers := now.answers ++ [(now.bridge.tokens.next.1, reply)] }
    | (.error _, bridge) =>
      { now with bridge := bridge, abandoned := now.abandoned ++ [now.bridge.tokens.next.1] }

variable (produced held : τ → List (WorkerMessage α))

/-- What happens next: a call, or the backend produces something on its own. -/
inductive Step : Conversation τ α → Conversation τ α → Prop where
  | call (now : Conversation τ α) (made : BridgeCall α) : Step now (now.call made)
  | meanwhile (now : Conversation τ α) (transport : τ)
      (grows : Flows produced held now.bridge.transport [] transport) :
      Step now { now with bridge := { now.bridge with transport := transport } }

/-- Every message that was heard is an answer, was handed out or is kept, in this order;
every answer carries the token of its own request; and no two requests share a token. -/
structure Accounts (now : Conversation τ α) : Prop where
  heard : ∃ taken, taken ++ held now.bridge.transport = produced now.bridge.transport ∧
    Merges taken (now.answers.map Prod.snd) (now.handed ++ now.bridge.backlog)
  own : ∀ answer ∈ now.answers, answer.2.replyToken? = some answer.1
  issued : ∀ token ∈ now.answers.map Prod.fst ++ now.abandoned,
    now.bridge.tokens.HasIssued token
  distinct : (now.answers.map Prod.fst ++ now.abandoned).Nodup

variable {produced held}

omit [Transport τ α] in
/-- Messages that are heard without being an answer are handed out or kept. -/
theorem Accounts.hears {now : Conversation τ α} (accounts : Accounts produced held now)
    {kept handed backlog : List (WorkerMessage α)} {transport : τ}
    (flows : Flows produced held now.bridge.transport kept transport)
    (moved : handed ++ backlog = now.handed ++ now.bridge.backlog ++ kept) :
    Accounts produced held { now with
      handed := handed
      bridge := { now.bridge with backlog := backlog, transport := transport } } := by
  obtain ⟨⟨taken, whole, merges⟩, own, issued, distinct⟩ := accounts
  obtain ⟨new, grown, order⟩ := flows
  refine ⟨⟨taken ++ kept, ?_, ?_⟩, own, issued, distinct⟩
  · rw [grown, ← whole, List.append_assoc, List.append_assoc, order]
  · have further := merges.append (.right_only kept)
    rw [List.append_nil, ← moved] at further
    exact further

/-- Handing out a message keeps the account, whether it comes from the backlog or is received. -/
theorem Accounts.next {now : Conversation τ α} (fifo : Fifo produced held)
    (accounts : Accounts produced held now) : Accounts produced held (now.call .next) := by
  rw [call]
  rcases now.bridge.next_cases with ⟨first, rest, kept, hands⟩ | ⟨empty, hands⟩
  · rw [hands]
    refine accounts.hears (.refl _) ?_
    rw [kept, List.append_nil, Receipt.found, List.append_assoc, List.singleton_append]
  · rw [hands]
    refine accounts.hears (fifo.receive now.bridge.transport) ?_
    rw [empty, List.append_nil, List.append_nil]

/-- A message to the worker takes nothing out of the account. -/
theorem Accounts.post {now : Conversation τ α} (fifo : Fifo produced held)
    (accounts : Accounts produced held now) (message : HostMessage α) :
    Accounts produced held (now.call (.post message)) := by
  have sends := fifo.send message now.bridge.transport
  rw [call, Bridge.post]
  generalize Transport.send message now.bridge.transport = outcome at sends
  obtain ⟨passed, transport⟩ := outcome
  cases passed <;> exact accounts.hears sends (List.append_nil _).symm

/-- A request keeps the account: its reply is an answer under a token of its own, and if it gives
up, the token is spent. -/
theorem Accounts.request {now : Conversation τ α} (fifo : Fifo produced held)
    (accounts : Accounts produced held now) (build : Token → HostMessage α) :
    Accounts produced held (now.call (.request build)) := by
  obtain ⟨⟨⟨kept, backlog, new, grown, order⟩, own⟩, tokens⟩ :=
    Bridge.request_waits fifo now.bridge build
  obtain ⟨⟨taken, whole, merges⟩, owned, issued, distinct⟩ := accounts
  have fresh : now.bridge.tokens.next.1 ∉ now.answers.map Prod.fst ++ now.abandoned :=
    fun member => now.bridge.tokens.next_fresh (issued _ member)
  have issuedNow : ∀ token, token = now.bridge.tokens.next.1 ∨
      token ∈ now.answers.map Prod.fst ++ now.abandoned →
        (now.bridge.request build).2.tokens.HasIssued token := by
    rw [tokens]
    rintro token (rfl | before)
    · exact now.bridge.tokens.next_issued
    · exact (issued token before).next
  have heardNow : taken ++ (kept ++ Bridge.reply (now.bridge.request build).1) ++
      held (now.bridge.request build).2.transport =
        produced (now.bridge.request build).2.transport := by
    rw [grown, ← whole, List.append_assoc taken (held _), order, List.append_assoc]
  have mergesKept := merges.append (.right_only kept)
  rw [List.append_nil, List.append_assoc, ← backlog] at mergesKept
  rw [call]
  generalize now.bridge.request build = result at *
  obtain ⟨outcome, later⟩ := result
  cases outcome with
  | ok message =>
    refine ⟨⟨_, heardNow, ?_⟩, ?_, ?_, ?_⟩
    · have answered := mergesKept.append (.left message .nil)
      simpa [Bridge.reply, List.append_assoc] using answered
    · intro answer member
      rcases List.mem_append.mp member with before | last
      · exact owned answer before
      · rw [List.mem_singleton.mp last]
        exact own message rfl
    · intro token member
      refine issuedNow token ?_
      rw [List.map_append, List.append_assoc] at member
      exact List.mem_cons.mp (List.perm_middle.mem_iff.mp member)
    · rw [List.map_append, List.append_assoc]
      exact List.nodup_middle.mpr (List.nodup_cons.mpr ⟨fresh, distinct⟩)
  | error fault =>
    refine ⟨⟨_, heardNow, ?_⟩, owned, ?_, ?_⟩
    · simpa [Bridge.reply] using mergesKept
    · intro token member
      refine issuedNow token ?_
      rw [← List.append_assoc, List.mem_append, List.mem_singleton] at member
      exact member.symm
    · rw [← List.append_assoc]
      exact List.nodup_append.mpr ⟨distinct, List.nodup_singleton _, by
        rintro token before other last rfl
        exact fresh (List.mem_singleton.mp last ▸ before)⟩

/-- Whatever happens, the accounts stay right. -/
theorem Step.accounts (fifo : Fifo produced held) {now later : Conversation τ α}
    (step : Step produced held now later) (accounts : Accounts produced held now) :
    Accounts produced held later := by
  cases step with
  | call made =>
    cases made with
    | next => exact accounts.next fifo
    | post message => exact accounts.post fifo message
    | request build => exact accounts.request fifo build
  | meanwhile transport grows => exact accounts.hears grows (List.append_nil _).symm

/-- Calls one after another. -/
theorem reaches (now : Conversation τ α) (calls : List (BridgeCall α)) :
    Relation.ReflTransGen (Step produced held) now (calls.foldl call now) := by
  induction calls generalizing now with
  | nil => exact .refl
  | cons first rest inductionHypothesis =>
    exact .head (.call now first) (inductionHypothesis (now.call first))

/-- Asking for a message hands out what waits longest, if it hands out anything. -/
theorem next_waiting (fifo : Fifo produced held) (now : Conversation τ α) :
    ∃ new, now.waiting held ++ new = now.bridge.next.1.found ++ (now.call .next).waiting held ∧
      (now.bridge.next.1.found = [] → now.bridge.backlog = []) := by
  rw [call, waiting, waiting]
  rcases now.bridge.next_cases with ⟨first, rest, kept, hands⟩ | ⟨empty, hands⟩
  · refine ⟨[], ?_, fun nothing => ?_⟩
    · rw [hands, kept, List.append_nil]
      rfl
    · rw [hands] at nothing
      cases nothing
  · obtain ⟨new, -, order⟩ := fifo.receive now.bridge.transport
    refine ⟨new, ?_, fun _ => empty⟩
    rw [hands, empty, List.nil_append, order]
    simp

/-- A transport that, looked into again and again, finds something as long as it holds
something. -/
def Prompt (held : τ → List (WorkerMessage α)) (transport : τ) : Prop :=
  ∀ count, let later := (fun state => (Transport.receive state).2)^[count] transport
    (Transport.receive later).1.found = [] → held later = []

/-- The inline transport is prompt behind a tap that is not cut. -/
theorem prompt_inline {β : Type} [Scalar β] {tap : Tap (Inline β) β} (uncut : tap.isCut = false) :
    Prompt (Tap.held Inline.outbox) tap := by
  intro count
  induction count generalizing tap with
  | zero => exact Tap.held_of_idle (fun _ => Inline.outbox_of_idle) uncut
  | succ count inductionHypothesis =>
    rw [Function.iterate_succ_apply]
    exact inductionHypothesis ((Tap.take_isCut _ tap).trans uncut)

/-- On a prompt transport, asking again and again hands out what waits, in order. -/
theorem drain_hands (fifo : Fifo produced held) (count : Nat) (now : Conversation τ α)
    (prompt : Prompt held now.bridge.transport) (enough : count ≤ (now.waiting held).length) :
    ((fun now => call now .next)^[count] now).handed =
      now.handed ++ (now.waiting held).take count := by
  induction count generalizing now with
  | zero => simp
  | succ count inductionHypothesis =>
    rw [Function.iterate_succ_apply]
    obtain ⟨new, order, idle⟩ := now.next_waiting fifo
    have promptNext : Prompt held (now.call .next).bridge.transport := by
      rw [call]
      rcases now.bridge.next_cases with ⟨first, rest, kept, hands⟩ | ⟨empty, hands⟩
      · rw [hands]
        exact prompt
      · rw [hands]
        exact fun count => prompt (count + 1)
    have finds : now.bridge.next.1.found ≠ [] := by
      intro nothing
      have empty := idle nothing
      rcases now.bridge.next_cases with ⟨first, rest, kept, -⟩ | ⟨-, hands⟩
      · rw [kept] at empty
        cases empty
      · rw [hands] at nothing
        have none : held now.bridge.transport = [] := prompt 0 nothing
        rw [waiting, empty, none] at enough
        cases enough
    have handed : (now.call .next).handed = now.handed ++ now.bridge.next.1.found := rfl
    cases found : now.bridge.next.1 with
    | nothing => exact absurd (congrArg Receipt.found found) finds
    | disconnected => exact absurd (congrArg Receipt.found found) finds
    | message message =>
      rw [found, Receipt.found] at handed order
      cases waits : now.waiting held with
      | nil =>
        rw [waits] at enough
        cases enough
      | cons first rest =>
        rw [waits] at enough order
        obtain ⟨rfl, rest_eq⟩ := List.cons.inj order
        have others : rest ++ new = (now.call .next).waiting held := rest_eq
        have within : count ≤ rest.length := Nat.le_of_succ_le_succ enough
        rw [inductionHypothesis _ promptNext (by rw [← others, List.length_append]; omega),
          handed, ← others, List.take_append_of_le_length within, List.append_assoc]
        rfl

/-- The bridge keeps every message and its place. At each moment of a conversation over a
transport that is first in, first out:

* the messages handed out, those kept and those still held are, in this order, all messages
  that were produced but for the answers, which are in order as well;
* an answer carries the token of its own request, and no two requests share a token;
* the replies to a request that gave up are all among the messages handed out or waiting;
* asking for a message hands out the one that waits longest, and on a prompt transport
  asking again and again hands out all that wait. -/
theorem messages_keep_their_order (fifo : Fifo produced held) {transport : τ}
    (unused : held transport = produced transport) (timeout : Nat) {now : Conversation τ α}
    (reached : Relation.ReflTransGen (Step produced held) (opening transport timeout) now) :
    Merges (produced now.bridge.transport) (now.answers.map Prod.snd)
        (now.handed ++ now.waiting held) ∧
      (∀ answer ∈ now.answers, answer.2.replyToken? = some answer.1) ∧
      (now.answers.map Prod.fst ++ now.abandoned).Nodup ∧
      (∀ token ∈ now.abandoned,
        (produced now.bridge.transport).filter (·.replyToken? = some token) =
          (now.handed ++ now.waiting held).filter (·.replyToken? = some token)) ∧
      (∃ new, now.waiting held ++ new =
          now.bridge.next.1.found ++ (now.call .next).waiting held ∧
        (now.bridge.next.1.found = [] → now.bridge.backlog = [])) ∧
      (Prompt held now.bridge.transport →
        ((fun now => call now .next)^[(now.waiting held).length] now).handed =
          now.handed ++ now.waiting held) := by
  have accounts : Accounts produced held now := by
    induction reached with
    | refl => exact ⟨⟨[], unused, .nil⟩, fun _ none => (List.not_mem_nil none).elim,
        fun _ none => (List.not_mem_nil none).elim, List.nodup_nil⟩
    | tail _ step inductionHypothesis => exact step.accounts fifo inductionHypothesis
  obtain ⟨⟨taken, whole, merges⟩, own, -, distinct⟩ := accounts
  have all := merges.append (.right_only (held now.bridge.transport))
  rw [whole, List.append_nil, List.append_assoc] at all
  refine ⟨all, own, distinct, fun token gaveUp => all.filter_eq fun message answers => ?_,
    now.next_waiting fifo, fun prompt => ?_⟩
  · obtain ⟨answer, member, rfl⟩ := List.mem_map.mp answers
    rw [decide_eq_false_iff_not, own answer member]
    intro same
    have shared : answer.1 ∈ now.answers.map Prod.fst := List.mem_map.mpr ⟨answer, member, rfl⟩
    exact (List.nodup_append.mp distinct).2.2 _ shared token gaveUp (Option.some.inj same)
  · rw [drain_hands fifo _ now prompt (Nat.le_refl _), List.take_length]

/-- A host loads a unit and gives up before the reply comes, stops all threads, and starts
a hat. -/
def hastyCalls : List (BridgeCall Rat) :=
  [.request fun token => .register token ⟨"", .empty⟩, .post .stopAll,
    .request fun token => .startHats token "flag" none [], .next, .next]

/-- A worker on a link that delivers no reply in time at first, and all messages later. -/
def lateReplyLink : Tap (Scheduled Rat) Rat :=
  .fresh (some ⟨.idle none, [.handle 0, .deliver, .hold, .handle 0, .handle 0, .deliver, .deliver,
    .deliver], 0⟩)

/-- The late reply to the first request is handed out after the status that came before it,
and the second request gets its own reply. -/
theorem hastyCalls_keep_order :
    let now := hastyCalls.foldl call (opening lateReplyLink 100)
    Tap.held Scheduled.outbound lateReplyLink = Tap.produced Scheduled.outbound lateReplyLink ∧
      Relation.ReflTransGen
        (Step (Tap.produced Scheduled.outbound) (Tap.held Scheduled.outbound))
        (opening lateReplyLink 100) now ∧
      Merges (now.bridge.transport.produced Scheduled.outbound) (now.answers.map Prod.snd)
        (now.handed ++ now.waiting (Tap.held Scheduled.outbound)) ∧
      now.handed.map WorkerMessage.replyToken? = [none, some ⟨"h-0"⟩] ∧
      now.answers.map Prod.fst = [⟨"h-1"⟩] ∧ now.abandoned = [⟨"h-0"⟩] := by
  intro now
  have reached : Relation.ReflTransGen
      (Step (Tap.produced Scheduled.outbound) (Tap.held Scheduled.outbound))
      (opening lateReplyLink 100) now := reaches _ hastyCalls
  obtain ⟨merges, -⟩ := messages_keep_their_order (Tap.fifo Scheduled.queues) rfl 100 reached
  exact ⟨rfl, reached, merges, by decide +kernel, by decide +kernel, by decide +kernel⟩

end Conversation

end SpriteMachine
