import SpriteMachine.Worker.Link

/-!
# Links that take turns

A schedule says beforehand what happens one after another on a link: when the worker handles
its next message or looks at its deadlines, and what the host finds when it asks for a
message. Sending takes no turn; asking takes all turns up to the next one that answers. When
no turn is left, nothing arrives any more. So every interleaving has its schedule.
-/

namespace SpriteMachine

/-- What happens next on a link: the worker handles a message or looks at its deadlines at a
moment of its own, or the host gets the first message, no message, or word of a cut. -/
inductive Turn where
  | handle (now : Nat)
  | look (now : Nat)
  | deliver
  | hold
  | cut
deriving DecidableEq, Repr

/-- A link, what is still to happen on it, and the wall clock. -/
structure Scheduled (α : Type) where
  link : Link α
  turns : List Turn
  moment : Nat

namespace Scheduled

variable {α : Type} [Scalar α]

/-- Takes turns until one of them answers the host. -/
def ask (moment : Nat) : List Turn → Link α → Receipt α × Scheduled α
  | [], link => (.nothing, ⟨link, [], moment⟩)
  | .handle now :: turns, ⟨worker, inbound, outbound⟩ =>
    match inbound with
    | [] => ask moment turns ⟨worker, [], outbound⟩
    | message :: inbound =>
      ask moment turns ⟨(worker.handle now message).1, inbound,
        outbound ++ (worker.handle now message).2⟩
  | .look now :: turns, ⟨worker, inbound, outbound⟩ =>
    ask moment turns ⟨(worker.poll now).1, inbound, outbound ++ (worker.poll now).2⟩
  | .deliver :: turns, ⟨worker, inbound, outbound⟩ =>
    match outbound with
    | [] => (.nothing, ⟨⟨worker, inbound, []⟩, turns, moment⟩)
    | message :: outbound => (.message message, ⟨⟨worker, inbound, outbound⟩, turns, moment⟩)
  | .hold :: turns, link => (.nothing, ⟨link, turns, moment⟩)
  | .cut :: turns, link => (.disconnected, ⟨link, turns, moment⟩)

/-- Asks for a message. -/
def receive (state : Scheduled α) : Receipt α × Scheduled α :=
  ask state.moment state.turns state.link

/-- A message that is received takes a turn. -/
theorem ask_lowers {moment : Nat} {turns : List Turn} {link : Link α} {later : Scheduled α}
    {message : WorkerMessage α} (asked : ask moment turns link = (.message message, later)) :
    later.turns.length < turns.length := by
  fun_induction ask moment turns link with
  | case1 link => cases asked
  | case2 now turns worker outbound inductionHypothesis =>
    exact Nat.lt_succ_of_lt (inductionHypothesis asked)
  | case3 now turns worker outbound first inbound inductionHypothesis =>
    exact Nat.lt_succ_of_lt (inductionHypothesis asked)
  | case4 now turns worker inbound outbound inductionHypothesis =>
    exact Nat.lt_succ_of_lt (inductionHypothesis asked)
  | case5 turns worker inbound => cases asked
  | case6 turns worker inbound first outbound =>
    obtain ⟨-, rfl⟩ := Prod.mk.inj asked
    exact Nat.lt_succ_self _
  | case7 turns link => cases asked
  | case8 turns link => cases asked

/-- With every message that is received fewer turns are left. -/
theorem receive_lowers {state later : Scheduled α} {message : WorkerMessage α}
    (received : state.receive = (.message message, later)) :
    later.turns.length < state.turns.length :=
  ask_lowers received

instance : Transport (Scheduled α) α where
  send message state := (true, { state with link := state.link.post message })
  receive := receive
  await _ := receive
  moment := Scheduled.moment
  waiting state := state.turns.length
  receive_lowers := receive_lowers
  await_lowers := receive_lowers

end Scheduled

end SpriteMachine
