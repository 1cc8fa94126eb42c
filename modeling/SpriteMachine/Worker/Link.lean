import Mathlib.Logic.Relation
import SpriteMachine.Worker.ScriptWorker
import SpriteMachine.Worker.Transport

/-!
# Links with delays

A link joins host and worker by two queues, one in each direction. The worker takes its
next message or looks at its deadlines at any moment, whatever its clock shows then, and
either queue may hold on to a message for as long as it likes.

A transport relays a link when all that it does can be explained so: what is sent is the
last message on its way to the worker, what is heard is the first on its way to the host,
and the worker goes on meanwhile. Nothing says that a message which has arrived is heard at
once, or that the transport is never cut.
-/

namespace SpriteMachine

/-- A worker with the messages on their way to it and those that it has sent. -/
structure Link (α : Type) where
  worker : ScriptWorker α
  inbound : List (HostMessage α)
  outbound : List (WorkerMessage α)

namespace Link

variable {α : Type}

/-- A link to a worker without scripts, with nothing under way. -/
def idle (blockTimeout : Option Nat) : Link α := ⟨.idle blockTimeout, [], []⟩

/-- One more message for the worker. -/
def post (link : Link α) (message : HostMessage α) : Link α :=
  { link with inbound := link.inbound ++ [message] }

/-- How a link is left by what the host hears. -/
def Delivers (before : Link α) : Receipt α → Link α → Prop
  | .message message, after => before = { after with outbound := message :: after.outbound }
  | _, after => before = after

variable [Scalar α]

/-- What the worker may do at any moment. -/
inductive Move : Link α → Link α → Prop where
  | handle (now : Nat) (worker : ScriptWorker α) (message : HostMessage α)
      (inbound : List (HostMessage α)) (outbound : List (WorkerMessage α)) :
      Move ⟨worker, message :: inbound, outbound⟩
        ⟨(worker.handle now message).1, inbound, outbound ++ (worker.handle now message).2⟩
  | look (now : Nat) (worker : ScriptWorker α) (inbound : List (HostMessage α))
      (outbound : List (WorkerMessage α)) :
      Move ⟨worker, inbound, outbound⟩
        ⟨(worker.poll now).1, inbound, outbound ++ (worker.poll now).2⟩

/-- What the worker may do meanwhile. -/
abbrev Moves : Link α → Link α → Prop := Relation.ReflTransGen Move

/-- What the host may hear while the worker goes on. -/
def Hears (before : Link α) (receipt : Receipt α) (after : Link α) : Prop :=
  ∃ here there, Moves before here ∧ Delivers here receipt there ∧ Moves there after

end Link

/-- A transport does nothing but to relay a link, seen in each of its states. -/
structure Relays {τ α : Type} [Scalar α] [Transport τ α] (view : τ → Link α) : Prop where
  send : ∀ message state, ∃ here, Link.Moves (view state) here ∧
    Link.Moves (if (Transport.send message state).1 then here.post message else here)
      (view (Transport.send message state).2)
  receive : ∀ state,
    Link.Hears (view state) (Transport.receive state).1 (view (Transport.receive state).2)
  await : ∀ limit state,
    Link.Hears (view state) (Transport.await limit state).1 (view (Transport.await limit state).2)

end SpriteMachine
