import SpriteMachine.Worker.Message

/-!
# Transports

A transport carries messages between the host and a worker. It may be cut, it may
have nothing to deliver, and waiting on it lets time pass. The host's wall clock
is read through the transport for that reason: a moment is a number of
milliseconds and only waiting moves it while the host works.

What a transport can deliver before the host sends again is finite. `waiting`
bounds it, and every delivered message lowers the bound.
-/

namespace SpriteMachine

/-- What a look into a transport finds. -/
inductive Receipt (α : Type) where
  | message (message : WorkerMessage α)
  | nothing
  | disconnected

/-- Carries messages of the scalars `α` in states `τ`. -/
class Transport (τ : Type) (α : outParam Type) where
  /-- Hands a message over; false when the transport is cut. -/
  send : HostMessage α → τ → Bool × τ
  /-- Takes the next message if one has arrived. -/
  receive : τ → Receipt α × τ
  /-- Waits for the next message, at most for a number of milliseconds. -/
  await : Nat → τ → Receipt α × τ
  /-- The wall clock in milliseconds. -/
  moment : τ → Nat
  /-- A bound on the messages that can still be received before anything is sent. -/
  waiting : τ → Nat
  receive_lowers : ∀ {state later : τ} {message : WorkerMessage α},
    receive state = (.message message, later) → waiting later < waiting state
  await_lowers : ∀ {state later : τ} {message : WorkerMessage α} {limit : Nat},
    await limit state = (.message message, later) → waiting later < waiting state

end SpriteMachine
