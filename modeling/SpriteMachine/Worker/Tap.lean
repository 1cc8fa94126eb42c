import SpriteMachine.Worker.Transport

/-!
# Tapped transports

A tap stands between the bridge and a transport. It keeps a record of what passes
in either direction, can deliver messages of its own before those of the
transport, and can be cut: for sending only, or altogether. Without a transport
behind it nothing arrives but what is put in.
-/

namespace SpriteMachine

/-- A transport, or none, with the messages put in, the records of what passed,
and the ways in which it is cut. -/
structure Tap (τ α : Type) where
  behind : Option τ
  injected : List (WorkerMessage α)
  sent : List (HostMessage α)
  delivered : List (WorkerMessage α)
  refusesSends : Bool
  isCut : Bool

namespace Tap

variable {τ α : Type}

/-- A tap on a transport that has not been used yet. -/
def fresh (behind : Option τ) : Tap τ α := ⟨behind, [], [], [], false, false⟩

/-- Puts in a message. -/
def inject (tap : Tap τ α) (message : WorkerMessage α) : Tap τ α :=
  { tap with injected := tap.injected ++ [message] }

variable [Transport τ α]

/-- Hands a message to the transport unless the tap is cut. -/
def send (message : HostMessage α) (tap : Tap τ α) : Bool × Tap τ α :=
  if tap.isCut || tap.refusesSends then (false, tap)
  else
    match tap.behind with
    | none => (true, { tap with sent := tap.sent ++ [message] })
    | some transport =>
      match Transport.send message transport with
      | (true, transport) =>
        (true, { tap with behind := some transport, sent := tap.sent ++ [message] })
      | (false, transport) => (false, { tap with behind := some transport })

/-- Takes a message by a look into the transport, unless one was put in. -/
def take (look : τ → Receipt α × τ) (tap : Tap τ α) : Receipt α × Tap τ α :=
  if tap.isCut then (.disconnected, tap)
  else
    match tap.injected with
    | message :: rest =>
      (.message message, { tap with injected := rest, delivered := tap.delivered ++ [message] })
    | [] =>
      match tap.behind with
      | none => (.nothing, tap)
      | some transport =>
        match look transport with
        | (.message message, transport) =>
          (.message message,
            { tap with behind := some transport, delivered := tap.delivered ++ [message] })
        | (.nothing, transport) => (.nothing, { tap with behind := some transport })
        | (.disconnected, transport) => (.disconnected, { tap with behind := some transport })

/-- A bound on the messages the tap can deliver. -/
def waiting (tap : Tap τ α) : Nat :=
  tap.injected.length + (tap.behind.map Transport.waiting).getD 0

/-- With every message that is taken less is waiting behind the tap. -/
theorem take_waiting {look : τ → Receipt α × τ}
    (lowers : ∀ {state later : τ} {message : WorkerMessage α},
      look state = (.message message, later) → Transport.waiting later < Transport.waiting state)
    {tap later : Tap τ α} {message : WorkerMessage α}
    (taken : tap.take look = (.message message, later)) : later.waiting < tap.waiting := by
  unfold take at taken
  split at taken
  case isTrue => simp at taken
  case isFalse =>
    split at taken
    case h_1 first rest kept =>
      simp only [Prod.mk.injEq] at taken
      rw [← taken.2]
      simp only [waiting, kept, List.length_cons]
      omega
    case h_2 kept =>
      split at taken
      case h_1 => simp at taken
      case h_2 transport stands =>
        split at taken
        case h_1 looked =>
          simp only [Prod.mk.injEq] at taken
          have lower := lowers looked
          rw [← taken.2]
          simp only [waiting, kept, stands, Option.map_some, Option.getD_some]
          omega
        case h_2 => simp at taken
        case h_3 => simp at taken

instance : Transport (Tap τ α) α where
  send := send
  receive := take Transport.receive
  await limit := take (Transport.await limit)
  moment tap := (tap.behind.map Transport.moment).getD 0
  waiting := waiting
  receive_lowers := take_waiting Transport.receive_lowers
  await_lowers := take_waiting Transport.await_lowers

end Tap

end SpriteMachine
