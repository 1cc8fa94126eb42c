import SpriteMachine.Block.Fault
import SpriteMachine.Value.Args

/-!
# Motors

Four motors hang on a link to a peripheral. A speed is remembered whether or not
it reaches the peripheral; when the link is down, writes are dropped. A failed
attempt to connect or to write is followed by a pause before the next attempt. A
global stop asks for speed zero wherever a motor may still turn.

The link decides freely whether connecting and writing succeed. Moments and the
pause are milliseconds of the wall clock.
-/

namespace SpriteMachine

/-- A link over states `ℓ`. The Boolean results tell whether an attempt succeeded. -/
class MotorLink (ℓ : Type) (α : outParam Type) where
  connect : ℓ → Bool × ℓ
  write : Nat → α → ℓ → Bool × ℓ
  disconnect : ℓ → ℓ

/-- The motors' link, the moment before which no attempt to connect is made, and the
speed asked for at each socket. -/
structure Motors (ℓ α : Type) where
  link : ℓ
  connected : Bool
  retryAt : Option Nat
  backoff : Nat
  speeds : Vector α 4

/-- What can be done with a motor. -/
inductive MotorBlock where
  | setSpeed
  | stop
  | getSpeed
deriving DecidableEq, Repr

namespace Motors

variable {ℓ α : Type}

/-- The pause after a failed attempt unless another is chosen. -/
def defaultBackoff : Nat := 5000

/-- Takes the peripheral off the link, if it is connected. -/
def release [MotorLink ℓ α] (motors : Motors ℓ α) : Motors ℓ α :=
  if motors.connected then
    { motors with connected := false, link := MotorLink.disconnect motors.link }
  else motors

/-- Connects the link unless it is connected or has to pause; tells whether it is
connected then. -/
def connect [MotorLink ℓ α] (motors : Motors ℓ α) (now : Nat) : Bool × Motors ℓ α :=
  if motors.connected then (true, motors)
  else if motors.retryAt.any (now < ·) then (false, motors)
  else
    match MotorLink.connect motors.link with
    | (true, link) => (true, { motors with link := link, connected := true, retryAt := none })
    | (false, link) =>
      (false, { motors with link := link, retryAt := some (now + motors.backoff) })

/-- Remembers a speed and writes it when the link can be used. -/
def setSpeed [MotorLink ℓ α] (motors : Motors ℓ α) (now : Nat) (socket : Fin 4) (speed : α) :
    Motors ℓ α :=
  let remembered := { motors with speeds := motors.speeds.set socket speed }
  match remembered.connect now with
  | (false, motors) => motors
  | (true, motors) =>
    match MotorLink.write socket.val speed motors.link with
    | (true, link) => { motors with link := link }
    | (false, link) =>
      { motors with
        connected := false
        link := MotorLink.disconnect link
        retryAt := some (now + motors.backoff) }

variable [Scalar α]

/-- Motors at rest on a link that was never connected. -/
def atRest (link : ℓ) (backoff : Nat) : Motors ℓ α :=
  ⟨link, false, none, backoff, Vector.replicate 4 Scalar.zero⟩

/-- Asks for speed zero at a socket whose motor may turn. -/
def stopSocket [MotorLink ℓ α] (now : Nat) (motors : Motors ℓ α) (socket : Fin 4) : Motors ℓ α :=
  if !Scalar.same motors.speeds[socket] Scalar.zero || motors.connected then
    motors.setSpeed now socket Scalar.zero
  else motors

/-- Stops every motor, socket by socket. -/
def stopAll [MotorLink ℓ α] (motors : Motors ℓ α) (now : Nat) : Motors ℓ α :=
  [0, 1, 2, 3].foldl (stopSocket now) motors

/-- The socket that an argument names, counted from one. -/
def socketOf (args : Args α) : Except BlockFault (Fin 4) :=
  let number := args.number "PORT"
  if Scalar.isWhole number && !Scalar.less number (Scalar.ofInt 1) &&
      !Scalar.less (Scalar.ofInt 4) number then
    .ok (Fin.ofNat 4 (Scalar.truncate 1 4 number - 1).toNat)
  else
    .error (.invalidArgument "PORT" ("expected 1..=4, got " ++ Scalar.write .plain number))

/-- Runs a motor block. -/
def run [MotorLink ℓ α] (motors : Motors ℓ α) (now : Nat) (block : MotorBlock) (args : Args α) :
    Except BlockFault (Value α) × Motors ℓ α :=
  match socketOf args with
  | .error fault => (.error fault, motors)
  | .ok socket =>
    match block with
    | .setSpeed =>
      let speed := Scalar.clamp (Scalar.ofInt (-100)) (Scalar.ofInt 100) (args.number "SPEED")
      (.ok .null, motors.setSpeed now socket speed)
    | .stop => (.ok .null, motors.setSpeed now socket Scalar.zero)
    | .getSpeed => (.ok (.ofNumber motors.speeds[socket]), motors)

end Motors

/-- A link that answers by itself. It records what reaches it, and fails as often as
it is told to. -/
structure LoopbackLink (α : Type) where
  connects : Nat
  writes : List (Nat × α)
  failingConnects : Nat
  failingWrites : Nat

namespace LoopbackLink

variable {α : Type}

/-- A link that never fails. -/
def reliable : LoopbackLink α := ⟨0, [], 0, 0⟩

instance : MotorLink (LoopbackLink α) α where
  connect link :=
    if 0 < link.failingConnects then
      (false, { link with failingConnects := link.failingConnects - 1 })
    else (true, { link with connects := link.connects + 1 })
  write socket speed link :=
    if 0 < link.failingWrites then
      (false, { link with failingWrites := link.failingWrites - 1 })
    else (true, { link with writes := link.writes ++ [(socket, speed)] })
  disconnect link := link

end LoopbackLink

end SpriteMachine
