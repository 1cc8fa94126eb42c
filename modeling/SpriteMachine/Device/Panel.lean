import SpriteMachine.Device.Clock
import SpriteMachine.Device.Keyboard
import SpriteMachine.Device.Mouse

/-!
# The devices

The host posts data to a device by its name and blocks read the latest state.
Nothing is queued. A posted key, or a turn of the wheel that acts like one, is
signalled to the caller.
-/

namespace SpriteMachine

/-- All devices of one scheduler. -/
structure Devices (α : Type) where
  clock : Clock α
  keyboard : Keyboard
  mouse : Mouse α
  wheel : MouseWheel α

/-- Why data is refused. -/
inductive DeviceFault where
  | unknown (device : String)
  | malformed (device : String)
deriving DecidableEq, Repr

/-- The name of a refusal's kind. -/
def DeviceFault.kind : DeviceFault → String
  | unknown _ => "UnknownDevice"
  | malformed _ => "MalformedData"

/-- A refusal in words. -/
def DeviceFault.message : DeviceFault → String
  | unknown device => "Unknown I/O device: " ++ device
  | malformed device => "Malformed data for " ++ device

namespace Devices

variable {α : Type} [Scalar α]

/-- Devices at rest around a clock. -/
def around (clock : Clock α) : Devices α := ⟨clock, .released, .atRest, .atRest⟩

/-- Posts data to a device. The result names the key that the data presses, if it
presses one. -/
def post (devices : Devices α) (device : String) (data : Json) :
    Except DeviceFault (Option String) × Devices α :=
  match device with
  | "clock" =>
    match ClockCommand.ofJson? data with
    | some command => (.ok none, { devices with clock := devices.clock.obey command })
    | none => (.error (.malformed device), devices)
  | "keyboard" =>
    match KeyEvent.ofJson? data with
    | some event =>
      match devices.keyboard.post event with
      | (signal, keyboard) => (.ok signal, { devices with keyboard := keyboard })
    | none => (.error (.malformed device), devices)
  | "mouse" =>
    match MouseEvent.ofJson? data with
    | some event => (.ok none, { devices with mouse := devices.mouse.post event })
    | none => (.error (.malformed device), devices)
  | "mouseWheel" =>
    match WheelEvent.ofJson? data with
    | some event =>
      match MouseWheel.post event with
      | (signal, wheel) => (.ok signal, { devices with wheel := wheel })
    | none => (.error (.malformed device), devices)
  | other => (.error (.unknown other), devices)

end Devices

end SpriteMachine
