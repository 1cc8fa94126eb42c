import SpriteMachine.Json.Record
import SpriteMachine.Text.Case

/-!
# The keyboard

The keyboard knows which keys are down, by the names that blocks use for them.
Several keys may share a name; such a key counts as down from the last press of
any of them until the next release of any of them.
-/

namespace SpriteMachine

/-- A key that went down or up. -/
structure KeyEvent where
  key : String
  isDown : Bool
deriving DecidableEq, Repr

/-- The event of a JSON tree. -/
def KeyEvent.ofJson? (json : Json) : Option KeyEvent := do
  let record ← Record.ofJson? ["key", "isDown"] json
  let key ← record.required "key" Json.text?
  let isDown ← record.required "isDown" Json.bool?
  return ⟨key, isDown⟩

/-- The name that blocks use for a key. A single character stands for its small
form. -/
def keyName (key : String) : String :=
  match key with
  | " " => "space"
  | "Space" => "space"
  | "ArrowLeft" => "left arrow"
  | "Left" => "left arrow"
  | "ArrowRight" => "right arrow"
  | "Right" => "right arrow"
  | "ArrowUp" => "up arrow"
  | "Up" => "up arrow"
  | "ArrowDown" => "down arrow"
  | "Down" => "down arrow"
  | "Enter" => "enter"
  | other => if other.length = 1 then Text.lower other else other

/-- The names of the keys that are down. -/
structure Keyboard where
  pressed : List String
deriving DecidableEq, Repr

namespace Keyboard

/-- No key is down. -/
def released : Keyboard := ⟨[]⟩

/-- Takes an event; a press is signalled by the key's name. -/
def post (keyboard : Keyboard) (event : KeyEvent) : Option String × Keyboard :=
  let name := keyName event.key
  if event.isDown then
    (some name, ⟨if name ∈ keyboard.pressed then keyboard.pressed else keyboard.pressed ++ [name]⟩)
  else (none, ⟨keyboard.pressed.filter (· ≠ name)⟩)

/-- Whether a key is down; `any` asks for any key at all. -/
def isPressed (keyboard : Keyboard) (key : String) : Bool :=
  if key = "any" then !keyboard.pressed.isEmpty
  else keyName key ∈ keyboard.pressed

end Keyboard

end SpriteMachine
