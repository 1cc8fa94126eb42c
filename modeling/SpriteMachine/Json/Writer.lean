/-!
# Writing JSON text

Text is compact, without blanks between the parts, or it is laid out for readers,
with one entry on each line. A string escapes the quote, the backslash and control
characters, and leaves every other character as it is.
-/

namespace SpriteMachine.Json

/-- The two hexadecimal digits of a code below 256, in small letters. -/
def hexPair (code : Nat) : List Char :=
  [Nat.digitChar (code / 16 % 16), Nat.digitChar (code % 16)]

/-- A character as it stands inside a string literal. -/
def escaped (c : Char) : List Char :=
  match c with
  | '"' => ['\\', '"']
  | '\\' => ['\\', '\\']
  | '\x08' => ['\\', 'b']
  | '\x0c' => ['\\', 'f']
  | '\n' => ['\\', 'n']
  | '\r' => ['\\', 'r']
  | '\t' => ['\\', 't']
  | c => if c.toNat < 0x20 then ['\\', 'u', '0', '0'] ++ hexPair c.toNat else [c]

/-- A text as a string literal. -/
def quote (text : String) : String :=
  String.ofList ('"' :: text.toList.flatMap escaped ++ ['"'])

/-- An array of texts that are JSON already. -/
def writeArray (items : List String) : String :=
  "[" ++ String.intercalate "," items ++ "]"

/-- An object with entries whose values are JSON text already. -/
def writeObject (entries : List (String × String)) : String :=
  "\x7b" ++ String.intercalate "," (entries.map fun (key, value) => quote key ++ ":" ++ value) ++
    "\x7d"

/-- The blanks before a line at a level. -/
def indent (level : Nat) : String := String.ofList (List.replicate (2 * level) ' ')

/-- An object at a level with each entry on a line of its own. The values are text of
the next level already. -/
def layObject (level : Nat) (entries : List (String × String)) : String :=
  let lines := entries.map fun (key, value) =>
    indent (level + 1) ++ quote key ++ ": " ++ value
  if entries.isEmpty then writeObject []
  else "\x7b\n" ++ String.intercalate ",\n" lines ++ "\n" ++ indent level ++ "\x7d"

end SpriteMachine.Json
