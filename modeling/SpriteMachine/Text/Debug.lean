import SpriteMachine.Text.Hidden

/-!
# Quoted text in explanations

An unexpected reply is explained by its content with all text in quotes. Quotes,
backslashes and line ends are escaped, and every hidden character stands as its
code.
-/

namespace SpriteMachine.Text

/-- A character as it stands inside quotes. -/
def shown (c : Char) : List Char :=
  match c with
  | '\x00' => ['\\', '0']
  | '\t' => ['\\', 't']
  | '\n' => ['\\', 'n']
  | '\r' => ['\\', 'r']
  | '"' => ['\\', '"']
  | '\\' => ['\\', '\\']
  | c =>
    if isHidden c then ['\\', 'u', '\x7b'] ++ Nat.toDigits 16 c.toNat ++ ['\x7d'] else [c]

/-- A text in quotes. -/
def showQuoted (text : String) : String :=
  String.ofList ('"' :: text.toList.flatMap shown ++ ['"'])

end SpriteMachine.Text
