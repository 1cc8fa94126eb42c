import SpriteMachine.Json.Reader
import SpriteMachine.Script.Statement
import SpriteMachine.Text.Lines
import SpriteMachine.Text.Word

/-!
# The lines of a script

A line holds one statement, or nothing, or a comment that starts with `#`:

    motion_movesteps STEPS=10
    set pos = motion_xposition
    looks_say MESSAGE=$pos
    looks_sayforsecs MESSAGE="hello there" SECS=0.5

An argument is a quoted JSON string, a variable behind `$`, a truth value, a
number, or any other run of characters without blanks, which is text. Blanks
separate the arguments. A quoted string ends at its first quote that no
backslash precedes; a quote that is never closed starts a run without blanks and
is then refused.
-/

namespace SpriteMachine

namespace Body

variable {α : Type} [Scalar α]

open Text (isBlank isWord startsName trim trimEnd)

/-- A name at the start of a text, and what follows it. -/
def readName? : List Char → Option (List Char × List Char)
  | [] => none
  | first :: rest =>
    if startsName first then some (first :: rest.takeWhile isWord, rest.dropWhile isWord)
    else none

/-- A text without the blanks at its start; there must be at least one. -/
def skipBlanks? : List Char → Option (List Char)
  | [] => none
  | first :: rest => if isBlank first then some (rest.dropWhile isBlank) else none

/-- The variable of `set name =` at the start of a text, and what follows the
equals sign and its blanks. -/
def readAssignment? : List Char → Option (List Char × List Char)
  | 's' :: 'e' :: 't' :: rest =>
    match (skipBlanks? rest).bind readName? with
    | some (name, rest) =>
      match rest.dropWhile isBlank with
      | '=' :: rest => some (name, rest.dropWhile isBlank)
      | _ => none
    | none => none
  | _ => none

/-- The variable, the opcode and the arguments' text of a line. A line that only
looks like an assignment is read as a call. -/
def readHead? (text : List Char) : Option (Option (List Char) × List Char × List Char) :=
  match (readAssignment? text).bind fun (name, rest) =>
      (readName? rest).map fun (opcode, rest) => (some name, opcode, rest) with
  | some head => some head
  | none => (readName? text).map fun (opcode, rest) => (none, opcode, rest)

/-- A quoted literal behind its opening quote up to and with its closing quote,
and what follows it. -/
def readQuoted? : List Char → Option (List Char × List Char)
  | [] => none
  | '"' :: rest => some (['"'], rest)
  | ['\\'] => none
  | '\\' :: c :: rest => (readQuoted? rest).map fun (read, rest) => ('\\' :: c :: read, rest)
  | c :: rest => (readQuoted? rest).map fun (read, rest) => (c :: read, rest)

/-- The written form of an operand, and what follows it. -/
def readWritten? (text : List Char) : Option (List Char × List Char) :=
  match text with
  | '"' :: rest =>
    match readQuoted? rest with
    | some (read, rest) => some ('"' :: read, rest)
    | none => some (text.takeWhile (!isBlank ·), text.dropWhile (!isBlank ·))
  | _ =>
    match text.takeWhile (!isBlank ·) with
    | [] => none
    | written => some (written, text.dropWhile (!isBlank ·))

/-- One argument with the blanks before it, and what follows it. -/
def readArgument? (text : List Char) : Option ((List Char × List Char) × List Char) :=
  match (skipBlanks? text).bind readName? with
  | some (name, '=' :: rest) =>
    (readWritten? rest).map fun (written, rest) => ((name, written), rest)
  | _ => none

/-- The value of a literal that is not quoted. -/
def bareLiteral (written : List Char) : Value α :=
  let text := String.ofList written
  if text = "true" then .bool true
  else if text = "false" then .bool false
  else
    match NumberText.read? written with
    | some number =>
      let scalar : α := Scalar.ofText number
      if Scalar.isFinite scalar then Value.ofNumber scalar else .text text
    | none => .text text

/-- The operand of a written form. -/
def operand (written : List Char) : Except SyntaxCause (Operand α) :=
  match written with
  | '"' :: _ =>
    match Json.read? written with
    | some (.string (some text)) => .ok (.literal (.text text))
    | _ => .error (.badString (String.ofList written))
  | '$' :: name => if name = [] then .error .emptyVariable else .ok (.variable (String.ofList name))
  | _ => .ok (.literal (bareLiteral written))

/-- The arguments of a line. Each takes at least one character, so the length of
the text bounds the steps. -/
def arguments : Nat → List Char → Except SyntaxCause (List (String × Operand α))
  | 0, _ => .ok []
  | steps + 1, text =>
    if text = [] then .ok []
    else
      match readArgument? text with
      | none => .error (.unexpected (String.ofList (trim text)))
      | some ((name, written), rest) =>
        match operand written with
        | .error cause => .error cause
        | .ok operand =>
          match arguments steps rest with
          | .error cause => .error cause
          | .ok others => .ok ((String.ofList name, operand) :: others)

/-- The statement of a line without blanks at its ends. -/
def statement (line : Nat) (text : List Char) : Except SyntaxCause (Statement α) :=
  match readHead? text with
  | none => .error (.noOpcode (String.ofList text))
  | some (assign, opcode, rest) =>
    if assign = none ∧ opcode = ['s', 'e', 't'] then .error .noAssignment
    else
      let rest := trimEnd rest
      match arguments rest.length rest with
      | .error cause => .error cause
      | .ok args =>
        .ok ⟨line, assign.map String.ofList, String.ofList opcode, args⟩

/-- Whether a line without blanks at its ends holds no statement. -/
def isIdle (text : List Char) : Bool :=
  match text with
  | [] => true
  | first :: _ => first = '#'

/-- The statements of lines, the first of which has the given number. -/
def ofLines (number : Nat) : List (List Char) → Except SyntaxFault (List (Statement α))
  | [] => .ok []
  | line :: rest =>
    let text := trim line
    if isIdle text then ofLines (number + 1) rest
    else
      match statement number text with
      | .error cause => .error ⟨number, cause⟩
      | .ok first =>
        match ofLines (number + 1) rest with
        | .error fault => .error fault
        | .ok others => .ok (first :: others)

/-- The statements of a script's code. -/
def parse (code : String) : Except SyntaxFault (List (Statement α)) :=
  ofLines 1 (Text.lines code.toList)

end Body

end SpriteMachine
