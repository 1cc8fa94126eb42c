import SpriteMachine.Identifier
import SpriteMachine.Value.Args

/-!
# Scripts

A script is a list of statements. Each statement calls one block, with literal
arguments or with variables that earlier statements of the same script assigned.

The text of a script may be at fault in a few ways; each is a cause with the
line on which it stands.
-/

namespace SpriteMachine

/-- What stands behind the name of an argument. -/
inductive Operand (α : Type) where
  | literal (value : Value α)
  | variable (name : String)

/-- A call of one block. `line` counts from one, and `assign` names the variable
that takes the result. -/
structure Statement (α : Type) where
  line : Nat
  assign : Option String
  opcode : String
  args : List (String × Operand α)

/-- A script that can run: its name, the target it belongs to and its body. -/
structure Script (α : Type) where
  id : ScriptId
  target : TargetId
  body : List (Statement α)

/-- Why a line is no part of a script or unit. -/
inductive SyntaxCause where
  | noOpcode (text : String)
  | noAssignment
  | unexpected (text : String)
  | badString (literal : String)
  | emptyVariable
  | noSection
  | badHeader
  | openSection
deriving DecidableEq, Repr

/-- A faulty line and its cause. -/
structure SyntaxFault where
  line : Nat
  cause : SyntaxCause
deriving DecidableEq, Repr

/-- A cause in words. -/
def SyntaxCause.message : SyntaxCause → String
  | noOpcode text => "expected an opcode, found `" ++ text ++ "`"
  | noAssignment => "expected `set <name> = <opcode> ...`"
  | unexpected text => "unexpected `" ++ text ++ "`"
  | badString literal => "bad string literal " ++ literal ++ ": not a JSON string"
  | emptyVariable => "empty variable name"
  | noSection => "expected `@script` section"
  | badHeader => "bad section header: not a JSON record of script and target"
  | openSection => "unterminated `@script` section"

/-- A faulty line in words. -/
def SyntaxFault.message (fault : SyntaxFault) : String :=
  "line " ++ toString fault.line ++ ": " ++ fault.cause.message

namespace Statement

variable {α : Type}

/-- The arguments with every variable replaced by its value; an unknown variable
is named instead. When an argument is given twice the later one counts. -/
def bindFrom (lookup : String → Option (Value α)) :
    Args α → List (String × Operand α) → Except String (Args α)
  | args, [] => .ok args
  | args, (name, .literal value) :: rest => bindFrom lookup (args.insert name value) rest
  | args, (name, .variable source) :: rest =>
    match lookup source with
    | some value => bindFrom lookup (args.insert name value) rest
    | none => .error source

/-- The arguments of a statement under an assignment of variables. -/
def bind (statement : Statement α) (lookup : String → Option (Value α)) :
    Except String (Args α) :=
  bindFrom lookup Args.empty statement.args

end Statement

end SpriteMachine
