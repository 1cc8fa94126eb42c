import SpriteMachine.Text.Case

/-!
# Log levels
-/

namespace SpriteMachine

/-- How much is logged. -/
inductive LogLevel where
  | debug
  | info
  | warn
  | error
deriving DecidableEq, Repr

namespace LogLevel

/-- The name of a level. -/
def name : LogLevel → String
  | debug => "Debug"
  | info => "Info"
  | warn => "Warn"
  | error => "Error"

/-- The level of its exact name in a settings file. -/
def ofName? : String → Option LogLevel
  | "debug" => some debug
  | "info" => some info
  | "warn" => some warn
  | "error" => some error
  | _ => none

/-- The level that a text names in any letter case, or the words that refuse it. -/
def read (text : String) : Except String LogLevel :=
  match Text.lowerAscii text with
  | "warning" => .ok warn
  | other =>
    match ofName? other with
    | some level => .ok level
    | none => .error ("unknown log level '" ++ other ++ "'")

end LogLevel

end SpriteMachine
