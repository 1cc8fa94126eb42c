import SpriteMachine.Identifier

/-!
# Faults of blocks

A block that cannot do its work says why. The fault reaches the script that called
the block, as the failure of that call.
-/

namespace SpriteMachine

/-- Why a block failed. -/
inductive BlockFault where
  | missingArgument (name : String)
  | invalidArgument (name : String) (reason : String)
  | targetUnavailable (target : TargetId)
  | failed (reason : String)
deriving DecidableEq, Repr

/-- The name of a fault's kind. -/
def BlockFault.kind : BlockFault → String
  | missingArgument _ => "MissingArgument"
  | invalidArgument .. => "InvalidArgument"
  | targetUnavailable _ => "TargetUnavailable"
  | failed _ => "Failed"

/-- A fault in words. -/
def BlockFault.message : BlockFault → String
  | missingArgument name => "Missing argument " ++ name
  | invalidArgument name reason => "Invalid argument " ++ name ++ ": " ++ reason
  | targetUnavailable target => "Target " ++ target.label ++ " is not available"
  | failed reason => reason

end SpriteMachine
