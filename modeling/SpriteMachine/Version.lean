/-!
# The name and version of the machine
-/

namespace SpriteMachine

/-- The name under which the machine introduces itself. -/
def programName : String := "patchvm"

/-- The version of the machine. -/
def programVersion : String := "0.3.1"

end SpriteMachine
