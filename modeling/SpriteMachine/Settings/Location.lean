/-!
# Where the user's settings file is

The directory of the user's settings is taken from the environment. The first
variable that is set decides, even when it is empty; an empty directory stands
for the current one.
-/

namespace SpriteMachine.Settings

/-- A path to something inside a directory. -/
def inside (directory name : String) : String :=
  if directory = "" ∨ directory.toList.getLast? = some '/' then directory ++ name
  else directory ++ "/" ++ name

/-- The settings file of the user, by the variables of the environment. -/
def location? (setting? : String → Option String) : Option String :=
  let directory :=
    match setting? "XDG_CONFIG_HOME", setting? "HOME", setting? "APPDATA" with
    | some directory, _, _ => some directory
    | none, some home, _ => some (inside home ".config")
    | none, none, data => data
  directory.map fun directory => inside (inside directory "patchvm") "config.toml"

end SpriteMachine.Settings
