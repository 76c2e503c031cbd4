import CommandRelay.Environment.Basic
import CommandRelay.Path.FileName
import CommandRelay.Text.Blank

/-!
# Where the program keeps its files

All files of the program live below one directory, which an environment variable can move.
-/

namespace CommandRelay

/-- The places of the program's files. -/
structure Layout where
  /-- The directory above all others. -/
  base : String
  deriving DecidableEq, Repr, Inhabited

namespace Layout

/-- The variable that moves the directory. -/
def homeVariable : String := "FERRY_HOME"

/-- The layout of an environment: the directory that the variable names, trimmed, or one in the
user's home directory. -/
def ofEnvironment (env : Environment) (home : String) : Layout :=
  let named := Text.trimmed ((env.get? homeVariable).getD "")
  ⟨if named.isEmpty then Path.join home ".ferry" else named⟩

/-- Links that the user manages. -/
def userLinks (l : Layout) : String := Path.join l.base "links"

/-- Links that are always available. -/
def defaultLinks (l : Layout) : String := Path.join l.base "bin"

/-- Links that are always available and come before everything else. -/
def priorityLinks (l : Layout) : String := Path.join l.base "bin-priority"

/-- The settings file. -/
def settingsFile (l : Layout) : String := Path.join l.base "config.toml"

/-- The socket where the agent listens if nothing else is said. -/
def agentSocket (l : Layout) : String := Path.join l.base "agent.sock"

end Layout

end CommandRelay
