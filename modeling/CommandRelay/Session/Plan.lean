import CommandRelay.Path.Argument
import CommandRelay.Session.Metadata
import CommandRelay.Session.Payload
import CommandRelay.Settings.Basic

/-!
# The plan of a session

Everything about a session that is decided before the agent is called: as whom it runs, which
variables it gets, what it is told about itself, and the command.

## Main definitions

* `RunOptions` — what the user asked for, for this command only.
* `Vantage` — where the client stands.
* `Plan`, `Plan.build` — the plan and how it comes about.
-/

namespace CommandRelay

/-- What the user asked for, for one command only. -/
structure RunOptions where
  /-- The remote directory to run in, taken as it is. -/
  workdir : Option String := none
  /-- Variables that win over all others, a later one over an earlier one. -/
  extraEnv : List (String × String) := []
  /-- Let no variable of this side cross. -/
  noInherit : Bool := false
  user : Option String := none
  container : Option String := none
  /-- Run the command through the remote login shell. -/
  shell : Bool := false
  /-- Map arguments that name files to the remote side. -/
  translatePaths : Bool := false
  deriving DecidableEq, Repr, Inhabited

/-- Where the client stands: the user's home directory and the current directory. -/
structure Vantage where
  home : String
  cwd : String
  deriving DecidableEq, Repr, Inhabited

/-- What is decided before the agent is called. -/
structure Plan where
  route : Route
  /-- The variables that cross. -/
  env : Environment
  metadata : Metadata
  /-- The command; an interactive shell if there is none. -/
  payload : Option String
  deriving DecidableEq

namespace Plan

/-- The user and the container, where options win over settings. -/
def routeOf (s : Settings) (o : RunOptions) : Route :=
  (s.route.withUser o.user).withContainer o.container

/-- The variables that cross: what the filter lets through, then those asked for. -/
def environmentOf (s : Settings) (o : RunOptions) (source : Environment) : Environment :=
  (if o.noInherit then Dictionary.empty else s.filter.build source .toForeign).insertList o.extraEnv

/-- The plan of a command: the remote directory is the one asked for or what the current directory
is called there, and no command at all means an interactive shell. -/
def build (s : Settings) (argv : List String) (o : RunOptions) (source : Environment)
    (terminals : Streams) (vantage : Vantage) : Plan :=
  let route := routeOf s o
  let mapping := s.mapping (some vantage.home) (some vantage.cwd) (some route.container)
  let argv := if o.translatePaths then mapping.translateArguments .toForeign argv else argv
  let mode : LaunchMode := if o.shell || argv.isEmpty then .shell else .rawArgv
  { route
    env := environmentOf s o source
    metadata := {
      pwd := o.workdir.getD (mapping.translate .toForeign vantage.cwd)
      mode, terminals }
    payload :=
      if argv.isEmpty then none
      else match mode with
        | .rawArgv => some (Payload.ofArguments argv)
        | .shell => some (ShellWords.join argv) }

end Plan

end CommandRelay
