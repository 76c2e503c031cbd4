import CommandRelay.CommandLine.Command
import CommandRelay.Invocation

/-!
# What a start of the program is for

The name that the program was started under and its arguments decide what it does: answer the user,
do something on this side, or relay a command.

## Main definitions

* `Task` — what the program does.
* `Task.ofArguments` — what management arguments ask for.
* `Task.ofInvocation` — what a start of the program is for.
-/

namespace CommandRelay

/-- What the program does. -/
inductive Task where
  /-- Tells the user how it is used. -/
  | answer (e : UsageError)
  /-- Does something on this side. -/
  | manage (c : LocalCommand)
  /-- Has a command run on the other side; an interactive shell if it has no words. -/
  | relay (argv : List String) (options : RunOptions)
  deriving DecidableEq, Repr

namespace Task

/-- What management arguments ask for. -/
def ofArguments (args : List String) : Task :=
  match ManagementCommand.parse args with
  | .ok (.run options command) => relay command options
  | .ok (.onThisSide c) => manage c
  | .error e => answer e

/-- What a start of the program is for. -/
def ofInvocation (c : ProgramStart) : Task :=
  match c.invocation with
  | .control => ofArguments c.args
  | .controlOrShell =>
    if ManagementCommand.isMeant c.args then ofArguments c.args else relay c.args {}
  | .stub _ => relay (c.linkedCommand?.getD []) {}

end Task

end CommandRelay
