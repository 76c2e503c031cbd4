import CommandRelay.CommandLine.Outcome
import CommandRelay.CommandLine.Task
import CommandRelay.Relay

/-!
# A run of the program

What the program does is done: the user is answered, files are changed, or a command is relayed.

## Main definitions

* `Scene` — what surrounds the program.
* `Performance` — everything that a run of the program leads to.
* `Task.perform` — what the program does for a task.
* `Performance.ofProcess` — a run of the program from the arguments of its process.
-/

namespace CommandRelay

/-- What surrounds the program while it runs. -/
structure Scene where
  circumstances : Circumstances
  files : FileTree
  /-- Whether somebody listens at an endpoint. -/
  answers : Endpoint → Bool
  /-- The host of the agent that listens. -/
  host : Agent.Host
  clock : Probe.Clock := .steady
  /-- The standard streams that are on the local terminal. -/
  terminals : Streams := {}
  terminal : Terminal.Device := default
  /-- What happens from outside while a command runs. -/
  occurrences : List Relay.Occurrence := []

/-- Everything that a run of the program leads to. -/
structure Performance where
  outcome : Outcome
  files : FileTree
  /-- The local terminal afterwards. -/
  terminal : Terminal.Device
  /-- The programs that the agent was to start. -/
  launches : List Launch := []

/-- How a session from end to end ends; one that does not end has no known exit code. -/
def Relay.result (r : Relay) : Except Failure Int :=
  match r.session.phase with
  | .ended code => .ok code
  | .failed cause => .error (.session cause)
  | .killed s => .ok (ExitReport.ofSignal (some s.number))
  | _ => .ok unknownExitCode

namespace Task

/-- Has a command run on the other side. -/
def performErrand (scene : Scene) (errand : Client.Errand) : Performance :=
  let attempt (_ : Nat) := scene.answers errand.endpoint
  let answered := (errand.probe.wait scene.clock attempt).isReached
  let r := Relay.run scene.host errand scene.terminals scene.terminal answered scene.occurrences
  { outcome := ⟨r.stdout, r.stderr, r.result⟩
    files := scene.files
    terminal := r.terminal
    launches := r.connection.launches.reverse }

/-- Does what the program is to do. -/
def perform (scene : Scene) : Task → Performance
  | answer e => ⟨.ofUsage e, scene.files, scene.terminal, []⟩
  | manage c =>
    let (outcome, files) := c.run scene.circumstances scene.files
    ⟨outcome, files, scene.terminal, []⟩
  | relay argv options =>
    match Client.Errand.prepare scene.circumstances scene.files scene.terminals argv options with
    | .error e => ⟨.ofFailure (.settings e), scene.files, scene.terminal, []⟩
    | .ok errand => performErrand scene errand

end Task

/-- A run of the program from the arguments of its process, `managing` if it is the program that
always manages. -/
def Performance.ofProcess (managing : Bool) (scene : Scene) (args : List (List UInt8)) :
    Performance :=
  match ProgramStart.ofBytes args with
  | .error message =>
    ⟨.ofFailure (.arguments message), scene.files, scene.terminal, []⟩
  | .ok c => (Task.ofInvocation (if managing then c.managing else c)).perform scene

end CommandRelay
