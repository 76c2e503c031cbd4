import CommandRelay.Client.Errand
import CommandRelay.CommandLine.Command
import CommandRelay.Json.Printer
import CommandRelay.Links.Registry

/-!
# What a run of the program leads to

## Main definitions

* `Failure` — why a run fails; `Failure.report` — what the program writes about it.
* `Outcome` — what a run writes, and how it ends; `Outcome.exitCode`, `Outcome.errors`.
* `LocalCommand.run` — what the program does on this side.
-/

namespace CommandRelay

/-- Why a run of the program fails. -/
inductive Failure where
  /-- An argument is not text. -/
  | arguments (message : String)
  | settings (e : SettingsError)
  | links (e : LinkError)
  | session (e : Client.SessionError)
  deriving DecidableEq, Repr

/-- The wording of an error, followed by those of its causes. -/
def Failure.chain : Failure → String
  | arguments message => message
  | settings e => e.message
  | links e => e.chain
  | session e => e.chain

/-- What the program writes about a failure that ends it.  The reader of TOML goes on in words of
its own, of which only the first are known. -/
def Failure.report (e : Failure) : String :=
  match e with
  | settings (.malformed _) => s!"ferry: {e.chain}: TOML parse error"
  | _ => s!"ferry: {e.chain}\n"

/-- What a run of the program writes, and how it ends. -/
structure Outcome where
  output : List UInt8 := []
  errorOutput : List UInt8 := []
  /-- The exit code, if the run does not fail. -/
  result : Except Failure Int := .ok 0

namespace Outcome

/-- A run that fails. -/
def ofFailure (e : Failure) : Outcome := { result := .error e }

/-- The exit code; every failure ends the program with the same one. -/
def exitCode (o : Outcome) : Int :=
  match o.result with
  | .ok code => code
  | .error _ => 1

/-- Everything on the error output, the report of a failure last. -/
def errors (o : Outcome) : List UInt8 :=
  match o.result with
  | .ok _ => o.errorOutput
  | .error e => o.errorOutput ++ Text.toBytes e.report

/-- A run that writes lines. -/
def ofLines (lines : List String) : Outcome :=
  { output := lines.flatMap fun line => Text.toBytes (line ++ "\n") }

/-- A run that tells the user how the program is used. -/
def ofUsage (e : UsageError) : Outcome :=
  if e.isAnswer then { output := Text.toBytes e.text, result := .ok e.exitCode }
  else { errorOutput := Text.toBytes e.text, result := .ok e.exitCode }

/-- Writes a line before everything else. -/
def withLine (line : String) (o : Outcome) : Outcome :=
  { o with output := Text.toBytes (line ++ "\n") ++ o.output }

/-- The run of a script that may fail, of which something is shown. -/
def ofScript {α : Type} (s : Script (Except LinkError α)) (shown : α → Outcome) :
    Script Outcome := do
  match ← s with
  | .ok a => return shown a
  | .error e => return ofFailure (.links e)

end Outcome

namespace LocalCommand

/-- Makes links and writes where they stand, up to the first that fails. -/
def linkAll (r : LinkRegistry) : List String → Script Outcome
  | [] => return {}
  | name :: names => do
    match ← r.link name with
    | .ok place => return (← linkAll r names).withLine place
    | .error e => return .ofFailure (.links e)

/-- Removes links, up to the first that fails. -/
def unlinkAll (r : LinkRegistry) : List String → Script Outcome
  | [] => return {}
  | name :: names => do
    match ← r.unlink name with
    | .ok () => unlinkAll r names
    | .error e => return .ofFailure (.links e)

/-- Writes what paths are called on one side. -/
def showPaths (c : Circumstances) (t : FileTree) (direction : Direction) (machine : Option String)
    (paths : List String) : Outcome :=
  match c.settings t with
  | .error e => .ofFailure (.settings e)
  | .ok s =>
    let mapping := s.mapping (some c.home) (some c.cwd) machine
    .ofLines (paths.map (mapping.translate direction))

/-- What the program does on this side. -/
def run (c : Circumstances) (t : FileTree) (command : LocalCommand) : Outcome × FileTree :=
  let r := LinkRegistry.ofLayout c.layout c.program
  let play (s : Script Outcome) := s.run (c.place t) t
  match command with
  | link names => play (linkAll r names)
  | unlink names => play (unlinkAll r names)
  | links false => play (Outcome.ofScript r.names .ofLines)
  | links true => play (Outcome.ofScript r.names fun names => .ofLines [Json.printStrings names])
  | installDefaults => play (Outcome.ofScript r.installDefaults fun _ => {})
  | path _ toLocal machine paths =>
    (showPaths c t (if toLocal then .toLocal else .toForeign) machine paths, t)

end LocalCommand

end CommandRelay
