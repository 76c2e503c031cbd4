import CommandRelay.Client.Session
import CommandRelay.Settings.Reading

/-!
# What a client sets out with

Before a session begins, the settings are read, and the endpoint, the plan and the time to wait
for the agent follow from them.

## Main definitions

* `Circumstances` — where and how the program runs.
* `Client.Errand`, `Client.Errand.prepare` — what a client sets out with.
-/

namespace CommandRelay

/-- Where and how the program runs. -/
structure Circumstances extends Vantage where
  env : Environment
  /-- The path of the program itself. -/
  program : String

namespace Circumstances

/-- Where the program's files are. -/
def layout (c : Circumstances) : Layout := .ofEnvironment c.env c.home

/-- Where the current directory stands. -/
def place (c : Circumstances) (t : FileTree) : Place := (t.resolve [] c.cwd).toOption.getD []

/-- The settings that hold. -/
def settings (c : Circumstances) (t : FileTree) : Except SettingsError Settings :=
  Settings.load t (c.place t) c.layout c.env

end Circumstances

namespace Client

/-- What a client sets out with. -/
structure Errand where
  endpoint : Endpoint
  plan : Plan
  probe : Probe

/-- What a client sets out with to have a command run, or an interactive shell if the command has
no words. -/
def Errand.prepare (c : Circumstances) (t : FileTree) (terminals : Streams) (argv : List String)
    (options : RunOptions) : Except SettingsError Errand :=
  match c.settings t with
  | .error e => .error e
  | .ok s =>
    match s.endpoint c.layout with
    | .error e => .error e
    | .ok endpoint => .ok {
        endpoint
        plan := Plan.build s argv options c.env terminals c.toVantage
        probe := ⟨s.transport.startTimeout⟩ }

end Client

end CommandRelay
