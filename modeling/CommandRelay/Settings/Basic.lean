import CommandRelay.Endpoint
import CommandRelay.Environment.Filter
import CommandRelay.Layout
import CommandRelay.Path.Mapping
import CommandRelay.Route
import CommandRelay.Text.Quoted

/-!
# Settings

What the user can settle once for all runs, with a default for everything.

## Main definitions

* `Settings` — all settings.
* `Settings.endpoint`, `Settings.route`, `Settings.mapping`, `Settings.filter` — what they mean.
-/

namespace CommandRelay

/-- How the agent is reached. -/
structure TransportSettings where
  /-- The endpoint as it was written, if it was. -/
  endpoint : Option String := none
  /-- How many milliseconds to wait for the agent to listen. -/
  startTimeout : Nat := 10000
  deriving DecidableEq, Repr, Inhabited

/-- Whom the agent runs commands as, and where. -/
structure SessionSettings where
  user : String := Route.defaultUser
  container : String := Route.defaultContainer
  deriving DecidableEq, Repr, Inhabited

/-- How names of files are mapped. -/
structure PathSettings where
  mode : MappingMode := .relaxed
  /-- Directories that have the same name on both sides. -/
  linked : List String := ({} : PathMapping).linked
  mountPrefix : String := ({} : PathMapping).mountPrefix
  explicitPrefix : String := ({} : PathMapping).explicitPrefix
  foreignRoot : String := ({} : PathMapping).foreignRoot
  /-- The parent of the exports of the containers, if it is not the usual one. -/
  exportRoot : Option String := none
  deriving DecidableEq, Repr, Inhabited

/-- All settings. -/
structure Settings where
  transport : TransportSettings := {}
  session : SessionSettings := {}
  paths : PathSettings := {}
  /-- Which variables cross. -/
  filter : EnvironmentFilter := {}
  deriving DecidableEq, Repr, Inhabited

/-- Why settings cannot be used. -/
inductive SettingsError where
  /-- The file is there and cannot be read. -/
  | unreadable (path why : String)
  /-- The file is not a text in TOML that holds settings. -/
  | malformed (path : String)
  /-- The endpoint is not one. -/
  | endpoint (raw : String) (cause : EndpointError)
  deriving DecidableEq, Repr

/-- The wording of an error with its causes; what is wrong with TOML is worded by its reader. -/
def SettingsError.message : SettingsError → String
  | unreadable path why => s!"failed to read {path}: {why}"
  | malformed path => s!"invalid TOML in {path}"
  | endpoint raw cause => s!"invalid transport endpoint {Text.quoted raw}: {cause.message}"

namespace Settings

/-- The variable that settles the endpoint over everything else. -/
def endpointVariable : String := "FERRY_ENDPOINT"

/-- The settings under an environment, in which a variable may name the endpoint. -/
def override (s : Settings) (env : Environment) : Settings :=
  let named := Text.trimmed ((env.get? endpointVariable).getD "")
  if named.isEmpty then s else { s with transport.endpoint := some named }

/-- The endpoint: the one that is settled, or else the agent's socket at its usual place. -/
def endpoint (s : Settings) (layout : Layout) : Except SettingsError Endpoint :=
  match s.transport.endpoint with
  | none => .ok (.unix layout.agentSocket)
  | some raw =>
    match Endpoint.parse raw with
    | .ok e => .ok e
    | .error cause => .error (.endpoint raw cause)

/-- The user and the container. -/
def route (s : Settings) : Route := Route.parse (s.session.user ++ "@" ++ s.session.container)

/-- The mapping of names of files as seen from a home directory and a current directory. -/
def mapping (s : Settings) (home cwd : Option String) (container : Option String) :
    PathMapping where
  linked := s.paths.linked
  mountPrefix := s.paths.mountPrefix
  explicitPrefix := s.paths.explicitPrefix
  foreignRoot := s.paths.foreignRoot
  exportRoot := s.paths.exportRoot.or (home.map (· ++ "/Linux"))
  container := container
  home := home
  cwd := cwd
  mode := s.paths.mode

end Settings

end CommandRelay
