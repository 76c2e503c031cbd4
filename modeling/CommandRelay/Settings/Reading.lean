import CommandRelay.Files.Walk
import CommandRelay.Settings.Basic
import CommandRelay.Text.Utf8
import CommandRelay.Toml.Document

/-!
# Settings from TOML

Settings are written as tables.  What is missing keeps its default, a key that means nothing is
refused, and a group of settings may also be an array of its values in order.

## Main definitions

* `Settings.parse` — the settings of a text.
* `Settings.load` — the settings of a user.
-/

namespace CommandRelay

open Toml

/-- The values of a group of settings by their names.  A table has no other keys; an array has the
values in the order of the names. -/
def Toml.Value.group? (names : List String) : Value → Option (String → Option Value)
  | .table _ entries =>
    if entries.all fun e => names.any fun n => n.toList == e.1 then
      some fun name => Table.get? entries name.toList
    else none
  | .array items => some fun name => items[names.idxOf name]?
  | .tables items => some fun name => (items.reverse[names.idxOf name]?).map (.table .header)
  | _ => none

/-- The text of a value. -/
def Toml.Value.text? : Value → Option String
  | .text s => some (String.ofList s)
  | _ => none

/-- The natural number of a value. -/
def Toml.Value.natural? : Value → Option Nat
  | .integer n => if 0 ≤ n then some n.toNat else none
  | _ => none

/-- The texts of a value. -/
def Toml.Value.texts? : Value → Option (List String)
  | .array items => items.mapM text?
  | _ => none

/-- Whether a value is empty, as what stands for nothing is. -/
def Toml.Value.isEmpty : Value → Bool
  | .array items => items.isEmpty
  | .table _ entries => entries.isEmpty
  | _ => false

/-- The mode of a value: its name, or a table whose only key is the name. -/
def Toml.Value.mode? : Value → Option MappingMode
  | .text s => MappingMode.ofName? (String.ofList s)
  | .table _ [(key, value)] =>
    if value.isEmpty then MappingMode.ofName? (String.ofList key) else none
  | _ => none

namespace Settings

/-- A setting: its default if it is missing. -/
def setting? {α : Type} (read : Value → Option α) (missing : α) : Option Value → Option α
  | none => some missing
  | some v => read v

/-- How the agent is reached. -/
def transportOf? (v : Value) : Option TransportSettings := do
  let g ← v.group? ["endpoint", "start_timeout_ms"]
  let d : TransportSettings := {}
  return {
    endpoint := ← setting? (fun v => v.text?.map some) d.endpoint (g "endpoint")
    startTimeout := ← setting? Value.natural? d.startTimeout (g "start_timeout_ms") }

/-- Whom the agent runs commands as, and where. -/
def sessionOf? (v : Value) : Option SessionSettings := do
  let g ← v.group? ["user", "container"]
  let d : SessionSettings := {}
  return {
    user := ← setting? Value.text? d.user (g "user")
    container := ← setting? Value.text? d.container (g "container") }

/-- How names of files are mapped. -/
def pathsOf? (v : Value) : Option PathSettings := do
  let g ← v.group?
    ["mode", "linked", "mount_prefix", "explicit_prefix", "foreign_root", "nfs_root"]
  let d : PathSettings := {}
  return {
    mode := ← setting? Value.mode? d.mode (g "mode")
    linked := ← setting? Value.texts? d.linked (g "linked")
    mountPrefix := ← setting? Value.text? d.mountPrefix (g "mount_prefix")
    explicitPrefix := ← setting? Value.text? d.explicitPrefix (g "explicit_prefix")
    foreignRoot := ← setting? Value.text? d.foreignRoot (g "foreign_root")
    exportRoot := ← setting? (fun v => v.text?.map some) d.exportRoot (g "nfs_root") }

/-- Which variables cross. -/
def filterOf? (v : Value) : Option EnvironmentFilter := do
  let g ← v.group? ["gateway_host"]
  return { gateway := ← setting? Value.text? ({} : EnvironmentFilter).gateway (g "gateway_host") }

/-- All settings. -/
def ofValue? (v : Value) : Option Settings := do
  let g ← v.group? ["transport", "session", "paths", "env"]
  return {
    transport := ← setting? transportOf? {} (g "transport")
    session := ← setting? sessionOf? {} (g "session")
    paths := ← setting? pathsOf? {} (g "paths")
    filter := ← setting? filterOf? {} (g "env") }

/-- The settings of the text of a file. -/
def parse (path text : String) : Except SettingsError Settings :=
  match (Toml.parse? text.toList).bind fun t => ofValue? (.table .header t) with
  | some s => .ok s
  | none => .error (.malformed path)

/-- The settings of a file; a file that is not there settles nothing. -/
def readFile (t : FileTree) (cwd : Place) (path : String) : Except SettingsError Settings :=
  match t.read cwd path with
  | .error .notFound => .ok {}
  | .error e => .error (.unreadable path e.message)
  | .ok content =>
    match Text.ofBytes? content with
    | none => .error (.unreadable path FileError.notText.message)
    | some text => parse path text

/-- The settings of a user: those of the settings file under those of the environment. -/
def load (t : FileTree) (cwd : Place) (layout : Layout) (env : Environment) :
    Except SettingsError Settings :=
  (readFile t cwd layout.settingsFile).map fun s => s.override env

end Settings

end CommandRelay
