import CommandRelay.Files.Walk
import CommandRelay.Host.Shell
import CommandRelay.Text.Split

/-!
# Finding programs

A program is named by a path, or by a name that is looked for in the directories of a list.

## Main definitions

* `Programs.find` — the program of a launch.
* `Programs.start` — what it does.
-/

namespace CommandRelay.Programs

/-- The directories that a list of directories names. -/
def directories (path : String) : List String := (path.toList.splitOn ':').map String.ofList

/-- The list of directories that counts if there is none. -/
def usualPath : String := "/bin:/usr/bin"

/-- Whether what a path leads to can be run. -/
def check (t : FileTree) (cwd : Place) (path : String) : Except FileError Unit :=
  match t.stat cwd path with
  | .ok (.file _ true) => .ok ()
  | .ok _ => .error .permissionDenied
  | .error e => .error e

/-- The first of some paths that can be run.  One that may not be run is remembered while others
are tried. -/
def firstOf (t : FileTree) (cwd : Place) (worst : FileError) : List String → Except FileError String
  | [] => .error worst
  | path :: paths =>
    match check t cwd path with
    | .ok () => .ok path
    | .error .permissionDenied => firstOf t cwd .permissionDenied paths
    | .error .notFound | .error .notDirectory => firstOf t cwd worst paths
    | .error e => .error e

/-- The path of the program of a launch. -/
def find (t : FileTree) (spec : Launch) : Except FileError String :=
  match t.resolve [] spec.cwd with
  | .error e => .error e
  | .ok cwd =>
    if spec.program.isEmpty then .error .notFound
    else if spec.program.toList.contains '/' then
      (check t cwd spec.program).map fun _ => spec.program
    else
      let path := ((spec.env.find? fun v => v.1 = "PATH").map Prod.snd).getD usualPath
      firstOf t cwd .notFound ((directories path).map fun dir => Path.join dir spec.program)

/-- What the usual programs do. -/
def usual (path : String) (spec : Launch) : List Act :=
  match Path.fileName? path.toList with
  | some name =>
    match String.ofList name with
    | "sh" => Shell.acts spec
    | "false" => [.exit 1]
    | _ => [.exit 0]
  | none => [.exit 0]

/-- What the program of a launch does, or why it cannot be started. -/
def start (t : FileTree) (spec : Launch) : Except String (List Act) :=
  match find t spec with
  | .ok path => .ok (usual path spec)
  | .error e => .error s!"failed to start {spec.program}: {e.message}"

end CommandRelay.Programs
