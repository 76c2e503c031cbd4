import CommandRelay.CommandLine.Performance

/-!
# The program

Looks at what is around the process, lets the library decide what that leads to, and carries it
out.  No transport is linked in, so nobody answers at any endpoint; and symbolic links can be seen
and removed but not made, so a run that would make one is refused before it changes anything.
-/

namespace CommandRelay.Outside

/-- Adds the values of some variables of the process. -/
def readVariables (names : List String) (env : Environment) : IO Environment :=
  names.foldlM (fun (env : Environment) name => do
    match ← IO.getEnv name with
    | some value => return env.insert name value
    | none => return env) env

/-- The variables of the process that can matter. -/
def readEnvironment : IO Environment := do
  let env ← readVariables (["HOME", Layout.homeVariable, Settings.endpointVariable,
    OptIn.listName, OptIn.olderListName] ++ EnvironmentFilter.alwaysPass ++
    EnvironmentFilter.proxyNames) .empty
  readVariables ((OptIn.ofEnvironment env).map OptIn.name) env

/-- The place of an absolute path, as its names say. -/
def placeOf (path : String) : Place :=
  (((Path.clean path).toList.splitOn '/').filter (· ≠ [])).map String.ofList

/-- The path of a place. -/
def pathOf (p : Place) : String := "/" ++ "/".intercalate p

/-- Puts something at a place, below directories. -/
def putBelow (t : FileTree) (p : Place) (n : Node) : FileTree :=
  ((List.range p.length).foldl (fun (t : FileTree) i =>
    if i = 0 then t else t.put (p.take i) .directory) t).put p n

/-- What the entry of a directory is. -/
def nodeOf (kind : IO.FS.FileType) : Node :=
  match kind with
  | .dir => .directory
  | .symlink => .link ""
  | .file | .other => .file [] false

/-- Sees a directory with its entries, if it is there. -/
def seeDirectory (t : FileTree) (path : String) : IO FileTree := do
  let here := placeOf path
  try
    let root ← IO.FS.realPath path
    let entries ← root.readDir
    entries.foldlM (fun (t : FileTree) e => do
      return t.put (here ++ [e.fileName]) (nodeOf (← e.path.symlinkMetadata).type))
      (putBelow t here .directory)
  catch _ => return t

/-- Sees a file with its content, if it is there. -/
def seeFile (t : FileTree) (path : String) : IO FileTree := do
  try
    return putBelow t (placeOf path) (.file (← IO.FS.readBinFile path).toList false)
  catch _ => return t

/-- Sees the program's files. -/
def seeFiles (l : Layout) (cwd : String) : IO FileTree := do
  let t := if cwd = "/" then FileTree.empty else putBelow .empty (placeOf cwd) .directory
  let t ← [l.base, l.userLinks, l.defaultLinks, l.priorityLinks].foldlM seeDirectory t
  seeFile t l.settingsFile

/-- Makes the directories of one tree that another one lacks, and removes what it no longer has. -/
def realize (before after : FileTree) : IO Unit := do
  let new := after.nodes.entries.filter fun e => before.node? e.1 ≠ some e.2
  if new.any fun e => !e.2.isDirectory then
    throw (IO.userError "symbolic links cannot be made on this system")
  for (p, n) in before.nodes.entries.reverse do
    if (after.node? p).isNone then
      if n.isDirectory then IO.FS.removeDir (pathOf p) else IO.FS.removeFile (pathOf p)
  for (p, _) in new do
    IO.FS.createDirAll (pathOf p)

/-- What is around the process. -/
def readScene : IO Scene := do
  let env ← readEnvironment
  let circumstances : Circumstances := {
    home := (env.get? "HOME").getD ""
    cwd := (← IO.currentDir).toString
    env
    program := (← IO.appPath).toString }
  return {
    circumstances
    files := ← seeFiles circumstances.layout circumstances.cwd
    answers := fun _ => false
    host := { defaults := {}, isDirectory := fun _ => false, program := fun _ => .ok [] }
    terminals := {
      stdin := ← (← IO.getStdin).isTty
      stdout := ← (← IO.getStdout).isTty
      stderr := ← (← IO.getStderr).isTty } }

/-- Writes what a run has written, and gives its exit code. -/
def report (o : Outcome) : IO UInt32 := do
  (← IO.getStdout).write (ByteArray.mk o.output.toArray)
  (← IO.getStderr).write (ByteArray.mk o.errors.toArray)
  return UInt32.ofNat (o.exitCode % 256).toNat

end CommandRelay.Outside

/-- Runs the program under the name of its own file. -/
def main (args : List String) : IO UInt32 := do
  let scene ← CommandRelay.Outside.readScene
  let words := (scene.circumstances.program :: args).map CommandRelay.Text.toBytes
  let p := CommandRelay.Performance.ofProcess false scene words
  try
    CommandRelay.Outside.realize scene.files p.files
    CommandRelay.Outside.report p.outcome
  catch e =>
    (← IO.getStderr).putStr s!"ferry: {e}\n"
    return 1
