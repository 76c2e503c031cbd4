import CommandRelay.Files.Error
import CommandRelay.Files.Tree
import CommandRelay.Path.Clean

/-!
# Finding places by paths

A path is walked name by name from the root or from the current directory.  Symbolic links on the
way are followed, as often as the system allows; the last name of a path is followed only where
the operation asks what it stands for in the end.

## Main definitions

* `FileTree.walk` — walking along names.
* `FileTree.locate`, `FileTree.reach` — the place that a path names.
* `FileTree.resolve` — the place where a path leads in the end.
-/

namespace CommandRelay

/-- A path as the names to walk along from a place.  A path that ends in a slash walks on to the
directory itself. -/
structure Way where
  start : Place
  names : List String
  /-- The path ends in a slash. -/
  slash : Bool
  deriving DecidableEq, Repr

namespace Way

/-- The longest name, in bytes. -/
def maxName : Nat := 255

/-- The length that no path has, in bytes. -/
def maxPath : Nat := 4096

/-- The way that a path describes, walked from the current directory if it is relative. -/
def ofPath (cwd : Place) (path : String) : Except FileError Way :=
  let cs := path.toList
  if '\x00' ∈ cs then .error .nulInName
  else if cs.isEmpty then .error .notFound
  else if maxPath ≤ path.utf8ByteSize then .error .nameTooLong
  else .ok {
    start := if Path.isAbsolute cs then [] else cwd
    names := ((cs.splitOn '/').filter fun s => s != []).map String.ofList
    slash := cs.getLast? = some '/' }

end Way

namespace FileTree

/-- How many symbolic links are followed on one walk. -/
def maxLinks : Nat := 40

/-- The place of a name in a directory. -/
def child (t : FileTree) (here : Place) (name : String) : Except FileError Place :=
  match t.node? here with
  | none => .error .notFound
  | some .directory =>
    if name = "." then .ok here
    else if name = ".." then .ok here.dropLast
    else if Way.maxName < name.utf8ByteSize then .error .nameTooLong
    else .ok (here ++ [name])
  | some _ => .error .notDirectory

/-- The names that a link's target adds to a walk, and where it starts. -/
def followLink (here : Place) (target : String) (names : List String) :
    Except FileError (Place × List String) :=
  match Way.ofPath here target with
  | .ok w => .ok (w.start, w.names ++ (if w.slash then ["."] else []) ++ names)
  | .error e => .error e

/-- Walks along names up to the first symbolic link: the place where the walk ends, or where to go
on and with which names. -/
def stride (t : FileTree) (here : Place) :
    List String → Except FileError (Place ⊕ Place × List String)
  | [] => .ok (.inl here)
  | name :: names =>
    match t.child here name with
    | .error e => .error e
    | .ok place =>
      match t.node? place with
      | none => .error .notFound
      | some (.link target) => (followLink here target names).map .inr
      | some _ => t.stride place names

/-- Walks along names, following at most `links` symbolic links. -/
def walk (t : FileTree) (links : Nat) (here : Place) (names : List String) :
    Except FileError Place :=
  match t.stride here names with
  | .error e => .error e
  | .ok (.inl place) => .ok place
  | .ok (.inr (place, names)) =>
    match links with
    | 0 => .error .tooManyLinks
    | links + 1 => t.walk links place names

/-- Along no names a walk ends where it starts. -/
theorem walk_nil (t : FileTree) (links : Nat) (here : Place) : t.walk links here [] = .ok here := by
  cases links <;> rw [walk, stride]

/-- The place that a way leads to in the end, where something stands. -/
def resolveWay (t : FileTree) (w : Way) : Except FileError Place :=
  t.walk maxLinks w.start (w.names ++ if w.slash then ["."] else [])

/-- The place that a path leads to in the end, where something stands. -/
def resolve (t : FileTree) (cwd : Place) (path : String) : Except FileError Place := do
  t.resolveWay (← Way.ofPath cwd path)

/-- The place that a path names, whether something stands there or not: the last name is not
followed, and a slash behind it does not count. -/
def locate (t : FileTree) (cwd : Place) (path : String) : Except FileError Place := do
  let w ← Way.ofPath cwd path
  match w.names.getLast? with
  | none => return w.start
  | some name => t.child (← t.walk maxLinks w.start w.names.dropLast) name

/-- What stands where a path leads in the end. -/
def stat (t : FileTree) (cwd : Place) (path : String) : Except FileError Node := do
  match t.node? (← t.resolve cwd path) with
  | some n => return n
  | none => throw .notFound

/-- The place that a path names, where a slash behind it asks for the directory that it leads to. -/
def reach (t : FileTree) (cwd : Place) (path : String) : Except FileError Place := do
  let w ← Way.ofPath cwd path
  if w.slash then t.resolveWay w else t.locate cwd path

/-- What stands at the place that a path names. -/
def lstat (t : FileTree) (cwd : Place) (path : String) : Except FileError Node := do
  match t.node? (← t.reach cwd path) with
  | some n => return n
  | none => throw .notFound

/-- Why a directory cannot be removed by a path that leads to it, if so: the path has to end in the
directory's own name, not in a dot or in the name of a symbolic link. -/
def removalError? (t : FileTree) (cwd : Place) (path : String) : Option FileError :=
  match Way.ofPath cwd path with
  | .error e => some e
  | .ok w =>
    match w.names.getLast? with
    | some "." => some .invalidArgument
    | some ".." => some .notEmpty
    | _ =>
      match t.locate cwd path with
      | .error e => some e
      | .ok p => if t.node? p = some .directory then none else some .notDirectory

/-- Whether a path leads to a directory. -/
def isDirectory (t : FileTree) (cwd : Place) (path : String) : Bool :=
  match t.stat cwd path with
  | .ok n => n.isDirectory
  | .error _ => false

/-- The content of the file that a path leads to. -/
def read (t : FileTree) (cwd : Place) (path : String) : Except FileError (List UInt8) := do
  match ← t.stat cwd path with
  | .file content _ => return content
  | .directory => throw .isDirectory
  | _ => throw .notFound

/-- Writes the file that a path leads to, making it if nothing stands there. -/
def write (t : FileTree) (cwd : Place) (path : String) (content : List UInt8) :
    Except FileError FileTree :=
  match t.resolve cwd path with
  | .ok p =>
    match t.node? p with
    | some (.file _ executable) => .ok (t.put p (.file content executable))
    | some .directory => .error .isDirectory
    | _ => .error .notFound
  | .error .notFound => do
    let p ← t.locate cwd path
    if (t.node? p).isSome then throw .notFound else return t.put p (.file content false)
  | .error e => .error e

end FileTree

end CommandRelay
