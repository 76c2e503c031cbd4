import CommandRelay.Files.Script
import CommandRelay.Layout
import CommandRelay.Text.Quoted

/-!
# Command links

A command link is a symbolic link to the program, by whose name a remote command can be run.  The
user's links live in one directory; two more directories hold links that are always there, and
their names cannot be linked or unlinked.

## Main definitions

* `LinkRegistry` — the three directories and what links point at.
* `LinkRegistry.link`, `unlink`, `names`, `installDefaults` — the operations, as scripts.
* `LinkError` — why one fails.
-/

namespace CommandRelay

/-- The directories of links, and what every link points at. -/
structure LinkRegistry where
  userDir : String
  defaultDir : String
  priorityDir : String
  target : String
  deriving DecidableEq, Repr, Inhabited

/-- Why an operation on links fails. -/
inductive LinkError where
  | invalidName (name : String)
  | alreadyLinked (name : String) (byDefault : Bool)
  /-- The name of a link that is always there. -/
  | isProtected (name : String)
  | notLinked (name : String)
  /-- Something stands there that is no symbolic link. -/
  | notLink (name : String)
  | file (path : String) (cause : FileError)
  deriving DecidableEq, Repr

namespace LinkError

/-- The wording of an error. -/
def message : LinkError → String
  | invalidName name =>
    s!"invalid link name {Text.quoted name}: names must not contain a path separator"
  | alreadyLinked name byDefault =>
    name ++ " is already linked" ++ (if byDefault then " by default" else "")
  | isProtected name => s!"{name} is a default command and cannot be unlinked"
  | notLinked name => s!"{name} is not linked"
  | notLink name => s!"{name} exists but is not a symlink; refusing to remove it"
  | file path cause => s!"{path}: {cause.message}"

/-- The wording of an error followed by that of its cause. -/
def chain (e : LinkError) : String :=
  match e with
  | file _ cause => s!"{e.message}: {cause.message}"
  | _ => e.message

end LinkError

namespace LinkRegistry

/-- Links that are always there. -/
def defaultNames : List String := ["ferry", "ferryctl"]

/-- Links that are always there and come before everything else. -/
def priorityNames : List String := ["open"]

/-- The registry at its usual place, with links to a program. -/
def ofLayout (l : Layout) (target : String) : LinkRegistry :=
  ⟨l.userLinks, l.defaultLinks, l.priorityLinks, target⟩

/-- Whether a text is one name: not empty, without slashes, and neither `.` nor `..`. -/
def isName (name : String) : Bool :=
  !(name.isEmpty || name == "." || name == ".." || name.toList.contains '/')

/-- Where a user's link stands. -/
def userPath (r : LinkRegistry) (name : String) : String := Path.join r.userDir name

/-- Whether a name belongs to the links that are always there: it is one of theirs, or something
of that name stands in their directories. -/
def isProtected (r : LinkRegistry) (name : String) : Script Bool :=
  if defaultNames.contains name || priorityNames.contains name then return true
  else do
    match ← Script.lstat (Path.join r.defaultDir name) with
    | .ok _ => return true
    | .error _ =>
      match ← Script.lstat (Path.join r.priorityDir name) with
      | .ok _ => return true
      | .error _ => return false

/-- Makes a link of a name and says where it stands. -/
def link (r : LinkRegistry) (name : String) : Script (Except LinkError String) := do
  if !isName name then return .error (.invalidName name)
  if ← r.isProtected name then return .error (.alreadyLinked name true)
  let path := r.userPath name
  match ← Script.lstat path with
  | .ok _ => return .error (.alreadyLinked name false)
  | .error _ =>
    match ← Script.makeDirectories r.userDir with
    | .error e => return .error (.file r.userDir e)
    | .ok () =>
      match ← Script.makeLink r.target path with
      | .ok () => return .ok path
      | .error .alreadyExists => return .error (.alreadyLinked name false)
      | .error e => return .error (.file path e)

/-- Removes the link of a name. -/
def unlink (r : LinkRegistry) (name : String) : Script (Except LinkError Unit) := do
  if !isName name then return .error (.invalidName name)
  if ← r.isProtected name then return .error (.isProtected name)
  let path := r.userPath name
  match ← Script.lstat path with
  | .error .notFound => return .error (.notLinked name)
  | .error e => return .error (.file path e)
  | .ok n =>
    if !n.isLink then return .error (.notLink name)
    match ← Script.removeEntry path with
    | .ok () => return .ok ()
    | .error e => return .error (.file path e)

/-- The names of the user's links in order. -/
def names (r : LinkRegistry) : Script (Except LinkError (List String)) := do
  match ← Script.list r.userDir with
  | .error .notFound => return .ok []
  | .error e => return .error (.file r.userDir e)
  | .ok entries =>
    return .ok (((entries.filter fun e => e.2.isLink).map Prod.fst).mergeSort fun a b => a ≤ b)

/-! ## The links that are always there -/

/-- The directory that a directory stands in. -/
def parentOf (dir : String) : String := (Path.parent? dir).getD "/"

/-- How the names of directories under construction begin. -/
def temporaryStem : String := ".ferry-links-"

/-- Makes links of some names in a directory. -/
def fill (target dir : String) : List String → Script (Except LinkError Unit)
  | [] => return .ok ()
  | name :: names => do
    let path := Path.join dir name
    match ← Script.makeLink target path with
    | .ok () => fill target dir names
    | .error e => return .error (.file path e)

/-- Removes what stands in the way of a new directory, if anything does. -/
def clear (dir : String) : Script (Except LinkError Unit) := do
  match ← Script.stat dir with
  | .error _ => return .ok ()
  | .ok _ =>
    match ← Script.removeAll dir with
    | .ok () => return .ok ()
    | .error e => return .error (.file dir e)

/-- Fills a new directory with links and puts it in the place of another one. -/
def replace (target dir : String) (names : List String) (temporary : String) :
    Script (Except LinkError Unit) := do
  match ← fill target temporary names with
  | .error e => return .error e
  | .ok () =>
    match ← clear dir with
    | .error e => return .error e
    | .ok () =>
      match ← Script.move temporary dir with
      | .ok () => return .ok ()
      | .error e => return .error (.file dir e)

/-- Makes a directory hold links of some names and nothing else.  The links are made in a new
directory beside it, of which nothing remains if anything fails. -/
def installSet (target dir : String) (names : List String) : Script (Except LinkError Unit) := do
  let parent := parentOf dir
  match ← Script.makeDirectories parent with
  | .error e => return .error (.file parent e)
  | .ok () =>
    match ← Script.makeTemporary parent temporaryStem with
    | .error e => return .error (.file parent e)
    | .ok temporary =>
      let result ← replace target dir names temporary
      let _ ← Script.removeAll temporary
      return result

/-- Makes both directories of links that are always there anew. -/
def installDefaults (r : LinkRegistry) : Script (Except LinkError Unit) := do
  match ← installSet r.target r.defaultDir defaultNames with
  | .error e => return .error e
  | .ok () => installSet r.target r.priorityDir priorityNames

end LinkRegistry

end CommandRelay
