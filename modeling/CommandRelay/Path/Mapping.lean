import CommandRelay.Direction
import CommandRelay.Path.Clean

/-!
# Names of files on both sides

A file has one name on this machine and another on the foreign side, which mounts this machine's
files below a directory of its own.  Some directories have the same name on both sides, and a user
can write a name that is already foreign below an explicit prefix.

## Main definitions

* `MappingMode` — how eagerly absolute paths are mapped.
* `PathMapping` — everything that decides a name.
* `PathMapping.toForeign`, `toLocal`, `translate` — the names.
-/

namespace CommandRelay

/-- How eagerly absolute paths are mapped. -/
inductive MappingMode where
  /-- Only paths under the home directory. -/
  | relaxed
  /-- Every absolute path outside the linked directories. -/
  | aggressive
  deriving DecidableEq, Repr, Inhabited

namespace MappingMode

/-- The name of a mode. -/
def name : MappingMode → String
  | relaxed => "relaxed"
  | aggressive => "aggressive"

/-- The mode of an exact name. -/
def ofName? (s : String) : Option MappingMode :=
  if s = relaxed.name then some relaxed
  else if s = aggressive.name then some aggressive
  else none

/-- Reads a mode in any case of ASCII letters; a text that names none gives a message. -/
def parse (value : String) : Except String MappingMode :=
  let lower := Text.asciiLower value
  match ofName? lower with
  | some mode => .ok mode
  | none => .error ("invalid translation mode: " ++ lower)

end MappingMode

/-- Everything that decides how a file is named on the other side. -/
structure PathMapping where
  /-- Directories with the same name on both sides. -/
  linked : List String := ["/Users", "/Volumes", "/private", "/tmp", "/var/folders"]
  /-- Where the foreign side sees this machine's files. -/
  mountPrefix : String := "/mnt/mac"
  /-- What a user writes in front of a path that is already foreign. -/
  explicitPrefix : String := "/mnt/linux"
  /-- Where explicitly foreign paths are rooted. -/
  foreignRoot : String := "/"
  /-- The parent of the exports of the containers. -/
  exportRoot : Option String := none
  /-- The container whose export counts. -/
  container : Option String := none
  /-- The user's home directory. -/
  home : Option String := none
  /-- The directory that relative paths start from. -/
  cwd : Option String := none
  mode : MappingMode := .relaxed
  deriving DecidableEq, Repr, Inhabited

namespace PathMapping

open CommandRelay.Path

/-- Whether a cleaned path has the same name on both sides. -/
def isLinked (m : PathMapping) (p : List Char) : Bool := m.linked.any fun l => isUnder l.toList p

/-- Whether a cleaned path is the home directory or below it. -/
def isHome (m : PathMapping) (p : List Char) : Bool :=
  m.home.any fun h => isUnder (cleanChars h.toList) p

/-- The foreign name of a file on this machine. -/
def toForeignChars (m : PathMapping) (path : List Char) : List Char :=
  let p := cleanChars path
  if !isAbsolute p then p
  else if m.isLinked p then p
  else
    match remainderUnder? m.explicitPrefix.toList p with
    | some rest => joinUnder m.foreignRoot.toList rest
    | none =>
      if isUnder m.mountPrefix.toList p then p
      else
        match m.mode with
        | .relaxed => if m.isHome p then joinUnder m.mountPrefix.toList p else p
        | .aggressive => joinUnder m.mountPrefix.toList p

/-- The cleaned path from the root, if the current directory is known. -/
def resolve? (m : PathMapping) (path : List Char) : Option (List Char) :=
  let p := cleanChars path
  if isAbsolute p then some p
  else m.cwd.map fun cwd => cleanChars (cwd.toList ++ '/' :: p)

/-- The directory that the container's files are exported to. -/
def exportDir? (m : PathMapping) : Option (List Char) :=
  match m.exportRoot, m.container with
  | some root, some container => some (cleanChars (root.toList ++ '/' :: container.toList))
  | _, _ => none

/-- The name, in the mount namespace of a session, of a path that may be relative and may point
into a container's export. -/
def toLocalChars (m : PathMapping) (path : List Char) : List Char :=
  match m.resolve? path with
  | none => cleanChars path
  | some p =>
    match m.exportDir?.bind (remainderUnder? · p) with
    | some rest => rest
    | none =>
      if m.isLinked p then p
      else if isUnder m.mountPrefix.toList p then p
      else joinUnder m.mountPrefix.toList p

/-- The name of a file on the side that `direction` goes to. -/
def translateChars (m : PathMapping) (direction : Direction) (path : List Char) : List Char :=
  match direction with
  | .toForeign => m.toForeignChars path
  | .toLocal => m.toLocalChars path

/-- The name of a file on the side that `direction` goes to. -/
def translate (m : PathMapping) (direction : Direction) (path : String) : String :=
  String.ofList (m.translateChars direction path.toList)

end PathMapping

end CommandRelay
