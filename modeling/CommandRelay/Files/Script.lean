import CommandRelay.Files.Walk
import CommandRelay.Path.FileName

/-!
# Scripts of file operations

A script is a sequence of operations of the file system, each of which may depend on the answers to
those before it.  One operation is what happens at once: between two operations of a script, other
scripts may have theirs.

## Main definitions

* `FileCall` — one operation; `FileCall.run` — its answer and its effect.
* `Script` — a sequence of operations; `Script.run` — all of it at once.
* `Script.makeDirectories`, `Script.removeAll` — operations made of others.

## Main results

* `Script.run_bind` — a script runs after another on what that one left.
-/

namespace CommandRelay

/-- One operation of the file system. -/
inductive FileCall where
  /-- What stands at the place that a path names. -/
  | lstat (path : String)
  /-- What stands where a path leads in the end. -/
  | stat (path : String)
  /-- The names in a directory, with what they stand for. -/
  | list (path : String)
  | makeDirectory (path : String)
  | makeLink (target path : String)
  /-- A new socket that a program listens on. -/
  | bindSocket (listener : Nat) (path : String)
  /-- A new directory in another one, under a name that begins as given. -/
  | makeTemporary (parent stem : String)
  /-- Removes what is no directory. -/
  | removeEntry (path : String)
  /-- Removes a directory with everything in it. -/
  | removeTree (path : String)
  /-- Moves a directory to another name, where at most an empty directory stands. -/
  | move (source target : String)
  deriving DecidableEq, Repr

namespace FileCall

/-- What an operation answers. -/
def Answer : FileCall → Type
  | lstat _ | stat _ => Except FileError Node
  | list _ => Except FileError (List (String × Node))
  | makeTemporary _ _ => Except FileError String
  | _ => Except FileError Unit

/-- Puts something at a place where nothing stands. -/
def putNew (t : FileTree) (place : Place) (n : Node) : Except FileError Unit × FileTree :=
  if (t.node? place).isSome then (.error .alreadyExists, t) else (.ok (), t.put place n)

/-- How many characters are made up for the name of a temporary directory. -/
def suffixLength : Nat := 6

/-- How many characters there are to choose from. -/
def letterCount : Nat := 62

/-- The characters to choose from: digits, capitals and small letters. -/
def letter (i : Nat) : Char :=
  if i < 10 then Char.ofNat (48 + i)
  else if i < 36 then Char.ofNat (55 + i) else Char.ofNat (61 + i)

/-- The names that a temporary directory can have, by number. -/
def temporaryName (stem : String) (i : Nat) : String :=
  stem ++ String.ofList ((List.range suffixLength).map fun k =>
    letter (i / Nat.pow letterCount k % letterCount))

/-- How many such names there are. -/
def temporaryNames : Nat := Nat.pow letterCount suffixLength

/-- Makes a directory where a path names nothing yet, and says which path it has; if something is
there already, goes on otherwise. -/
def makeOrElse (t : FileTree) (cwd : Place) (path : String)
    (otherwise : Unit → Except FileError String × FileTree) : Except FileError String × FileTree :=
  match t.locate cwd path with
  | .error e => (.error e, t)
  | .ok p => if (t.node? p).isSome then otherwise () else (.ok path, t.put p .directory)

/-- Makes a directory in another one under the first of some names that nothing there has. -/
def makeUnder (t : FileTree) (cwd : Place) (parent stem : String) :
    Nat → Except FileError String × FileTree
  | 0 => (.error .alreadyExists, t)
  | i + 1 =>
    makeOrElse t cwd (Path.join parent (temporaryName stem i)) fun _ =>
      makeUnder t cwd parent stem i

/-- Moves a directory between places. -/
def moveTo (t : FileTree) (p q : Place) : Except FileError Unit × FileTree :=
  match t.node? p with
  | none => (.error .notFound, t)
  | some _ =>
    if p = q then (.ok (), t)
    else if p.isPrefixOf q then (.error .invalidArgument, t)
    else
      match t.node? q with
      | none => (.ok (), t.move p q)
      | some .directory =>
        if (t.entries q).isEmpty then (.ok (), (t.erase q).move p q) else (.error .notEmpty, t)
      | some _ => (.error .notDirectory, t)

/-- An operation at the place of a path, if there is such a place. -/
def atPlace {α : Type} (t : FileTree) (place : Except FileError Place)
    (act : Place → Except FileError α × FileTree) : Except FileError α × FileTree :=
  match place with
  | .ok p => act p
  | .error e => (.error e, t)

/-- The answer and the effect of an operation. -/
def run (cwd : Place) (t : FileTree) : (c : FileCall) → c.Answer × FileTree
  | lstat path => (t.lstat cwd path, t)
  | stat path => (t.stat cwd path, t)
  | list path => atPlace t (t.resolve cwd path) fun p =>
      match t.node? p with
      | some .directory => (.ok (t.entries p), t)
      | _ => (.error .notDirectory, t)
  | makeDirectory path => atPlace t (t.locate cwd path) fun p => putNew t p .directory
  | makeLink target path =>
    match Way.ofPath cwd target with
    | .error e => (.error e, t)
    | .ok _ => atPlace t (t.locate cwd path) fun p => putNew t p (.link target)
  | bindSocket listener path =>
    match t.locate cwd path with
    | .error e => (.error e, t)
    | .ok p =>
      if (t.node? p).isSome then (.error .addressInUse, t) else (.ok (), t.put p (.socket listener))
  | makeTemporary parent stem => makeUnder t cwd parent stem temporaryNames
  | removeEntry path => atPlace t (t.locate cwd path) fun p =>
      match t.node? p with
      | none => (.error .notFound, t)
      | some .directory => (.error .isDirectory, t)
      | some _ => (.ok (), t.erase p)
  | removeTree path => atPlace t (t.reach cwd path) fun p =>
      match t.node? p with
      | none => (.error .notFound, t)
      | some .directory =>
        -- it is emptied before anything can keep it from being removed
        match t.removalError? cwd path with
        | none => (.ok (), t.eraseBelow p)
        | some e => (.error e, t.eraseInside p)
      | some _ => (.error .notDirectory, t)
  | move source target => atPlace t (t.locate cwd source) fun p =>
      atPlace t (t.locate cwd target) fun q => moveTo t p q

end FileCall

/-- A sequence of operations with a result. -/
inductive Script (α : Type) where
  | done (a : α)
  | call (c : FileCall) (next : c.Answer → Script α)

namespace Script

variable {α β : Type}

/-- One script after another. -/
protected def bind : Script α → (α → Script β) → Script β
  | done a, f => f a
  | call c next, f => call c fun answer => (next answer).bind f

/-- One script goes on with the answer of the one before it. -/
instance : Monad Script where
  pure := done
  bind := Script.bind

/-- All operations of a script, one after another with nothing in between. -/
def run (cwd : Place) : Script α → FileTree → α × FileTree
  | done a, t => (a, t)
  | call c next, t =>
    let (answer, t) := c.run cwd t
    (next answer).run cwd t

/-- A script that has its result leaves the tree alone. -/
@[simp] theorem run_pure (cwd : Place) (a : α) (t : FileTree) :
    (pure a : Script α).run cwd t = (a, t) := rfl

/-- A script runs after another on what that one left. -/
theorem run_bind (cwd : Place) (s : Script α) (f : α → Script β) (t : FileTree) :
    (s >>= f).run cwd t = (f (s.run cwd t).1).run cwd (s.run cwd t).2 := by
  induction s generalizing t with
  | done a => rfl
  | call c next ih => exact ih (c.run cwd t).1 (c.run cwd t).2

/-- Asks what stands at the place that a path names. -/
def lstat (path : String) : Script (Except FileError Node) := call (.lstat path) done

/-- Asks what stands where a path leads in the end. -/
def stat (path : String) : Script (Except FileError Node) := call (.stat path) done

/-- Asks what is in a directory. -/
def list (path : String) : Script (Except FileError (List (String × Node))) :=
  call (.list path) done

/-- Makes a directory. -/
def makeDirectory (path : String) : Script (Except FileError Unit) :=
  call (.makeDirectory path) done

/-- Makes a symbolic link. -/
def makeLink (target path : String) : Script (Except FileError Unit) :=
  call (.makeLink target path) done

/-- Makes a socket that a program listens on. -/
def bindSocket (listener : Nat) (path : String) : Script (Except FileError Unit) :=
  call (.bindSocket listener path) done

/-- Makes a directory under a new name that begins as given. -/
def makeTemporary (parent stem : String) : Script (Except FileError String) :=
  call (.makeTemporary parent stem) done

/-- Removes what is no directory. -/
def removeEntry (path : String) : Script (Except FileError Unit) := call (.removeEntry path) done

/-- Removes a directory with everything in it. -/
def removeTree (path : String) : Script (Except FileError Unit) := call (.removeTree path) done

/-- Moves a directory to another name. -/
def move (source target : String) : Script (Except FileError Unit) :=
  call (.move source target) done

/-- Looking at a path leaves the tree alone. -/
@[simp] theorem run_lstat (cwd : Place) (path : String) (t : FileTree) :
    (lstat path).run cwd t = (t.lstat cwd path, t) := rfl

/-- Following a path leaves the tree alone. -/
@[simp] theorem run_stat (cwd : Place) (path : String) (t : FileTree) :
    (stat path).run cwd t = (t.stat cwd path, t) := rfl

/-- Making a temporary directory tries one name after another. -/
@[simp] theorem run_makeTemporary (cwd : Place) (parent stem : String) (t : FileTree) :
    (makeTemporary parent stem).run cwd t =
      FileCall.makeUnder t cwd parent stem FileCall.temporaryNames := by
  simp only [makeTemporary, run, FileCall.run]

/-- Whether a path leads to a directory. -/
def isDirectory (path : String) : Script Bool := do
  match ← stat path with
  | .ok n => return n.isDirectory
  | .error _ => return false

/-- Makes the first of some directories, each of which is the parent of the one before it, and
those of the others that are missing. -/
def makeAncestors : List String → Script (Except FileError Unit)
  | [] => return .ok ()
  | path :: parents => do
    match ← makeDirectory path with
    | .ok () => return .ok ()
    | .error .notFound =>
      match ← makeAncestors parents with
      | .error e => return .error e
      | .ok () =>
        match ← makeDirectory path with
        | .ok () => return .ok ()
        | .error e => if ← isDirectory path then return .ok () else return .error e
    | .error e => if ← isDirectory path then return .ok () else return .error e

/-- Makes a directory and its missing parents; one that is there already will do, and so will the
current directory, which has the empty path. -/
def makeDirectories (path : String) : Script (Except FileError Unit) :=
  if path.isEmpty then return .ok () else makeAncestors (Path.lineage path)

/-- Removes a directory with everything in it, or a symbolic link. -/
def removeAll (path : String) : Script (Except FileError Unit) := do
  match ← lstat path with
  | .error e => return .error e
  | .ok (.link _) => removeEntry path
  | .ok _ => removeTree path

end Script

end CommandRelay
