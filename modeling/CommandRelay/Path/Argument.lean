import CommandRelay.Path.Mapping

/-!
# Arguments that hold a path

An argument such as `--flag=/value` names a path after its equals sign; translating it leaves the
flag's name alone.

## Main definitions

* `PathArgument` — the three parts; `PathArgument.ofChars?` — finding them.
* `PathMapping.translateArguments` — translating every argument that is or holds a path.
-/

namespace CommandRelay

/-- The parts of an argument such as `--flag=/value`. -/
structure PathArgument where
  /-- The leading dashes. -/
  dashes : List Char
  /-- The name between the dashes and the equals sign. -/
  name : List Char
  /-- The path. -/
  value : List Char
  deriving DecidableEq, Repr

namespace PathArgument

/-- A character that may stand in a flag's name. -/
def isNameChar (c : Char) : Bool := c.isAlphanum || c == '_' || c == '-'

/-- A path with at least one character after its slash, and no line feed. -/
def isValue (v : List Char) : Bool :=
  match v with
  | '/' :: rest => !rest.isEmpty && !rest.contains '\n'
  | _ => false

/-- The parts of an argument: all leading dashes, a name, an equals sign and a path. -/
def ofChars? (arg : List Char) : Option PathArgument :=
  let dashes := arg.takeWhile (· == '-')
  let body := arg.dropWhile (· == '-')
  let name := body.takeWhile isNameChar
  match body.dropWhile isNameChar with
  | '=' :: value => if isValue value then some ⟨dashes, name, value⟩ else none
  | _ => none

/-- The argument that the parts came from. -/
def toChars (a : PathArgument) : List Char := a.dashes ++ a.name ++ '=' :: a.value

end PathArgument

/-- Whether an argument is an absolute path or holds one. -/
def isPathArgument (arg : List Char) : Bool :=
  Path.isAbsolute arg || (PathArgument.ofChars? arg).isSome

namespace PathMapping

/-- One argument with its path translated, if it is or holds one. -/
def translateArgumentChars (m : PathMapping) (direction : Direction) (arg : List Char) :
    List Char :=
  match PathArgument.ofChars? arg with
  | some parts => { parts with value := m.translateChars direction parts.value }.toChars
  | none => if Path.isAbsolute arg then m.translateChars direction arg else arg

/-- Every path-shaped argument translated, the names of flags left alone. -/
def translateArguments (m : PathMapping) (direction : Direction) (args : List String) :
    List String :=
  args.map fun arg => String.ofList (m.translateArgumentChars direction arg.toList)

end PathMapping

end CommandRelay
