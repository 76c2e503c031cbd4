import CommandRelay.Environment.Basic
import CommandRelay.Text.Split

/-!
# The opt-in list

A user names further variables that shall cross in a list separated by colons.  An entry may carry
flags after a slash; they are kept but mean nothing yet.

## Main definitions

* `OptIn` — an entry; `OptIn.parse` — the entries of a list.
* `OptIn.ofEnvironment` — the entries of the variable that holds the list.
-/

namespace CommandRelay

/-- A variable that shall cross. -/
structure OptIn where
  name : String
  /-- What stands after the first slash. -/
  flags : Option String
  deriving DecidableEq, Repr

namespace OptIn

/-- The variable that holds the list. -/
def listName : String := "FERRYENV"

/-- An older name of that variable, asked if it is absent. -/
def olderListName : String := "ORBENV"

/-- Reads one entry; one without a name is none. -/
def ofPiece? (entry : List Char) : Option OptIn :=
  let (name, flags) := match Text.cutFirst? '/' entry with
    | some (name, flags) => (name, some (String.ofList flags))
    | none => (entry, none)
  if name = [] then none else some ⟨String.ofList name, flags⟩

/-- The entries of a list in their order; nameless ones are passed over. -/
def parse (list : String) : List OptIn := (list.toList.splitOn ':').filterMap ofPiece?

/-- The entries that an environment asks for. -/
def ofEnvironment (env : Environment) : List OptIn :=
  match (env.get? listName).or (env.get? olderListName) with
  | some list => parse list
  | none => []

/-- An entry as it is written in the list. -/
def toChars (e : OptIn) : List Char :=
  e.name.toList ++ match e.flags with
    | some flags => '/' :: flags.toList
    | none => []

end OptIn

end CommandRelay
