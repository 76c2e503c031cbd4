import CommandRelay.Text.Blank
import CommandRelay.Text.Split

/-!
# Routing

A session is routed by a text `user@container` that travels as the user name of the transport.

## Main definitions

* `Route` — user and container; `Route.parse`, `Route.display`.
-/

namespace CommandRelay

/-- Who a session is for and where it runs. -/
structure Route where
  /-- The user; none is the container's own default. -/
  user : Option String
  container : String
  deriving DecidableEq, Repr

namespace Route

/-- What stands for the container's default user. -/
def defaultUser : String := "[default]"

/-- The container when none is named. -/
def defaultContainer : String := "default"

/-- There is a route, the default one. -/
instance : Inhabited Route := ⟨none, defaultContainer⟩

/-- The user that a trimmed text names. -/
def userOf (name : List Char) : Option String :=
  if name = [] ∨ name = defaultUser.toList then none else some (String.ofList name)

/-- The container that a trimmed text names. -/
def containerOf (name : List Char) : String :=
  if name = [] then defaultContainer else String.ofList name

/-- Reads a routing text, cut at its last `@`.  Nothing is refused: what is empty takes its
default. -/
def parseChars (raw : List Char) : Route :=
  let (user, container) := (Text.cutLast? '@' raw).getD (raw, [])
  ⟨userOf (Text.trim user), containerOf (Text.trim container)⟩

/-- Reads a routing text. -/
def parse (raw : String) : Route := parseChars raw.toList

/-- The routing text. -/
def display (r : Route) : String := r.user.getD defaultUser ++ "@" ++ r.container

/-- Replaces the user if one is given. -/
def withUser (r : Route) (user : Option String) : Route := { r with user := user.or r.user }

/-- Replaces the container if one is given. -/
def withContainer (r : Route) (container : Option String) : Route :=
  { r with container := container.getD r.container }

end Route

end CommandRelay
