import CommandRelay.Endpoint
import CommandRelay.Files.Script

/-!
# Listening for clients

An agent listens at an endpoint.  If that is a socket in the file system, whatever stood there
before is replaced, and the socket is removed when the agent stops.

## Main definitions

* `Agent.Listener` — an agent that listens, or is about to.
* `Agent.Listener.bind`, `Agent.Listener.shutdown` — how it begins and how it stops.
* `Agent.answers` — whether anybody listens at an endpoint.
-/

namespace CommandRelay.Agent

/-- An agent that listens on a socket, or is about to. -/
structure Listener where
  /-- The number of the agent's process. -/
  owner : Nat
  path : String
  deriving DecidableEq, Repr

/-- Why an agent cannot listen. -/
inductive ListenError where
  | remove (path : String) (cause : FileError)
  | create (path : String) (cause : FileError)
  | bind (path : String) (cause : FileError)
  deriving DecidableEq, Repr

/-- The wording of an error. -/
def ListenError.message : ListenError → String
  | remove path cause => s!"failed to remove stale socket {path}: {cause.message}"
  | create path cause => s!"failed to create {path}: {cause.message}"
  | bind path cause => s!"failed to bind unix listener on {path}: {cause.message}"

namespace Listener

/-- Removes what stands at the path, if it leads anywhere. -/
def clear (l : Listener) : Script (Except ListenError Unit) := do
  match ← Script.stat l.path with
  | .error _ => return .ok ()
  | .ok _ =>
    match ← Script.removeEntry l.path with
    | .ok () => return .ok ()
    | .error e => return .error (.remove l.path e)

/-- Makes the directory that the path is in. -/
def makeParent (l : Listener) : Script (Except ListenError Unit) :=
  match Path.parent? l.path with
  | none => return .ok ()
  | some parent => do
    match ← Script.makeDirectories parent with
    | .ok () => return .ok ()
    | .error e => return .error (.create parent e)

/-- Begins to listen. -/
def bind (l : Listener) : Script (Except ListenError Unit) := do
  match ← l.clear with
  | .error e => return .error e
  | .ok () =>
    match ← l.makeParent with
    | .error e => return .error e
    | .ok () =>
      match ← Script.bindSocket l.owner l.path with
      | .ok () => return .ok ()
      | .error e => return .error (.bind l.path e)

/-- Stops: the path is removed, whatever stands there by now. -/
def shutdown (l : Listener) : Script Unit := do
  discard (Script.removeEntry l.path)

end Listener

/-- The names of this host itself. -/
def ownNames : List String := ["127.0.0.1", "localhost", "[::1]", "0.0.0.0", "[::]"]

/-- The host and the port of an address. -/
def splitAddress (address : String) : String × Option Nat :=
  match Text.cutLast? ':' address.toList with
  | some (host, port) =>
    (String.ofList host, Endpoint.decimal? (if port.head? = some '+' then port.tail else port))
  | none => (address, none)

/-- Whether a caller at one address reaches a listener at another one: the ports are the same, and
so are the hosts, if not both are this host. -/
def reaches (caller listener : String) : Bool :=
  let (h, p) := splitAddress caller
  let (k, q) := splitAddress listener
  p == q && (h == k || (ownNames.contains h && ownNames.contains k))

/-- Whether anybody listens at an endpoint, where all sockets of the file system and some addresses
are listened on. -/
def answers (t : FileTree) (cwd : Place) (addresses : List String) : Endpoint → Bool
  | .unix path =>
    match t.stat cwd path with
    | .ok (.socket _) => true
    | _ => false
  | .tcp address => addresses.any (reaches address)

end CommandRelay.Agent
