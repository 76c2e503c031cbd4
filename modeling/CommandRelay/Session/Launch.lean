import CommandRelay.Environment.Basic
import CommandRelay.Path.FileName
import CommandRelay.Session.Metadata
import CommandRelay.Session.Payload
import CommandRelay.Terminal.Attributes

/-!
# Launching a command

What a client sends ahead of a start request is collected, and folded into the launch of a program
once the start request arrives.

## Main definitions

* `HostProfile` — what the agent's own host fills in.
* `LaunchRequest` — what a client has asked for so far.
* `Launch` — a program with everything it is started with.
* `LaunchRequest.launch` — the launch that a start request asks for.
-/

namespace CommandRelay

/-- What the agent's own host fills in. -/
structure HostProfile where
  shell : String := "/bin/sh"
  home : Option String := none
  path : String := "/usr/local/sbin:/usr/local/bin:/usr/sbin:/usr/bin:/sbin:/bin"
  user : Option String := none
  deriving DecidableEq, Repr, Inhabited

namespace HostProfile

/-- The defaults of an environment; an empty variable counts as none. -/
def ofEnvironment (env : Environment) (home : Option String) : HostProfile :=
  let d : HostProfile := {}
  { shell := (env.nonEmpty? "SHELL").getD d.shell
    home
    path := (env.nonEmpty? "PATH").getD d.path
    user := (env.nonEmpty? "USER").or (env.nonEmpty? "LOGNAME") }

/-- The name under which the shell is a login shell: its file name after a hyphen. -/
def loginName (h : HostProfile) : String :=
  "-" ++ (((Path.fileName? h.shell.toList).map String.ofList).getD h.shell)

end HostProfile

/-- A terminal that a client asks for. -/
structure TerminalRequest where
  /-- The name of the kind of terminal. -/
  term : String
  size : Terminal.Size
  modes : Terminal.Modes
  deriving DecidableEq

/-- A program with everything it is started with. -/
structure Launch where
  program : String
  /-- The name that the program is started under. -/
  argv0 : String
  args : List String
  cwd : String
  /-- All variables in the order in which they were first set. -/
  env : List (String × String)
  /-- The terminal of the program, if it has one. -/
  terminal : Option TerminalRequest
  /-- The streams that are on the terminal. -/
  streams : Streams
  deriving DecidableEq

/-- Why a start request is refused. -/
inductive LaunchError where
  | metadata (fault : Json.Fault)
  | payload (cause : Payload.Error)
  deriving DecidableEq, Repr

/-- The wording of an error; what is wrong with JSON is worded by the reader of JSON. -/
def LaunchError.message : LaunchError → String
  | metadata _ => "malformed session metadata: "
  | payload cause => cause.message

/-- Gives a variable a value, in its place if it has one already. -/
def setVariable (env : List (String × String)) (name value : String) : List (String × String) :=
  match env with
  | [] => [(name, value)]
  | e :: rest => if e.1 = name then (name, value) :: rest else e :: setVariable rest name value

/-- What a client has asked for on a channel. -/
structure LaunchRequest where
  /-- The variables in the order of their requests. -/
  env : List (String × String) := []
  /-- The text of the metadata, if it was sent. -/
  carried : Option String := none
  terminal : Option TerminalRequest := none
  deriving DecidableEq, Inhabited

namespace LaunchRequest

/-- A variable: the one that carries the metadata is kept apart. -/
def setEnv (r : LaunchRequest) (name value : String) : LaunchRequest :=
  if name = Metadata.carrierName then { r with carried := some value }
  else { r with env := r.env ++ [(name, value)] }

/-- A terminal. -/
def setTerminal (r : LaunchRequest) (t : TerminalRequest) : LaunchRequest :=
  { r with terminal := some t }

/-- The metadata.  A client that sent none but asked for a terminal gets it on every stream. -/
def metadata (r : LaunchRequest) : Except Json.Fault Metadata :=
  match r.carried with
  | some raw => Metadata.decode raw
  | none => .ok (if r.terminal.isSome then Metadata.withAllTerminals {} else {})

/-- The streams that are on the terminal: none without one. -/
def streams (r : LaunchRequest) (m : Metadata) : Streams :=
  if r.terminal.isSome then m.terminals else {}

/-- The program, the name it is started under and its arguments: an argument list as it is, or the
login shell with or without a command text. -/
def command (mode : LaunchMode) (payload : Option (List UInt8)) (host : HostProfile) :
    Except Payload.Error (String × String × List String) :=
  match mode, payload with
  | .rawArgv, some payload =>
    (Payload.arguments payload).map fun (program, args) => (program, program, args)
  | _, some payload =>
    (Payload.commandText payload).map fun text => (host.shell, host.loginName, ["-c", text])
  | _, none => .ok (host.shell, host.loginName, [])

/-- The directory to run in: the one asked for, else the home directory, else the root. -/
def directory (isDirectory : String → Bool) (m : Metadata) (host : HostProfile) : String :=
  (((if m.pwd.isEmpty then [] else [m.pwd]) ++ host.home.toList).find? isDirectory).getD "/"

/-- The variables that every program gets. -/
def baseEnvironment (host : HostProfile) : List (String × String) :=
  [("PATH", host.path), ("SHELL", host.shell)] ++
  (host.home.map fun home => ("HOME", home)).toList ++
  (host.user.map fun user => [("USER", user), ("LOGNAME", user)]).getD []

/-- All variables of the program: those asked for win over those of the host, and the directory
and the terminal have the last word. -/
def environment (r : LaunchRequest) (host : HostProfile) (cwd : String) :
    List (String × String) :=
  let env := r.env.foldl (fun env e => setVariable env e.1 e.2) (baseEnvironment host)
  let env := setVariable env "PWD" cwd
  match r.terminal with
  | some t => setVariable env "TERM" t.term
  | none => env

/-- The launch that a start request asks for, with a command or without one. -/
def launch (r : LaunchRequest) (isDirectory : String → Bool) (payload : Option (List UInt8))
    (host : HostProfile) : Except LaunchError Launch :=
  match r.metadata with
  | .error fault => .error (.metadata fault)
  | .ok m =>
    match command m.mode payload host with
    | .error cause => .error (.payload cause)
    | .ok (program, name, args) =>
      let streams := r.streams m
      let cwd := directory isDirectory m host
      .ok {
        program, args, cwd, streams
        argv0 := m.argv0.getD name
        env := r.environment host cwd
        terminal := if streams.any then r.terminal else none }

end LaunchRequest

end CommandRelay
