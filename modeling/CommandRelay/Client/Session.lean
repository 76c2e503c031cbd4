import CommandRelay.Agent.Message
import CommandRelay.Client.Probe
import CommandRelay.Exit
import CommandRelay.Session.Plan
import CommandRelay.Terminal.Attributes

/-!
# A session of a client

A session opens with a row of steps, each of which may fail: the agent is called, the local
terminal is read and described, the command is asked for.  Then it passes on what comes from either
side, in whatever order it comes, until the channel ends.  It leaves the local terminal as it was
however it ends.

## Main definitions

* `Client.Opening` — a step on the way to a running command; `Client.openings` — all of them.
* `Client.Event` — what can happen to a session; `Client.Effect` — what a session does to the
  outside.
* `Client.Session` — the state of a session; `Client.Session.step` — what an event does.
-/

namespace CommandRelay

/-- The kind of terminal that is named if the environment names none. -/
def Plan.usualTerm : String := "xterm"

/-- The request for a terminal like the one here. -/
def Plan.terminalRequest (p : Plan) (t : Terminal.Pty) : ClientMessage :=
  .terminal ((p.env.get? "TERM").getD usualTerm)
    t.size.cols.toNat t.size.rows.toNat t.size.pixelWidth.toNat t.size.pixelHeight.toNat
    (Terminal.Modes.carried t.attributes.toModes.toPairs)

/-- The request to start the command, or an interactive shell. -/
def Plan.startRequest (p : Plan) : ClientMessage :=
  match p.payload with
  | some text => .exec (Text.toBytes text)
  | none => .shell

/-- The message that carries the session's description. -/
def Plan.metadataRequest (p : Plan) : ClientMessage := .env Metadata.carrierName p.metadata.encode

namespace Client

/-! ## Opening -/

/-- A step on the way to a running command. -/
inductive Opening where
  /-- Waits until somebody listens at the endpoint. -/
  | probe
  | connect
  | greet
  | authenticate
  | openChannel
  /-- Looks at the local terminal. -/
  | readTerminal
  | requestTerminal
  /-- Puts the local terminal in raw mode. -/
  | enterRaw
  | sendVariable (name value : String)
  | sendMetadata
  | start
  /-- Begins to catch signals. -/
  | catchSignals
  /-- Begins to read the input. -/
  | readInput
  deriving DecidableEq, Repr

/-- The steps that have to do with the local terminal. -/
def terminalOpenings (terminals : Streams) : List Opening :=
  if terminals.any then
    [.readTerminal, .requestTerminal] ++ if terminals.wantsRawMode then [.enterRaw] else []
  else []

/-- All steps on the way to a running command. -/
def openings (p : Plan) (terminals : Streams) : List Opening :=
  [.probe, .connect, .greet, .authenticate, .openChannel] ++ terminalOpenings terminals ++
  (p.env.entries.map fun e => .sendVariable e.1 e.2) ++
  [.sendMetadata, .start, .catchSignals, .readInput]

/-- What a step sends on the channel. -/
def Opening.message? (p : Plan) (seen : Terminal.Pty) : Opening → Option ClientMessage
  | requestTerminal => some (p.terminalRequest seen)
  | sendVariable name value => some (.env name value)
  | sendMetadata => some p.metadataRequest
  | start => some p.startRequest
  | _ => none

/-! ## Errors -/

/-- Why a session fails. -/
inductive SessionError where
  /-- Nobody listens at the endpoint. -/
  | unreachable (probe : Probe) (endpoint : Endpoint)
  /-- A step on the way to a running command failed. -/
  | opening (endpoint : Endpoint) (step : Opening) (cause : String)
  /-- The agent does not start the command. -/
  | refused
  /-- Output cannot be written here. -/
  | output (cause : String)
  deriving DecidableEq, Repr

/-- What was being tried in a step. -/
def Opening.purpose (e : Endpoint) : Opening → String
  | probe => "failed to wait for the endpoint"
  | connect =>
    match e with
    | .unix path => s!"failed to connect to {path}"
    | .tcp address => s!"failed to connect to {address}"
  | greet => "SSH handshake failed"
  | authenticate => "SSH authentication failed"
  | openChannel => "failed to open session channel"
  | readTerminal => "failed to read local terminal"
  | requestTerminal => "PTY request failed"
  | enterRaw => "failed to enter raw mode"
  | sendVariable name _ => s!"failed to send variable {name}"
  | sendMetadata => "failed to send session metadata"
  | start => "start request failed"
  | catchSignals => "failed to register signal handlers"
  | readInput => "failed to spawn stdin thread"

/-- The wording of an error, followed by that of its cause. -/
def SessionError.chain : SessionError → String
  | unreachable probe endpoint => probe.message endpoint
  | opening endpoint step cause => s!"{step.purpose endpoint}: {cause}"
  | refused => "session server refused to start the command"
  | output cause => cause

/-! ## Events and effects -/

/-- Something that happens to a session. -/
inductive Event where
  /-- The next step on the way to a running command succeeds. -/
  | opened
  /-- It fails. -/
  | failed (cause : SessionError)
  /-- A message of the agent comes, and what it makes the session write can be written. -/
  | received (message : AgentMessage)
  /-- Output of the agent comes that cannot be written. -/
  | unwritable (cause : String)
  /-- The channel is gone. -/
  | lost
  /-- A signal comes that could be passed on. -/
  | signal (s : Signal)
  /-- The local terminal has another size. -/
  | resized
  /-- A piece of input comes, and the channel takes it or not. -/
  | input (bytes : List UInt8) (taken : Bool)
  /-- The input ends. -/
  | inputEnded
  /-- The connection has been given up. -/
  | disconnected
  deriving DecidableEq, Repr

/-- Something that a session does to the outside. -/
inductive Effect where
  /-- Names the user and the container to the agent. -/
  | logIn (name : String)
  | openChannel
  | send (message : ClientMessage)
  /-- Writes to the local output or error output. -/
  | write (toError : Bool) (bytes : List UInt8)
  /-- Changes the local terminal. -/
  | setAttributes (attributes : Terminal.Attributes)
  /-- Gives the connection up. -/
  | disconnect
  deriving DecidableEq, Repr

/-- What an effect makes of the local terminal. -/
def Effect.applyTo (t : Terminal.Pty) : Effect → Terminal.Pty
  | setAttributes a => { t with attributes := a }
  | _ => t

/-- How far a session is. -/
inductive Phase where
  /-- Some steps remain on the way to a running command. -/
  | opening (steps : List Opening)
  | running
  /-- The channel has ended, and the connection is being given up. -/
  | leaving
  | ended (code : Int)
  | failed (cause : SessionError)
  /-- A signal that nobody caught has killed the program. -/
  | killed (s : Signal)
  deriving DecidableEq, Repr

/-- What becomes of signals that could be passed on. -/
inductive SignalCare where
  /-- Nobody has asked for them: they kill the program. -/
  | deadly
  /-- They are passed on. -/
  | forwarded
  /-- They are no longer passed on, and do nothing. -/
  | ignored
  deriving DecidableEq, Repr

/-- A session. -/
structure Session where
  plan : Plan
  terminals : Streams
  phase : Phase
  /-- The local terminal as it was seen before anything was done to it. -/
  seen : Terminal.Pty := default
  /-- The attributes to go back to, while the local terminal is in raw mode. -/
  saved : Option Terminal.Attributes := none
  signals : SignalCare := .deadly
  inputOpen : Bool := true
  /-- The agent has started the command. -/
  started : Bool := false
  report : ExitReport := {}
  deriving DecidableEq

namespace Session

/-- A session that is about to open. -/
def ofPlan (p : Plan) (terminals : Streams) : Session where
  plan := p
  terminals := terminals
  phase := .opening (openings p terminals)

/-- Whether the local terminal is in raw mode. -/
def isRaw (s : Session) : Bool := s.saved.isSome

/-- How the session ended, if it did: with an exit code or with an error. -/
def result? (s : Session) : Option (Except SessionError Int) :=
  match s.phase with
  | .ended code => some (.ok code)
  | .failed cause => some (.error cause)
  | _ => none

/-- Ends the session in a last phase, with the local terminal as it was. -/
def finish (s : Session) (last : Phase) : Session × List Effect :=
  ({ s with
      phase := last
      saved := none
      signals := if s.signals = .forwarded then .ignored else s.signals },
    s.saved.toList.map .setAttributes)

/-- What a step on the way to a running command does, while the local terminal is as given. -/
def perform (t : Terminal.Pty) (s : Session) (step : Opening) : Session × List Effect :=
  let sent := ((step.message? s.plan s.seen).map Effect.send).toList
  match step with
  | .readTerminal => ({ s with seen := t }, sent)
  | .enterRaw =>
    -- bits that are not modelled are already lost when the attributes are read
    let saved := t.attributes.modelled
    ({ s with saved := some saved }, sent ++ [.setAttributes saved.makeRaw])
  | .catchSignals => ({ s with signals := .forwarded }, sent)
  | .authenticate => (s, [.logIn s.plan.route.display])
  | .openChannel => (s, [.openChannel])
  | _ => (s, sent)

/-- The phase in which some steps remain. -/
def phaseOf : List Opening → Phase
  | [] => .running
  | steps => .opening steps

/-- Leaves the loop that passes things on. -/
def leave (s : Session) : Session × List Effect :=
  ({ s with phase := .leaving, signals := .ignored }, [.disconnect])

/-- What a message of the agent does. -/
def receive (s : Session) : AgentMessage → Session × List Effect
  | .data bytes => (s, [.write false bytes])
  | .errorData bytes => (s, [.write true bytes])
  | .reply true => ({ s with started := true }, [])
  | .reply false => if s.started then (s, []) else s.finish (.failed .refused)
  | .exitStatus code => ({ s with report := s.report.record (.status code) }, [])
  | .exitSignal name =>
    ({ s with report := s.report.record (.signal (name.toSignal?.map fun n => (n.number : Int))) },
      [])
  | .eof => ({ s with report := s.report.record .eof }, [])
  | .close => s.leave

/-- What an event does while things are passed on. -/
def pass (t : Terminal.Pty) (s : Session) : Event → Session × List Effect
  | .received m => s.receive m
  | .unwritable cause => s.finish (.failed (.output cause))
  | .lost => s.leave
  | .signal n => (s, [.send (.signal (.ofSignal n))])
  | .resized =>
    (s, if s.terminals.any then
        [.send (.resize t.size.cols.toNat t.size.rows.toNat t.size.pixelWidth.toNat
          t.size.pixelHeight.toNat)]
      else [])
  | .input bytes taken =>
    if s.inputOpen then
      if taken then (s, [.send (.data bytes)]) else ({ s with inputOpen := false }, [])
    else (s, [])
  | .inputEnded =>
    if s.inputOpen then ({ s with inputOpen := false }, [.send .eof]) else (s, [])
  | .opened | .failed _ | .disconnected => (s, [])

/-- What a signal does before things are passed on.  A broken pipe never kills the program. -/
def endure (s : Session) (n : Signal) : Session × List Effect :=
  match s.signals with
  | .deadly => (if n = .pipe then s else { s with phase := .killed n }, [])
  | .forwarded => (s, [.send (.signal (.ofSignal n))])
  | .ignored => (s, [])

/-- What an event does, while the local terminal is as given. -/
def step (t : Terminal.Pty) (s : Session) (e : Event) : Session × List Effect :=
  match s.phase, e with
  | .opening (o :: rest), .opened =>
    let (s, effects) := s.perform t o
    ({ s with phase := phaseOf rest }, effects)
  | .opening _, .failed cause => s.finish (.failed cause)
  | .opening _, .signal n => s.endure n
  | .running, e => s.pass t e
  | .leaving, .disconnected => s.finish (.ended s.report.code)
  | _, _ => (s, [])

/-- What events do one after another to a session and to the local terminal, which nobody else
changes meanwhile. -/
def run (s : Session) (t : Terminal.Pty) : List Event → Session × Terminal.Pty × List Effect
  | [] => (s, t, [])
  | e :: events =>
    let (s, now) := s.step t e
    let (s, t, later) := s.run (now.foldl Effect.applyTo t) events
    (s, t, now ++ later)

end Session

end Client

end CommandRelay
