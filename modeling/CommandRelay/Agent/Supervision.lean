import CommandRelay.Agent.Message
import CommandRelay.Exit

/-!
# Looking after a child

Whatever a child writes is passed on as it comes; when the child has ended and all of its output
was passed on, its end is reported.

## Main definitions

* `Agent.Source` — where the output of a child comes from.
* `Agent.Supervision` — what is still to be passed on; `Agent.Supervision.step` — what an event
  leads to.
* `Agent.refusal` — what is sent where nothing was started.
-/

namespace CommandRelay.Agent

/-- Where the output of a child comes from: its terminal, or a pipe for each stream that is not on
the terminal. -/
inductive Source where
  | terminal
  | stdout
  | stderr
  deriving DecidableEq, Repr

namespace Source

/-- The sources of a child that has some streams on its terminal. -/
def ofStreams (s : Streams) : List Source :=
  (if s.stdout || s.stderr then [terminal] else []) ++
  (if s.stdout then [] else [stdout]) ++ (if s.stderr then [] else [stderr])

/-- Whether a source is error output: the terminal is, if the output is not on it. -/
def isError (s : Streams) : Source → Bool
  | terminal => !s.stdout
  | stdout => false
  | stderr => true

/-- What is sent for a piece of output. -/
def message (s : Streams) (source : Source) (bytes : List UInt8) : AgentMessage :=
  if source.isError s then .errorData bytes else .data bytes

end Source

/-- What ends a channel. -/
def farewell (code : Nat) : List AgentMessage := [.exitStatus code, .eof, .close]

/-- What is sent where nothing was started. -/
def refusal (reason : String) : List AgentMessage :=
  .errorData (Text.toBytes s!"ferry-agent: {reason}\n") :: farewell 1

/-- A child that is looked after. -/
structure Supervision where
  streams : Streams
  /-- The sources that have not ended. -/
  sources : List Source
  /-- How the child ended, as a raw wait status. -/
  status : Option Int := none
  /-- The end was reported. -/
  reported : Bool := false
  deriving DecidableEq, Repr

/-- Something that happens to a child. -/
inductive ChildEvent where
  /-- A piece of output came. -/
  | output (source : Source) (bytes : List UInt8)
  /-- A source ended. -/
  | ended (source : Source)
  /-- The child ended. -/
  | exited (status : Int)
  deriving DecidableEq, Repr

namespace Supervision

/-- A child that has just been started. -/
def ofStreams (s : Streams) : Supervision := { streams := s, sources := Source.ofStreams s }

/-- Reports the end as soon as the child has ended and nothing is left to pass on. -/
def report (v : Supervision) : Supervision × List AgentMessage :=
  match v.status with
  | some status =>
    if v.sources.isEmpty && !v.reported then
      ({ v with reported := true }, farewell (WaitStatus.exitCode status))
    else (v, [])
  | none => (v, [])

/-- What an event leads to. -/
def step (v : Supervision) : ChildEvent → Supervision × List AgentMessage
  | .output source bytes =>
    (v, if source ∈ v.sources then [source.message v.streams bytes] else [])
  | .ended source => { v with sources := v.sources.filter (· ≠ source) }.report
  | .exited status => { v with status := v.status.or (some status) }.report

/-- What events lead to, one after another. -/
def run (v : Supervision) : List ChildEvent → Supervision × List AgentMessage
  | [] => (v, [])
  | e :: events =>
    let (v, now) := v.step e
    let (v, later) := v.run events
    (v, now ++ later)

end Supervision

end CommandRelay.Agent
