import CommandRelay.Agent.Handler
import CommandRelay.Host.Process

/-!
# A connection with its processes

The effects of a connection's messages on the processes of the host, and what the agent sends back.
Each process runs on as far as it can as soon as something happens to it.

## Main definitions

* `Agent.Host` — the host as the agent sees it.
* `Agent.Connection` — a connection with its processes.
* `Agent.Connection.deliver` — what a message leads to.
-/

namespace CommandRelay.Agent

/-- The host as the agent sees it. -/
structure Host where
  defaults : HostProfile
  /-- Whether a path leads to a directory. -/
  isDirectory : String → Bool
  /-- What the program of a launch does, or why it cannot be started. -/
  program : Launch → Except String (List Act)

/-- A process that is looked after for a channel. -/
structure Job where
  channel : ChannelId
  process : Process
  supervision : Supervision

/-- A connection with its processes. -/
structure Connection where
  handler : Handler
  jobs : Dictionary ProcessId Job := .empty
  /-- Every program that was to be started, the last one first. -/
  launches : List Launch := []

/-- A message on a channel. -/
abbrev Answer := ChannelId × AgentMessage

namespace Connection

/-- A new connection of a client that names a user and a container. -/
def ofUser (user : String) : Connection := { handler := .ofUser user }

/-- The number of the next process: no other one of the connection is given it. -/
def nextProcess (c : Connection) : ProcessId := c.launches.length

/-- The process that a channel has started. -/
def process? (c : Connection) (channel : ChannelId) : Option ProcessId :=
  (c.jobs.entries.find? fun e => e.2.channel = channel).map Prod.fst

/-- What is around the handler. -/
def surroundings (c : Connection) (host : Host) : Surroundings where
  host := host.defaults
  isDirectory := host.isDirectory
  spawn spec := (host.program spec).map fun _ => c.nextProcess

/-- The events that output of a process is to who looks after it, the end of its output when nothing
of it runs any more, and its own end if that is news. -/
def events (v : Supervision) (p : Process) (output : List Output) : List ChildEvent :=
  (output.map fun (source, bytes) => .output source bytes) ++
  (if p.isOver then v.sources.map .ended else []) ++
  if v.status.isSome then [] else (p.status.map .exited).toList

/-- Stores what has become of a process, with what is sent about it. -/
def settle (c : Connection) (id : ProcessId) (job : Job) (output : List Output) :
    Connection × List Answer :=
  let (supervision, messages) := job.supervision.run (events job.supervision job.process output)
  ({ c with jobs := c.jobs.insert id { job with supervision } },
    messages.map fun m => (job.channel, m))

/-- Lets something happen to a process. -/
def change (c : Connection) (id : ProcessId) (f : Process → Process × List Output) :
    Connection × List Answer :=
  match c.jobs.get? id with
  | none => (c, [])
  | some job =>
    if job.process.isOver then (c, [])
    else
      let (process, output) := f job.process
      c.settle id { job with process } output

/-- Lets something happen to the process that a channel has started. -/
def changeOn (c : Connection) (channel : ChannelId) (f : Process → Process × List Output) :
    Connection × List Answer :=
  match c.process? channel with
  | some id => c.change id f
  | none => (c, [])

/-- What an effect leads to. -/
def perform (host : Host) (c : Connection) : Effect → Connection × List Answer
  | .reply channel accepted => (c, [(channel, .reply accepted)])
  | .refuse channel reason => (c, (refusal reason).map fun m => (channel, m))
  | .launch channel spec process =>
    let c := { c with launches := spec :: c.launches }
    match process, host.program spec with
    | some id, .ok acts =>
      let (process, output) := (Process.ofSpec spec acts).run
      c.settle id ⟨channel, process, .ofStreams spec.streams⟩ output
    | _, _ => (c, [])
  | .feed channel bytes => c.changeOn channel (·.feed bytes)
  | .endInput channel => c.changeOn channel Process.endInput
  | .signal _ id s => c.change id fun p => (p.kill s, [])
  | .resize channel size => c.changeOn channel fun p => (p.resize size, [])

/-- What effects lead to, one after another. -/
def performAll (host : Host) (c : Connection) : List Effect → Connection × List Answer
  | [] => (c, [])
  | e :: effects =>
    let (c, now) := c.perform host e
    let (c, later) := c.performAll host effects
    (c, now ++ later)

/-- What a message leads to. -/
def deliver (host : Host) (c : Connection) (m : ConnectionMessage) : Connection × List Answer :=
  let (handler, effects) := c.handler.step (c.surroundings host) m
  { c with handler }.performAll host effects

/-- What the end of the connection leads to. -/
def drop (host : Host) (c : Connection) : Connection :=
  ({ c with handler := {} }.performAll host c.handler.drop).1

end Connection

end CommandRelay.Agent
