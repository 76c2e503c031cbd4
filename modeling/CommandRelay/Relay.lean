import CommandRelay.Agent.Connection
import CommandRelay.Client.Errand

/-!
# A session from end to end

A client's session, the local terminal and files, and the agent with its processes, all connected.
What either side sends reaches the other side at once and in order.

## Main definitions

* `Relay` — everything that takes part in a session.
* `Relay.Occurrence` — what can happen from outside.
* `Relay.run` — a session in which some things happen.
-/

namespace CommandRelay

open Client (Session Effect Event)

/-- Everything that takes part in a session. -/
structure Relay where
  session : Session
  /-- The local terminal, on which some of the standard streams are. -/
  terminal : Terminal.Device
  connection : Agent.Connection := { handler := {} }
  /-- What the agent has sent and the client has not read. -/
  inbox : List AgentMessage := []
  /-- What was written to an output that is not on the terminal. -/
  stdout : List UInt8 := []
  /-- What was written to an error output that is not on the terminal. -/
  stderr : List UInt8 := []

namespace Relay

/-- Something that happens from outside. -/
inductive Occurrence where
  /-- Something is typed into the local terminal. -/
  | typed (bytes : List UInt8)
  /-- An input that is not on the terminal goes on. -/
  | input (bytes : List UInt8)
  | inputEnded
  /-- The client gets a signal. -/
  | signal (s : Signal)
  /-- The local terminal gets another size. -/
  | resized (size : Terminal.Size)

/-- The channel of the session. -/
def channel : ChannelId := 0

/-- Brings a message to the agent. -/
def deliver (host : Agent.Host) (r : Relay) (m : ConnectionMessage) : Relay :=
  let (connection, answers) := r.connection.deliver host m
  { r with connection, inbox := r.inbox ++ answers.map Prod.snd }

/-- Writes to a local stream. -/
def write (r : Relay) (toError : Bool) (bytes : List UInt8) : Relay :=
  let terminals := r.session.terminals
  if (if toError then terminals.stderr else terminals.stdout) then
    { r with terminal := { r.terminal with line := r.terminal.line.write bytes } }
  else if toError then { r with stderr := r.stderr ++ bytes }
  else { r with stdout := r.stdout ++ bytes }

/-- What an effect of the session leads to. -/
def perform (host : Agent.Host) (r : Relay) : Effect → Relay
  | .logIn name => { r with connection := .ofUser name }
  | .openChannel => r.deliver host (.opened channel)
  | .send m => r.deliver host (.sent channel m)
  | .write toError bytes => r.write toError bytes
  | .setAttributes a => { r with terminal := r.terminal.setAttributes a }
  | .disconnect => { r with connection := r.connection.drop host }

/-- What an event of the session leads to. -/
def happen (host : Agent.Host) (r : Relay) (e : Event) : Relay :=
  let (session, effects) := r.session.step r.terminal.pty e
  effects.foldl (perform host) { r with session }

/-- Lets the client read what the agent has sent, and leave if that ends the session. -/
def settle (host : Agent.Host) (r : Relay) : Relay :=
  (r.inbox.foldl (fun (r : Relay) m => r.happen host (.received m))
    { r with inbox := [] }).happen host
    .disconnected

/-- Reads from the local terminal as long as there is something to read, but at most some times. -/
def readTerminal (host : Agent.Host) (r : Relay) : Nat → Relay
  | 0 => r
  | n + 1 =>
    match r.terminal.line.read? with
    | none => r
    | some (bytes, line) =>
      let r := { r with terminal := { r.terminal with line } }
      let event := if bytes.isEmpty then Event.inputEnded else .input bytes true
      ((r.happen host event).settle host).readTerminal host n

/-- Types into the local terminal; the characters may cause signals. -/
def type (host : Agent.Host) (r : Relay) (bytes : List UInt8) : Relay :=
  let line := r.terminal.line.type bytes
  let r := { r with terminal := { r.terminal with line := { line with signals := [] } } }
  let r := line.signals.foldl (fun (r : Relay) s => (r.happen host (.signal s)).settle host) r
  if r.session.terminals.stdin && r.session.phase = .running then
    r.readTerminal host (line.finished.length + 1)
  else r

/-- What something from outside leads to. -/
def occur (host : Agent.Host) (r : Relay) : Occurrence → Relay
  | .typed bytes => r.type host bytes
  | .input bytes => (r.happen host (.input bytes true)).settle host
  | .inputEnded => (r.happen host .inputEnded).settle host
  | .signal s => (r.happen host (.signal s)).settle host
  | .resized size =>
    ({ r with terminal := { r.terminal with size } }.happen host .resized).settle host

/-- Opens a session with an agent that listens. -/
def opened (host : Agent.Host) (r : Relay) : Relay :=
  match r.session.phase with
  | .opening steps => (steps.foldl (fun (r : Relay) _ => r.happen host .opened) r).settle host
  | _ => r

/-- A session in which some things happen one after another; nothing happens if nobody listens. -/
def run (host : Agent.Host) (errand : Client.Errand) (terminals : Streams)
    (terminal : Terminal.Device) (answered : Bool) (occurrences : List Occurrence) : Relay :=
  let r : Relay := { session := .ofPlan errand.plan terminals, terminal }
  if answered then occurrences.foldl (occur host) (r.opened host)
  else r.happen host (.failed (.unreachable errand.probe errand.endpoint))

end Relay

end CommandRelay
