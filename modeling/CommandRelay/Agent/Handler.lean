import CommandRelay.Agent.Message
import CommandRelay.Route

/-!
# What the agent does with a connection

The agent keeps a state for each channel of a connection: what was asked for so far, and the child
that was started.  Each message changes the state of its channel and has effects, which are listed
in the order in which they happen.

## Main definitions

* `Agent.Handler` — the state of a connection.
* `Agent.Effect` — what happens outside of it.
* `Agent.Handler.step` — what a message does; `Agent.Handler.drop` — what the end of the connection
  does.
-/

namespace CommandRelay.Agent

/-- A process, or the group of processes that it leads. -/
abbrev ProcessId := Nat

/-- A child as its channel remembers it.  It is remembered also after its end. -/
structure Child where
  process : ProcessId
  /-- Input may still be passed on. -/
  inputOpen : Bool := true
  /-- The child has a terminal. -/
  hasTerminal : Bool := false
  deriving DecidableEq, Repr

/-- The state of a channel. -/
structure Channel where
  request : LaunchRequest := {}
  child : Option Child := none
  deriving DecidableEq, Inhabited

/-- The state of a connection. -/
structure Handler where
  /-- The user and the container that the client named. -/
  route : Option Route := none
  channels : Dictionary ChannelId Channel := .empty
  deriving DecidableEq, Inhabited

/-- What a message makes happen outside of the state.  The input and the terminal of a child are
held by its channel; only a signal goes to a number. -/
inductive Effect where
  /-- Answers a start request. -/
  | reply (channel : ChannelId) (accepted : Bool)
  /-- Reports on the channel why nothing runs, and ends it. -/
  | refuse (channel : ChannelId) (reason : String)
  /-- A program was to be started: the child, if it was, is looked after until its end. -/
  | launch (channel : ChannelId) (spec : Launch) (process : Option ProcessId)
  /-- Puts bytes behind the input of the child of a channel. -/
  | feed (channel : ChannelId) (bytes : List UInt8)
  /-- Ends the input of the child of a channel. -/
  | endInput (channel : ChannelId)
  /-- Sends a signal to whoever has the number that the child of a channel was given, and to all
  processes of that session. -/
  | signal (channel : ChannelId) (process : ProcessId) (signal : Signal)
  /-- Gives the terminal of the child of a channel another size. -/
  | resize (channel : ChannelId) (size : Terminal.Size)
  deriving DecidableEq

/-- What the agent finds around it when a message comes. -/
structure Surroundings where
  host : HostProfile
  /-- Whether a path leads to a directory. -/
  isDirectory : String → Bool
  /-- Starts a program, or says why it cannot. -/
  spawn : Launch → Except String ProcessId

namespace Handler

/-- A new connection of a client that names a user and a container. -/
def ofUser (user : String) : Handler := { route := some (Route.parse user) }

/-- Changes the state of a channel that is open. -/
def update (h : Handler) (c : ChannelId) (f : Channel → Channel) : Handler :=
  match h.channels.get? c with
  | some s => { h with channels := h.channels.insert c (f s) }
  | none => h

/-- The child of a channel. -/
def child? (h : Handler) (c : ChannelId) : Option Child := (h.channels.get? c).bind Channel.child

/-- Starts a command on a channel that has started none. -/
def start (around : Surroundings) (h : Handler) (c : ChannelId) (payload : Option (List UInt8)) :
    Handler × List Effect :=
  match h.channels.get? c with
  | none => (h, [.reply c false])
  | some s =>
    match s.child with
    | some _ => (h, [.reply c false])
    | none =>
      match s.request.launch around.isDirectory payload around.host with
      | .error e => (h, [.reply c true, .refuse c e.message])
      | .ok spec =>
        match around.spawn spec with
        | .error reason => (h, [.reply c true, .launch c spec none, .refuse c reason])
        | .ok process =>
          let child : Child := { process, hasTerminal := spec.terminal.isSome }
          ({ h with channels := h.channels.insert c { s with child := some child } },
            [.reply c true, .launch c spec (some process)])

/-- What a message on a channel does. -/
def receive (around : Surroundings) (h : Handler) (c : ChannelId) :
    ClientMessage → Handler × List Effect
  | .env name value =>
    (h.update c fun s => { s with request := s.request.setEnv name value }, [])
  | .terminal term cols rows width height modes =>
    let t : TerminalRequest :=
      ⟨term, .ofWire cols rows width height, Terminal.Modes.ofPairs modes⟩
    (h.update c fun s => { s with request := s.request.setTerminal t }, [])
  | .exec payload => h.start around c (some payload)
  | .shell => h.start around c none
  | .data bytes =>
    match h.child? c with
    | some child => (h, if child.inputOpen then [.feed c bytes] else [])
    | none => (h, [])
  | .eof =>
    match h.child? c with
    | some child =>
      (h.update c fun s => { s with child := some { child with inputOpen := false } },
        if child.inputOpen then [.endInput c] else [])
    | none => (h, [])
  | .signal name =>
    match h.child? c, name.toSignal? with
    | some child, some s => (h, [.signal c child.process s])
    | _, _ => (h, [])
  | .resize cols rows width height =>
    match h.child? c with
    | some child =>
      (h, if child.hasTerminal then [.resize c (.ofWire cols rows width height)] else [])
    | none => (h, [])
  | .close =>
    ({ h with channels := h.channels.erase c },
      match h.child? c with
      | some child =>
        .signal c child.process .hup :: if child.inputOpen then [.endInput c] else []
      | none => [])

/-- What happens on a connection does. -/
def step (around : Surroundings) (h : Handler) : ConnectionMessage → Handler × List Effect
  | .opened c => ({ h with channels := h.channels.insert c {} }, [])
  | .sent c m => h.receive around c m

/-- The children of all channels, each with its channel. -/
def children (h : Handler) : List (ChannelId × Child) :=
  h.channels.entries.filterMap fun e => e.2.child.map fun child => (e.1, child)

/-- What the end of a connection does: every child that a channel remembers is hung up on, and no
more input follows. -/
def drop (h : Handler) : List Effect :=
  (h.children.map fun (c, child) => .signal c child.process .hup) ++
  ((h.children.filter fun (_, child) => child.inputOpen).map fun (c, _) => .endInput c)

end Handler

end CommandRelay.Agent
