import CommandRelay.Session.Launch
import CommandRelay.Signal

/-!
# Messages between client and agent

A client opens channels on a connection.  What it sends on a channel asks for a command, feeds it
and steers it; what it gets back is the command's output and its end.
-/

namespace CommandRelay

/-- A channel of a connection. -/
abbrev ChannelId := Nat

/-- What a client sends on a channel. -/
inductive ClientMessage where
  /-- A variable for the command. -/
  | env (name value : String)
  /-- A terminal for the command: its kind, its four measures and its modes. -/
  | terminal (term : String) (cols rows pixelWidth pixelHeight : Nat) (modes : List (Nat × Nat))
  /-- Start a command. -/
  | exec (payload : List UInt8)
  /-- Start an interactive shell. -/
  | shell
  /-- Input for the command. -/
  | data (bytes : List UInt8)
  /-- No input will follow. -/
  | eof
  | signal (name : WireSignal)
  /-- The four measures of the client's terminal have changed. -/
  | resize (cols rows pixelWidth pixelHeight : Nat)
  | close
  deriving DecidableEq, Repr

/-- What a client does on a connection. -/
inductive ConnectionMessage where
  /-- Opens a channel. -/
  | opened (channel : ChannelId)
  /-- Sends something on a channel. -/
  | sent (channel : ChannelId) (message : ClientMessage)
  deriving DecidableEq, Repr

/-- What the agent sends on a channel. -/
inductive AgentMessage where
  /-- The answer to a start request. -/
  | reply (accepted : Bool)
  /-- Output of the command. -/
  | data (bytes : List UInt8)
  /-- Error output of the command. -/
  | errorData (bytes : List UInt8)
  /-- The command ended with a code. -/
  | exitStatus (code : Nat)
  /-- The command died of a signal. -/
  | exitSignal (name : WireSignal)
  /-- No output will follow. -/
  | eof
  | close
  deriving DecidableEq, Repr

end CommandRelay
