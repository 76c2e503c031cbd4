import CommandRelay.Agent.Message

/-!
# The window of a channel

A client takes only so much output on a channel before it has read what it was sent.  Output that
does not fit waits, and the end of the channel waits behind it.  Answers and exit codes do not wait:
a channel on which output waits is still open, and everything but output gets through.

## Main definitions

* `Agent.Window` — what a client still takes, and what waits for it.
* `Agent.Window.send`, `Agent.Window.sendAll` — messages go through the window, or wait.
* `Agent.Window.widen` — the client has read what it was sent.
-/

namespace CommandRelay.Agent

/-- The agent's end of a channel. -/
structure Window where
  /-- How many bytes of output the client still takes. -/
  room : Nat := 2097152
  /-- What waits until it takes more, the first one first. -/
  held : List AgentMessage := []

namespace Window

/-- A message waits behind what is waiting, or goes through. -/
def queue (w : Window) (m : AgentMessage) : Window × List AgentMessage :=
  if w.held.isEmpty then (w, [m]) else ({ w with held := w.held ++ [m] }, [])

/-- Output waits behind what is waiting, or goes through as far as there is room for it. -/
def pass (w : Window) (output : List UInt8 → AgentMessage) (bytes : List UInt8) :
    Window × List AgentMessage :=
  if w.held.isEmpty then
    if bytes.length ≤ w.room then ({ w with room := w.room - bytes.length }, [output bytes])
    else ({ room := 0, held := [output (bytes.drop w.room)] }, [output (bytes.take w.room)])
  else ({ w with held := w.held ++ [output bytes] }, [])

/-- What a message leads to: what becomes of the window, and what goes through. -/
def send (w : Window) : AgentMessage → Window × List AgentMessage
  | .data bytes => w.pass .data bytes
  | .errorData bytes => w.pass .errorData bytes
  | .eof => w.queue .eof
  | .close => w.queue .close
  | m => (w, [m])

/-- What messages lead to, one after another. -/
def sendAll (w : Window) : List AgentMessage → Window × List AgentMessage
  | [] => (w, [])
  | m :: ms =>
    let (w, now) := w.send m
    let (w, later) := w.sendAll ms
    (w, now ++ later)

/-- The client has read all that went through: what was waiting is sent into a new window. -/
def widen (w : Window) : Window × List AgentMessage :=
  ({} : Window).sendAll w.held

end Window

end CommandRelay.Agent
