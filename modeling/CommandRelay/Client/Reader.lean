import CommandRelay.Client.Session

/-!
# How input reaches a session

The local input is read by a thread of its own, for a read may take any time.  What it reads it puts
in a queue that holds a few pieces, and the session takes them from there while it passes things on.
The thread and the session take turns in any order.

## Main definitions

* `Client.Reader` — the thread, with the input before it and the queue behind it.
* `Client.Reader.step?` — what the thread does.
* `Client.Feed` — the thread and a session together; `Client.Feed.step?`, `Client.Feed.run?` — what
  can happen to them, and what it leads to.
-/

namespace CommandRelay.Client

/-- The thread that reads the local input. -/
structure Reader where
  /-- What the input still holds. -/
  unread : List UInt8
  /-- A piece that has been read and waits for room in the queue. -/
  hand : List UInt8 := []
  /-- What the session has not taken yet, the first piece first. -/
  queue : List (List UInt8) := []
  /-- The thread has ended; nothing more enters the queue. -/
  stopped : Bool := false
  deriving DecidableEq, Repr

namespace Reader

/-- The largest piece that is read at once. -/
def pieceLimit : Nat := 8192

/-- How many pieces the queue holds. -/
def capacity : Nat := 16

/-- Something that the thread does. -/
inductive Move where
  /-- It reads a piece. -/
  | read (size : Nat)
  /-- A signal interrupts a read before anything was read. -/
  | interrupted
  /-- It puts the piece that it has read in the queue. -/
  | push
  /-- It finds the input at its end. -/
  | finish
  /-- The input cannot be read. -/
  | fail
  deriving DecidableEq, Repr

/-- What the thread does, if it can, where the session still holds the queue or has dropped it. -/
def step? (r : Reader) (listening : Bool) : Move → Option Reader
  | .read size =>
    if r.stopped = false ∧ r.hand = [] ∧ 0 < size ∧ size ≤ pieceLimit ∧ size ≤ r.unread.length then
      some { r with hand := r.unread.take size, unread := r.unread.drop size }
    else none
  | .interrupted => if r.stopped = false ∧ r.hand = [] then some r else none
  | .push =>
    if r.stopped = true ∨ r.hand = [] then none
    else if listening then
      if r.queue.length < capacity then some { r with queue := r.queue ++ [r.hand], hand := [] }
      else none
    else some { r with hand := [], stopped := true }
  | .finish =>
    if r.stopped = false ∧ r.hand = [] ∧ r.unread = []
      then some { r with stopped := true } else none
  | .fail => if r.stopped = false ∧ r.hand = [] then some { r with stopped := true } else none

end Reader

/-- Whether the thread may run in a phase: it is started by the last opening step. -/
def Phase.hasReader : Phase → Bool
  | .opening _ => false
  | _ => true

/-- Whether a session still holds the queue in a phase. -/
def Phase.holdsQueue : Phase → Bool
  | .opening _ | .running | .leaving => true
  | .ended _ | .failed _ | .killed _ => false

/-- Whether an event is about input. -/
def Event.isInput : Event → Bool
  | .input .. | .inputEnded => true
  | _ => false

/-- What a session tries to do with input. -/
inductive Attempt where
  /-- The channel took a piece. -/
  | accepted (bytes : List UInt8)
  /-- The channel did not take a piece. -/
  | refused (bytes : List UInt8)
  /-- The end of the input was sent. -/
  | ended
  deriving DecidableEq, Repr

/-- A session with the thread that reads its input. -/
structure Feed where
  reader : Reader
  session : Session
  /-- What the session has tried to do with input. -/
  attempts : List Attempt := []
  /-- What the session has done to the outside. -/
  effects : List Effect := []
  deriving DecidableEq

namespace Feed

/-- A session that is about to open, before some input. -/
def start (p : Plan) (terminals : Streams) (content : List UInt8) : Feed where
  reader := { unread := content }
  session := .ofPlan p terminals

/-- Something that happens to the thread or to the session, while the local terminal is as given. -/
inductive Move where
  | reader (m : Reader.Move)
  /-- The session takes a piece from the queue, and the channel takes it or not. -/
  | take (t : Terminal.Pty) (taken : Bool)
  /-- The session finds the queue empty and the thread ended. -/
  | close (t : Terminal.Pty)
  /-- Something else happens to the session. -/
  | other (t : Terminal.Pty) (e : Event)
  deriving DecidableEq, Repr

/-- Whether the session looks at the queue. -/
def isOpen (f : Feed) : Bool := f.session.phase = .running && f.session.inputOpen

/-- Lets an event happen to the session. -/
def happen (f : Feed) (t : Terminal.Pty) (e : Event) : Feed :=
  { f with
    session := (f.session.step t e).1
    effects := f.effects ++ (f.session.step t e).2 }

/-- Notes what the session tries to do with input. -/
def note (f : Feed) (a : Attempt) : Feed := { f with attempts := f.attempts ++ [a] }

/-- What a move leads to, if it is possible. -/
def step? (f : Feed) : Move → Option Feed
  | .reader m =>
    if f.session.phase.hasReader then
      (f.reader.step? f.session.phase.holdsQueue m).map fun reader => { f with reader }
    else none
  | .take t taken =>
    match f.isOpen, f.reader.queue with
    | true, piece :: queue =>
      some (({ f with reader := { f.reader with queue } }.note
        (if taken then .accepted piece else .refused piece)).happen t (.input piece taken))
    | _, _ => none
  | .close t =>
    if f.isOpen ∧ f.reader.queue = [] ∧ f.reader.stopped = true then
      some ((f.note .ended).happen t .inputEnded)
    else none
  | .other t e => if e.isInput then none else some (f.happen t e)

/-- What some moves lead to, one after another, if they are possible. -/
def run? (f : Feed) : List Move → Option Feed
  | [] => some f
  | move :: moves => (f.step? move).bind fun g => g.run? moves

end Feed

end CommandRelay.Client
