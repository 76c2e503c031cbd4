import CommandRelay.Client.Session
import CommandRelay.Host.Process
import CommandRelay.Proofs.Session.Request
import Mathlib.Logic.Function.Basic
import Mathlib.Tactic.Common

/-!
# The way of output

Output goes a long way: a child writes it, a pump of the agent reads it in pieces and sends them,
they cross in order, and the client writes what it receives.  Every party goes on by itself, so the
moves of all of them may come in any order.

## Main definitions

* `Pump` — a source of output with the pump that serves it.
* `Flow` — everything that output passes on its way; `Flow.start` — where a child has just been
  started.
* `Flow.Move`, `Flow.step?`, `Flow.run?` — what can happen, and what it leads to.
* `Flow.Step` — the same as a relation, with what makes each move possible.

## Main results

* `Flow.step_of_step?` — what a move leads to is a step.
* `Flow.foldl_put` — what is written ends up unread at its source.
* `LaunchRequest.terminal_of_launch` — a launch has a terminal just if a stream is on it.
-/

namespace CommandRelay

open Agent (Source Supervision ChildEvent)
open Client (Session Event Effect)

/-- Whether the output, or the error output, is marked. -/
def Streams.marks (s : Streams) (toError : Bool) : Bool := if toError then s.stderr else s.stdout

/-- The pipe for output, or for error output, that is not on a terminal. -/
def Agent.Source.pipe (toError : Bool) : Source := if toError then .stderr else .stdout

/-- Whether an event comes from the client's own side and takes nothing away from it: its signals,
its terminal and its input. -/
def Client.Event.isLocal : Event → Bool
  | .signal _ | .resized | .input .. | .inputEnded => true
  | _ => false

/-- What some effects write to the local output or error output. -/
def Client.writtenTo (toError : Bool) (effects : List Effect) : List UInt8 :=
  effects.flatMap fun
    | .write e bytes => if e = toError then bytes else []
    | _ => []

/-- A source of output with the pump that serves it. -/
structure Pump where
  /-- What the pump has not read yet. -/
  unread : List UInt8 := []
  /-- A piece that it has read and is about to send. -/
  hand : List UInt8 := []
  /-- Everything that it has sent. -/
  passed : List UInt8 := []
  /-- Nobody is left who could write. -/
  closed : Bool := false
  deriving DecidableEq

namespace Pump

/-- Everything that the pump has read. -/
def taken (p : Pump) : List UInt8 := p.passed ++ p.hand

/-- Everything that ever came from the source. -/
def come (p : Pump) : List UInt8 := p.taken ++ p.unread

/-- The largest piece that is read at once. -/
def limit : Nat := 32768

end Pump

/-- Everything that output passes on its way from a child to the local streams. -/
structure Flow where
  process : Process
  /-- Everything that was written to the child's output, and to its error output. -/
  written : Bool → List UInt8 := fun _ => []
  pumps : Source → Pump := fun _ => {}
  /-- How the child ended, as a raw wait status. -/
  exited : Option Int := none
  /-- What the agent knows of the child. -/
  supervision : Supervision
  /-- What the agent has sent and the client has not received. -/
  channel : List AgentMessage := []
  /-- Everything that the agent has sent. -/
  sent : List AgentMessage := []
  session : Session
  /-- Everything that the client has written to its own output, and to its error output. -/
  shown : Bool → List UInt8 := fun _ => []

namespace Flow

/-- A child has just been started, which is the first thing that the client is told. -/
def start (spec : Launch) (session : Session) : Flow where
  process := .ofSpec spec []
  supervision := .ofStreams spec.streams
  channel := [.reply true]
  sent := [.reply true]
  session := session

/-! ## Moves -/

/-- Something that happens on the way. -/
inductive Move where
  /-- The child, or a process that it has left its streams to, writes output or error output. -/
  | write (toError : Bool) (bytes : List UInt8)
  /-- The terminal of the child becomes another one and sends something by itself: an echo, say. -/
  | echo (device : Terminal.Device) (bytes : List UInt8)
  /-- Nobody is left who could write to a source. -/
  | close (source : Source)
  /-- The child ends. -/
  | exit (status : Int)
  /-- A pump reads a piece. -/
  | read (source : Source) (size : Nat)
  /-- A pump sends the piece that it has read. -/
  | pass (source : Source)
  /-- A pump finds its source at its end. -/
  | finish (source : Source)
  /-- The agent notices that the child has ended. -/
  | wait
  /-- The client receives a message, while its terminal is as given. -/
  | receive (t : Terminal.Pty)
  /-- The client has given the connection up. -/
  | leave (t : Terminal.Pty)
  /-- Something happens on the client's own side. -/
  | local_ (t : Terminal.Pty) (e : Event)

/-- Whether a move is the agent's or the client's in doing its work, and not an outside one. -/
def Move.isInner : Move → Bool
  | .read .. | .pass _ | .finish _ | .wait | .receive _ | .leave _ => true
  | _ => false

/-- Puts output behind what is unread at its source. -/
def put (pumps : Source → Pump) (o : Output) : Source → Pump :=
  Function.update pumps o.1 { pumps o.1 with unread := (pumps o.1).unread ++ o.2 }

/-- Tells the agent of an event; what it sends in turn enters the channel. -/
def tell (f : Flow) (e : ChildEvent) : Flow :=
  { f with
    supervision := (f.supervision.step e).1
    channel := f.channel ++ (f.supervision.step e).2
    sent := f.sent ++ (f.supervision.step e).2 }

/-- Lets an event happen to the client, which writes what is to be written. -/
def happen (f : Flow) (t : Terminal.Pty) (e : Event) : Flow :=
  { f with
    session := (f.session.step t e).1
    shown := fun toError => f.shown toError ++ Client.writtenTo toError (f.session.step t e).2 }

/-- What a move leads to, if it is possible. -/
def step? (f : Flow) : Move → Option Flow
  | .write toError bytes =>
    let (process, output) := f.process.write toError bytes
    if output.all fun o => !(f.pumps o.1).closed then
      some { f with
        process
        written := Function.update f.written toError (f.written toError ++ bytes)
        pumps := output.foldl put f.pumps }
    else none
  | .echo device bytes =>
    if f.process.terminal.isSome && !(f.pumps .terminal).closed then
      some { f with
        process := { f.process with terminal := some device }
        pumps := put f.pumps (.terminal, bytes) }
    else none
  | .close source =>
    some { f with pumps := Function.update f.pumps source { f.pumps source with closed := true } }
  | .exit status => if f.exited.isSome then none else some { f with exited := some status }
  | .read source size =>
    let p := f.pumps source
    if source ∈ f.supervision.sources ∧ p.hand = [] ∧ 0 < size ∧ size ≤ Pump.limit ∧
        size ≤ p.unread.length then
      some { f with
        pumps := Function.update f.pumps source
          { p with hand := p.unread.take size, unread := p.unread.drop size } }
    else none
  | .pass source =>
    let p := f.pumps source
    if p.hand = [] then none
    else
      some (({ f with
        pumps := Function.update f.pumps source
          { p with passed := p.passed ++ p.hand, hand := [] } }).tell (.output source p.hand))
  | .finish source =>
    let p := f.pumps source
    if source ∈ f.supervision.sources ∧ p.hand = [] ∧ p.unread = [] ∧ p.closed = true then
      some (f.tell (.ended source))
    else none
  | .wait =>
    match f.exited with
    | some status => if f.supervision.status.isSome then none else some (f.tell (.exited status))
    | none => none
  | .receive t =>
    match f.channel with
    | m :: rest =>
      if f.session.phase = .running then
        some (({ f with channel := rest }).happen t (.received m))
      else none
    | [] => none
  | .leave t => if f.session.phase = .leaving then some (f.happen t .disconnected) else none
  | .local_ t e => if e.isLocal then some (f.happen t e) else none

/-- The moves that are possible, each with what makes it possible and what it leads to. -/
inductive Step (f : Flow) : Move → Flow → Prop where
  | write (toError : Bool) (bytes : List UInt8)
      (hopen : ((f.process.write toError bytes).2.all fun o => !(f.pumps o.1).closed) = true) :
      Step f (.write toError bytes) { f with
        process := (f.process.write toError bytes).1
        written := Function.update f.written toError (f.written toError ++ bytes)
        pumps := (f.process.write toError bytes).2.foldl put f.pumps }
  | echo (device : Terminal.Device) (bytes : List UInt8)
      (hopen : (f.pumps .terminal).closed = false) :
      Step f (.echo device bytes) { f with
        process := { f.process with terminal := some device }
        pumps := put f.pumps (.terminal, bytes) }
  | close (source : Source) :
      Step f (.close source)
        { f with pumps := Function.update f.pumps source { f.pumps source with closed := true } }
  | exit (status : Int) (hexited : f.exited = none) :
      Step f (.exit status) { f with exited := some status }
  | read (source : Source) (size : Nat) (hsource : source ∈ f.supervision.sources)
      (hhand : (f.pumps source).hand = []) (hpos : 0 < size)
      (hsize : size ≤ (f.pumps source).unread.length) :
      Step f (.read source size) { f with
        pumps := Function.update f.pumps source { f.pumps source with
          hand := (f.pumps source).unread.take size
          unread := (f.pumps source).unread.drop size } }
  | pass (source : Source) (hhand : (f.pumps source).hand ≠ []) :
      Step f (.pass source) (({ f with
        pumps := Function.update f.pumps source { f.pumps source with
          passed := (f.pumps source).passed ++ (f.pumps source).hand, hand := [] } }).tell
            (.output source (f.pumps source).hand))
  | finish (source : Source) (hsource : source ∈ f.supervision.sources)
      (hhand : (f.pumps source).hand = []) (hunread : (f.pumps source).unread = [])
      (hclosed : (f.pumps source).closed = true) :
      Step f (.finish source) (f.tell (.ended source))
  | wait (status : Int) (hexited : f.exited = some status)
      (hunknown : f.supervision.status = none) :
      Step f .wait (f.tell (.exited status))
  | receive (t : Terminal.Pty) (m : AgentMessage) (rest : List AgentMessage)
      (hchannel : f.channel = m :: rest) (hphase : f.session.phase = .running) :
      Step f (.receive t) (({ f with channel := rest }).happen t (.received m))
  | leave (t : Terminal.Pty) (hphase : f.session.phase = .leaving) :
      Step f (.leave t) (f.happen t .disconnected)
  | local_ (t : Terminal.Pty) (e : Event) (hlocal : e.isLocal = true) :
      Step f (.local_ t e) (f.happen t e)

/-- **What a move leads to** is one of these steps.

**Proof sketch.** By cases of the move.  The guards that a move has to pass are the hypotheses of
its step, and nothing else is left to say. -/
lemma step_of_step? {f g : Flow} {move : Move} (h : f.step? move = some g) : f.Step move g := by
  cases move with
  | write toError bytes =>
    simp only [step?] at h
    split_ifs at h with hopen
    cases h
    exact .write toError bytes hopen
  | echo device bytes =>
    simp only [step?, Bool.and_eq_true, Bool.not_eq_true'] at h
    split_ifs at h with hopen
    cases h
    exact .echo device bytes hopen.2
  | close source =>
    cases h
    exact .close source
  | exit status =>
    simp only [step?] at h
    split_ifs at h with hexited
    cases h
    exact .exit status (by simpa using hexited)
  | read source size =>
    simp only [step?] at h
    split_ifs at h with hguard
    cases h
    obtain ⟨hsource, hhand, hpos, -, hsize⟩ := hguard
    exact .read source size hsource hhand hpos hsize
  | pass source =>
    simp only [step?] at h
    split_ifs at h with hhand
    cases h
    exact .pass source hhand
  | finish source =>
    simp only [step?] at h
    split_ifs at h with hguard
    cases h
    obtain ⟨hsource, hhand, hunread, hclosed⟩ := hguard
    exact .finish source hsource hhand hunread hclosed
  | wait =>
    simp only [step?] at h
    split at h
    · next status hexited =>
      split_ifs at h with hknown
      cases h
      exact .wait status hexited (by simpa using hknown)
    · cases h
  | receive t =>
    simp only [step?] at h
    split at h
    · next m rest hchannel =>
      split_ifs at h with hphase
      cases h
      exact .receive t m rest hchannel hphase
    · cases h
  | leave t =>
    simp only [step?] at h
    split_ifs at h with hphase
    cases h
    exact .leave t hphase
  | local_ t e =>
    simp only [step?] at h
    split_ifs at h with hlocal
    cases h
    exact .local_ t e hlocal

/-- What some moves lead to, one after another, if they are possible. -/
def run? (f : Flow) : List Move → Option Flow
  | [] => some f
  | move :: moves => (f.step? move).bind fun g => g.run? moves

/-- A run is its first move and then the others. -/
lemma run?_cons {f g : Flow} {move : Move} {moves : List Move} :
    f.run? (move :: moves) = some g ↔ ∃ next, f.step? move = some next ∧ next.run? moves = some g :=
  Option.bind_eq_some_iff

/-- What holds at the start and is kept by each move holds after any moves. -/
lemma run?_induction {motive : Flow → Prop}
    (hstep : ∀ f move g, motive f → f.step? move = some g → motive g) {moves : List Move}
    {f g : Flow} (hstart : motive f) (hrun : f.run? moves = some g) : motive g := by
  induction moves generalizing f with
  | nil => exact Option.some.inj hrun ▸ hstart
  | cons move moves ih =>
    obtain ⟨next, hnext, hrest⟩ := run?_cons.1 hrun
    exact ih (hstep f move next hstart hnext) hrest

/-! ## Pumps -/

/-- What some output brings to a source. -/
def brought (source : Source) (output : List Output) : List UInt8 :=
  output.flatMap fun o => if o.1 = source then o.2 else []

/-- **What is put** at the sources ends up unread there, and nothing else changes. -/
lemma foldl_put (pumps : Source → Pump) (output : List Output) (source : Source) :
    (output.foldl put pumps) source =
      { pumps source with unread := (pumps source).unread ++ brought source output } := by
  induction output generalizing pumps with
  | nil => simp [brought]
  | cons o output ih =>
    rw [List.foldl_cons, ih]
    by_cases ho : o.1 = source
    · subst ho
      simp [put, brought]
    · simp [put, brought, ho, Function.update_of_ne (Ne.symm ho)]

end Flow

/-! ## Where a child writes -/

namespace Process

/-- Output that is not on the terminal goes to its pipe. -/
lemma write_of_pipe {p : Process} {toError : Bool} (h : p.streams.marks toError = false)
    (bytes : List UInt8) :
    p.write toError bytes = (p, if bytes.isEmpty then [] else [(Source.pipe toError, bytes)]) := by
  cases toError <;> simp [Streams.marks] at h <;> simp [write, h, Source.pipe]

/-- Output that is on the terminal goes there, and stays on it. -/
lemma write_of_terminal {p : Process} {toError : Bool} (h : p.streams.marks toError = true)
    (hterminal : p.terminal.isSome = true) (bytes : List UInt8) :
    (p.write toError bytes).1.streams = p.streams ∧
      (p.write toError bytes).1.terminal.isSome = true ∧
      ∀ o ∈ (p.write toError bytes).2, o.1 = .terminal := by
  obtain ⟨t, ht⟩ := Option.isSome_iff_exists.1 hterminal
  have hwrite : p.write toError bytes =
      ({ p with terminal := some { t with line := t.line.write bytes } } : Process).flush := by
    cases toError <;> simp [Streams.marks] at h <;> simp [write, h, ht]
  rw [hwrite, flush]
  refine ⟨rfl, rfl, fun o ho => ?_⟩
  simp only at ho
  split_ifs at ho
  · cases ho
  · rw [List.mem_singleton.1 ho]

end Process

/-- **A launch has a terminal** just if a stream is on it. -/
lemma LaunchRequest.terminal_of_launch {r : LaunchRequest} {isDirectory : String → Bool}
    {payload : Option (List UInt8)} {host : HostProfile} {spec : Launch}
    (h : r.launch isDirectory payload host = .ok spec) :
    spec.terminal.isSome = spec.streams.any := by
  rw [launch] at h
  split at h
  · cases h
  · next m _ =>
    split at h
    · cases h
    · cases h
      cases hterminal : r.terminal with
      | none => simp [streams, hterminal, Streams.any]
      | some t => cases hany : m.terminals.any <;> simp [streams, hterminal, hany]

end CommandRelay
