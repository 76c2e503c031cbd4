import CommandRelay.Agent.Supervision
import CommandRelay.Terminal.LineDiscipline

/-!
# Processes

A program is seen as the acts that it performs one after another: it writes, reads and ends.  A
process performs them as far as its input allows.  A program that ends may leave another one behind,
which belongs to the same group: it gets the same input and the same signals.

## Main definitions

* `Act` — what a program can do.
* `Process` — a program that runs, with its terminal and its input.
* `Process.run` — running on as far as possible.
-/

namespace CommandRelay

open Agent (Source)

/-- One act of a program. -/
inductive Act where
  /-- Writes output or error output. -/
  | write (toError : Bool) (bytes : List UInt8)
  /-- Copies its input to its output, up to the end of the input. -/
  | copyInput
  /-- Waits for a line of input, and writes the size of the terminal that it came from. -/
  | reportSize
  /-- Does nothing any more. -/
  | idle
  /-- Sends itself a signal. -/
  | raise (signal : Signal)
  | exit (code : Nat)
  /-- Ends, and leaves the rest of the acts to a program behind it. -/
  | leave (code : Nat)
  deriving DecidableEq, Repr

/-- A piece of output and where it comes from. -/
abbrev Output := Source × List UInt8

/-- A program that runs. -/
structure Process where
  acts : List Act
  streams : Streams
  terminal : Option Terminal.Device := none
  /-- Input from a pipe that was not read yet. -/
  input : List UInt8 := []
  /-- The pipe has ended. -/
  inputEnded : Bool := false
  /-- How the process ended, as a raw wait status. -/
  status : Option Int := none
  /-- A program that it has left behind goes on. -/
  behind : Bool := false
  deriving Inhabited

namespace Process

/-- A process with a launch's streams and terminal that is about to perform some acts. -/
def ofSpec (spec : Launch) (acts : List Act) : Process where
  acts := acts
  streams := spec.streams
  terminal := spec.terminal.map fun t => .ofPty (.openWith t.size t.modes)

/-- What the terminal has sent to its other end. -/
def flush (p : Process) : Process × List Output :=
  match p.terminal with
  | none => (p, [])
  | some t =>
    let (bytes, line) := t.line.takeSent
    ({ p with terminal := some { t with line } },
      if bytes.isEmpty then [] else [(.terminal, bytes)])

/-- Writes to a stream. -/
def write (p : Process) (toError : Bool) (bytes : List UInt8) : Process × List Output :=
  let onTerminal := if toError then p.streams.stderr else p.streams.stdout
  match onTerminal, p.terminal with
  | true, some t => { p with terminal := some { t with line := t.line.write bytes } }.flush
  | _, _ =>
    (p, if bytes.isEmpty then [] else [(if toError then .stderr else .stdout, bytes)])

/-- The lines before an empty one, whether there is one, and the lines after it. -/
def takeLines : List (List UInt8) → List UInt8 × Bool × List (List UInt8)
  | [] => ([], false, [])
  | [] :: rest => ([], true, rest)
  | line :: rest =>
    let (bytes, ended, rest) := takeLines rest
    (line ++ bytes, ended, rest)

/-- All input that can be read, and whether its end was reached. -/
def readAll (p : Process) : List UInt8 × Bool × Process :=
  match p.streams.stdin, p.terminal with
  | true, some t =>
    let (bytes, ended, finished) := takeLines t.line.finished
    let line := { t.line with finished }
    if ended || line.attributes.icanon then
      (bytes, ended, { p with terminal := some { t with line } })
    else
      (bytes ++ line.unfinished.reverse, false,
        { p with terminal := some { t with line := { line with unfinished := [] } } })
  | _, _ => (p.input, p.inputEnded, { p with input := [] })

/-- Reads one line, if that does not mean waiting. -/
def readLine? (p : Process) : Option Process :=
  match p.streams.stdin, p.terminal with
  | true, some t => t.line.read?.map fun (_, line) => { p with terminal := some { t with line } }
  | _, _ =>
    let rest := p.input.dropWhile (· ≠ Terminal.lineFeed)
    if rest.isEmpty && !p.inputEnded then none else some { p with input := rest.drop 1 }

/-- The size of the terminal as a line of text, if the input comes from a terminal. -/
def sizeLine (p : Process) : List UInt8 :=
  match p.streams.stdin, p.terminal with
  | true, some t => Text.toBytes s!"{t.size.rows.toNat} {t.size.cols.toNat}\n"
  | _, _ => []

/-- Nothing of the process runs any more. -/
def isOver (p : Process) : Bool := p.status.isSome && !p.behind

/-- Ends what runs of the process; how a program ends that was left behind, nobody asks. -/
def finish (p : Process) (status : Int) : Process :=
  { p with status := p.status.or (some status), behind := false }

/-- Performs acts as far as the input allows.  The end of the program that was started hangs up on
what it leaves behind if they have a terminal. -/
def perform (p : Process) : List Act → Process × List Output
  | [] => ({ p with acts := [] }.finish (WaitStatus.ofExit 0), [])
  | act :: acts =>
    match act with
    | .write toError bytes =>
      let (p, now) := p.write toError bytes
      let (p, later) := p.perform acts
      (p, now ++ later)
    | .copyInput =>
      let (bytes, ended, p) := p.readAll
      let (p, now) := p.write false bytes
      if ended then
        let (p, later) := p.perform acts
        (p, now ++ later)
      else ({ p with acts := act :: acts }, now)
    | .reportSize =>
      match p.readLine? with
      | none => ({ p with acts := act :: acts }, [])
      | some p =>
        let (p, now) := p.write false p.sizeLine
        let (p, later) := p.perform acts
        (p, now ++ later)
    | .idle => ({ p with acts := act :: acts }, [])
    | .raise s => ({ p with acts }.finish (WaitStatus.ofSignal s), [])
    | .exit code => ({ p with acts }.finish (WaitStatus.ofExit code), [])
    | .leave code =>
      let p := p.finish (WaitStatus.ofExit code)
      if p.terminal.isSome then ({ p with acts }, []) else { p with behind := true }.perform acts

/-- Runs on as far as possible, if anything of the process runs. -/
def run (p : Process) : Process × List Output := if p.isOver then (p, []) else p.perform p.acts

/-- Whether a signal leaves programs in the background alone. -/
def sparesBackground (s : Signal) : Bool := s = .int || s = .quit

/-- Ends the process by a signal, if it has not ended, with what it has left behind. -/
def kill (p : Process) (s : Signal) : Process :=
  { p with
    status := p.status.or (some (WaitStatus.ofSignal s))
    behind := p.behind && sparesBackground s }

/-- Puts bytes behind the input; on a terminal they are typed, and may cause signals. -/
def feed (p : Process) (bytes : List UInt8) : Process × List Output :=
  match p.streams.stdin, p.terminal with
  | true, some t =>
    let line := t.line.type bytes
    let p := { p with terminal := some { t with line := { line with signals := [] } } }
    let (p, echo) := (line.signals.foldl kill p).flush
    let (p, output) := p.run
    (p, echo ++ output)
  | _, _ => { p with input := p.input ++ bytes }.run

/-- Ends the input from a pipe; a terminal's input does not end. -/
def endInput (p : Process) : Process × List Output := { p with inputEnded := true }.run

/-- Gives the terminal another size. -/
def resize (p : Process) (size : Terminal.Size) : Process :=
  { p with terminal := p.terminal.map fun t => { t with size } }

end Process

end CommandRelay
