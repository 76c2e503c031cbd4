import CommandRelay.Signal

/-!
# Exit codes

A session ends with one exit code for the local process, made from what the remote side reported;
the remote side makes its report from the wait status of the child.

## Main definitions

* `ExitReport` — what has been heard of the end of a session; `ExitReport.code`.
* `WaitStatus.exitCode` — the report for a wait status.
-/

namespace CommandRelay

/-- The code when the remote status is unknown. -/
def unknownExitCode : Int := 255

/-- What a death by signal adds to the number of the signal. -/
def signalExitBase : Int := 128

/-- What has been heard of the end of a session. -/
structure ExitReport where
  /-- The first status or signal. -/
  status : Option Int := none
  /-- Whether the remote side has ended its output. -/
  sawEof : Bool := false
  deriving DecidableEq, Repr, Inhabited

namespace ExitReport

/-- Something heard of the end of a session. -/
inductive Event where
  /-- The remote process ended with a status. -/
  | status (code : Nat)
  /-- The remote process died of a signal, which may be unknown here. -/
  | signal (number : Option Int)
  /-- The remote side has ended its output. -/
  | eof
  deriving DecidableEq, Repr

/-- The exit code of a status; one beyond 32 signed bits says nothing. -/
def ofStatus (code : Nat) : Int := if code < 2147483648 then code else unknownExitCode

/-- The exit code of a death by signal. -/
def ofSignal (number : Option Int) : Int :=
  match number with
  | some n => signalExitBase + n
  | none => unknownExitCode

/-- Takes an event in; the first status or signal counts. -/
def record (r : ExitReport) : Event → ExitReport
  | .status code => { r with status := r.status.or (some (ofStatus code)) }
  | .signal number => { r with status := r.status.or (some (ofSignal number)) }
  | .eof => { r with sawEof := true }

/-- Takes events in, one after another. -/
def recordAll (r : ExitReport) (events : List Event) : ExitReport := events.foldl record r

/-- Whether a status or signal was heard of. -/
def hasStatus (r : ExitReport) : Bool := r.status.isSome

/-- The exit code: the reported one; success after an orderly end without a report; unknown
otherwise. -/
def code (r : ExitReport) : Int :=
  match r.status with
  | some code => code
  | none => if r.sawEof then 0 else unknownExitCode

end ExitReport

namespace WaitStatus

/-- How a raw wait status says that a process ended. -/
inductive End where
  | exited (code : Nat)
  | signalled (number : Nat)
  | other
  deriving DecidableEq, Repr

/-- Reads a raw wait status: the low seven bits hold a signal, none meaning an exit whose code is
the byte above, and all of them meaning neither. -/
def classify (raw : Int) : End :=
  let low := (raw % 128).toNat
  if low = 0 then .exited ((raw / 256) % 256).toNat
  else if low = 127 then .other
  else .signalled low

/-- The exit code that is reported for a raw wait status. -/
def exitCode (raw : Int) : Nat :=
  match classify raw with
  | .exited code => code
  | .signalled n => 128 + n
  | .other => 255

/-- The raw wait status of a process that exited. -/
def ofExit (code : Nat) : Int := (code % 256 : Nat) * 256

/-- The raw wait status of a process that died of a signal. -/
def ofSignal (s : Signal) : Int := s.number

end WaitStatus

end CommandRelay
