import CommandRelay.Text.Split

/-!
# Signals

The signals that cross between both sides, their numbers on the host and their names on the wire.

## Main definitions

* `Signal` — the signals with a name; `Signal.number`, `ofNumber?`, `name`, `ofName?`.
* `Signal.forwardable` — those that a process can catch and pass on.
* `WireSignal` — a signal as the transport spells it.
-/

namespace CommandRelay

/-- The signals that have a name on the wire. -/
inductive Signal where
  | abrt
  | alrm
  | fpe
  | hup
  | ill
  | int
  | kill
  | pipe
  | quit
  | segv
  | term
  | usr1
  | usr2
  deriving DecidableEq, Repr, Inhabited

namespace Signal

/-- Every signal, in the order of their names. -/
def all : List Signal :=
  [abrt, alrm, fpe, hup, ill, int, kill, pipe, quit, segv, term, usr1, usr2]

/-- The name of a signal, without the leading `SIG`. -/
def name : Signal → String
  | abrt => "ABRT"
  | alrm => "ALRM"
  | fpe => "FPE"
  | hup => "HUP"
  | ill => "ILL"
  | int => "INT"
  | kill => "KILL"
  | pipe => "PIPE"
  | quit => "QUIT"
  | segv => "SEGV"
  | term => "TERM"
  | usr1 => "USR1"
  | usr2 => "USR2"

/-- The number of a signal on the host. -/
def number : Signal → Nat
  | hup => 1
  | int => 2
  | quit => 3
  | ill => 4
  | abrt => 6
  | fpe => 8
  | kill => 9
  | usr1 => 10
  | segv => 11
  | usr2 => 12
  | pipe => 13
  | alrm => 14
  | term => 15

/-- The signal with a number. -/
def ofNumber? (n : Int) : Option Signal := all.find? fun s => (s.number : Int) == n

/-- The signal of a name in any case, with or without one leading `SIG`. -/
def ofName? (name : String) : Option Signal :=
  let bare := match Text.after? "SIG".toList name.toList with
    | some rest => String.ofList rest
    | none => name
  all.find? fun s => Text.sameIgnoringAsciiCase s.name bare

/-- The signals that a process can catch and pass on. -/
def forwardable : List Signal := [abrt, alrm, hup, int, pipe, quit, term, usr1, usr2]

end Signal

/-- A signal as the transport spells it: by a name of its own or by a name of the sender's. -/
inductive WireSignal where
  | known (signal : Signal)
  | custom (name : String)
  deriving DecidableEq, Repr

namespace WireSignal

/-- Whether the transport has a name of its own for a signal: for all but `USR2`. -/
def hasOwnName (s : Signal) : Bool := s != .usr2

/-- How a signal travels. -/
def ofSignal (s : Signal) : WireSignal := if hasOwnName s then .known s else .custom s.name

/-- How a name travels: only the exact names of the transport are its own. -/
def ofText (name : String) : WireSignal :=
  match Signal.all.find? fun s => hasOwnName s && s.name == name with
  | some s => .known s
  | none => .custom name

/-- The name that travels. -/
def name : WireSignal → String
  | known s => s.name
  | custom n => n

/-- The signal on this host, if there is one of that name. -/
def toSignal? (w : WireSignal) : Option Signal := Signal.ofName? w.name

end WireSignal

end CommandRelay
