import CommandRelay.Dictionary

/-!
# Terminal modes on the wire

Terminal modes travel as pairs of an opcode and a value.  Flags are 0 or 1; control characters and
line speeds carry their value.  Opcode 0 ends the list.

## Main definitions

* `Terminal.Modes` — the modes by opcode.
* `Terminal.Modes.ofPairs`, `toPairs` — the wire form; `carried` — what of it is sent.
* `Terminal.Opcode` — the opcodes by name.
-/

namespace CommandRelay.Terminal

namespace Opcode

/-! ## Control characters -/

/-- The character that interrupts. -/
def vintr : Nat := 1

/-- The character that quits. -/
def vquit : Nat := 2

/-- The character that erases one before it. -/
def verase : Nat := 3

/-- The character that erases the line. -/
def vkill : Nat := 4

/-- The character that ends the input. -/
def veof : Nat := 5

/-- A further character that ends a line. -/
def veol : Nat := 6

/-- A second further character that ends a line. -/
def veol2 : Nat := 7

/-- The character that lets output go on. -/
def vstart : Nat := 8

/-- The character that holds output. -/
def vstop : Nat := 9

/-- The character that suspends. -/
def vsusp : Nat := 10

/-- The character that prints the line again. -/
def vreprint : Nat := 12

/-- The character that erases a word. -/
def vwerase : Nat := 13

/-- The character that takes the next one as it is. -/
def vlnext : Nat := 14

/-- The character that switches the shell layer. -/
def vswtch : Nat := 16

/-- The character that discards output. -/
def vdiscard : Nat := 18

/-! ## Input flags -/

/-- Whether a character with a parity error is ignored. -/
def ignpar : Nat := 30

/-- Whether parity errors are marked. -/
def parmrk : Nat := 31

/-- Whether parity is checked. -/
def inpck : Nat := 32

/-- Whether the eighth bit is stripped. -/
def istrip : Nat := 33

/-- Whether a line feed that is typed becomes a carriage return. -/
def inlcr : Nat := 34

/-- Whether a carriage return that is typed is ignored. -/
def igncr : Nat := 35

/-- Whether a carriage return that is typed becomes a line feed. -/
def icrnl : Nat := 36

/-- Whether typed characters hold output and let it go on. -/
def ixon : Nat := 38

/-- Whether any character lets output go on. -/
def ixany : Nat := 39

/-- Whether input is held when too much has arrived. -/
def ixoff : Nat := 40

/-- Whether a full input queue rings the bell. -/
def imaxbel : Nat := 41

/-- Whether input is UTF-8. -/
def iutf8 : Nat := 42

/-! ## Local flags -/

/-- Whether typed characters raise signals. -/
def isig : Nat := 50

/-- Whether input is gathered line by line. -/
def icanon : Nat := 51

/-- Whether input is echoed. -/
def echo : Nat := 53

/-- Whether an erased character is rubbed out. -/
def echoe : Nat := 54

/-- Whether an erased line is followed by a line feed. -/
def echok : Nat := 55

/-- Whether a line feed is echoed even if nothing else is. -/
def echonl : Nat := 56

/-- Whether a signal leaves the queues as they are. -/
def noflsh : Nat := 57

/-- Whether output from the background stops its process. -/
def tostop : Nat := 58

/-- Whether the extended characters have their meaning. -/
def iexten : Nat := 59

/-- Whether control characters are echoed with a caret. -/
def echoctl : Nat := 60

/-- Whether an erased line is rubbed out. -/
def echoke : Nat := 61

/-- Whether input that waits is gathered again. -/
def pendin : Nat := 62

/-! ## Output flags -/

/-- Whether output is processed. -/
def opost : Nat := 70

/-- Whether lower case is written as upper case. -/
def olcuc : Nat := 71

/-- Whether a line feed is written with a carriage return before it. -/
def onlcr : Nat := 72

/-- Whether a carriage return is written as a line feed. -/
def ocrnl : Nat := 73

/-- Whether a carriage return in the first column is left out. -/
def onocr : Nat := 74

/-- Whether a line feed also returns the carriage. -/
def onlret : Nat := 75

/-! ## Line settings -/

/-- Whether a character has seven bits. -/
def cs7 : Nat := 90

/-- Whether a character has eight bits. -/
def cs8 : Nat := 91

/-- Whether there is a parity bit. -/
def parenb : Nat := 92

/-- Whether parity is odd. -/
def parodd : Nat := 93

/-- The speed of the input in baud. -/
def ispeed : Nat := 128

/-- The speed of the output in baud. -/
def ospeed : Nat := 129

/-- The opcode that ends a list of pairs. -/
def endOfList : Nat := 0

/-- The opcodes that the transport knows a name for. -/
def isNamed (op : Nat) : Bool :=
  op ≤ 18 || (30 ≤ op && op ≤ 42) || (50 ≤ op && op ≤ 62) || (70 ≤ op && op ≤ 75) ||
  (90 ≤ op && op ≤ 93) || op == 128 || op == 129

end Opcode

/-- Terminal modes: the value of each opcode that has one. -/
structure Modes where
  values : Dictionary Nat Nat := .empty
  deriving DecidableEq, Inhabited

namespace Modes

/-- No modes. -/
def empty : Modes := {}

/-- The value of an opcode. -/
def get? (m : Modes) (op : Nat) : Option Nat := m.values.get? op

/-- Gives an opcode a value. -/
def set (m : Modes) (op value : Nat) : Modes := ⟨m.values.insert op value⟩

/-- How many opcodes have a value. -/
def size (m : Modes) : Nat := m.values.size

/-- Whether no opcode has a value. -/
def isEmpty (m : Modes) : Bool := m.values.isEmpty

/-- The pairs in the order of their opcodes, ready to be sent. -/
def toPairs (m : Modes) : List (Nat × Nat) := m.values.entries

/-- The pairs before the first one with opcode 0. -/
def beforeEnd (pairs : List (Nat × Nat)) : List (Nat × Nat) :=
  pairs.takeWhile fun p => p.1 != Opcode.endOfList

/-- The modes of received pairs: opcode 0 and whatever follows it is ignored, and the last value
of an opcode counts. -/
def ofPairs (pairs : List (Nat × Nat)) : Modes := ⟨Dictionary.ofList (beforeEnd pairs)⟩

/-- The pairs that a transport carries which has names for some opcodes: those that it can name,
and none that would end them. -/
def carriedBy (isNamed : Nat → Bool) (pairs : List (Nat × Nat)) : List (Nat × Nat) :=
  pairs.filter fun p => isNamed p.1 && p.1 != Opcode.endOfList

/-- The pairs that the transport carries. -/
def carried (pairs : List (Nat × Nat)) : List (Nat × Nat) := carriedBy Opcode.isNamed pairs

end Modes

end CommandRelay.Terminal
