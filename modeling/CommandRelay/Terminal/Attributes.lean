import CommandRelay.Terminal.Modes

/-!
# A terminal's own attributes

A terminal keeps its attributes in four words of flags and a row of control characters.  Tables
tie each wire opcode to a flag or to a place in the row; what has no opcode never crosses.

## Main definitions

* `Terminal.Attributes` — the attributes.
* `Attributes.toModes` — what crosses; `Attributes.applyModes` — what arriving modes change.
* `Attributes.makeRaw` — the attributes of a terminal that passes everything through.
* `Terminal.Size` — geometry.
-/

namespace CommandRelay.Terminal

/-- A row of seventeen control characters. -/
abbrev ControlChars := Vector UInt8 17

/-- The four flag words and the control characters. -/
structure Attributes where
  iflag : UInt32
  oflag : UInt32
  lflag : UInt32
  cflag : UInt32
  chars : ControlChars
  deriving DecidableEq, Repr, Inhabited

/-! ## Tables -/

/-- Opcodes of control characters and their places. -/
def controlCharTable : List (Nat × Fin 17) := [
  (Opcode.vintr, 0), (Opcode.vquit, 1), (Opcode.verase, 2), (Opcode.vkill, 3), (Opcode.veof, 4),
  (Opcode.veol, 11), (Opcode.veol2, 16), (Opcode.vstart, 8), (Opcode.vstop, 9),
  (Opcode.vsusp, 10), (Opcode.vreprint, 12), (Opcode.vwerase, 14), (Opcode.vlnext, 15),
  (Opcode.vswtch, 7), (Opcode.vdiscard, 13)]

/-- Opcodes of input flags and their bits. -/
def inputFlagTable : List (Nat × UInt32) := [
  (Opcode.ignpar, 0x4), (Opcode.parmrk, 0x8), (Opcode.inpck, 0x10), (Opcode.istrip, 0x20),
  (Opcode.inlcr, 0x40), (Opcode.igncr, 0x80), (Opcode.icrnl, 0x100), (Opcode.ixon, 0x400),
  (Opcode.ixany, 0x800), (Opcode.ixoff, 0x1000), (Opcode.imaxbel, 0x2000),
  (Opcode.iutf8, 0x4000)]

/-- Opcodes of local flags and their bits. -/
def localFlagTable : List (Nat × UInt32) := [
  (Opcode.isig, 0x1), (Opcode.icanon, 0x2), (Opcode.echo, 0x8), (Opcode.echoe, 0x10),
  (Opcode.echok, 0x20), (Opcode.echonl, 0x40), (Opcode.noflsh, 0x80), (Opcode.tostop, 0x100),
  (Opcode.iexten, 0x8000), (Opcode.echoctl, 0x200), (Opcode.echoke, 0x800),
  (Opcode.pendin, 0x4000)]

/-- Opcodes of output flags and their bits. -/
def outputFlagTable : List (Nat × UInt32) := [
  (Opcode.opost, 0x1), (Opcode.olcuc, 0x2), (Opcode.onlcr, 0x4), (Opcode.ocrnl, 0x8),
  (Opcode.onocr, 0x10), (Opcode.onlret, 0x20)]

/-- Opcodes of line flags and their bits. -/
def controlFlagTable : List (Nat × UInt32) := [
  (Opcode.parenb, 0x100), (Opcode.parodd, 0x200)]

/-- The field of the character size. -/
def sizeMask : UInt32 := 0x30

/-- Seven bits a character. -/
def size7 : UInt32 := 0x20

/-- Eight bits a character. -/
def size8 : UInt32 := 0x30

/-- The field of the line speed, which both directions share. -/
def speedMask : UInt32 := 0x100f

/-- Speed codes and their rates in bits per second. -/
def speedTable : List (UInt32 × Nat) := [
  (0, 0), (1, 50), (2, 75), (3, 110), (4, 134), (5, 150), (6, 200), (7, 300), (8, 600),
  (9, 1200), (10, 1800), (11, 2400), (12, 4800), (13, 9600), (14, 19200), (15, 38400),
  (0x1001, 57600), (0x1002, 115200), (0x1003, 230400), (0x1004, 460800)]

/-- The rate of a speed code. -/
def rateOf? (code : UInt32) : Option Nat :=
  (speedTable.find? fun e => e.1 == code).map Prod.snd

/-- The speed code of a rate. -/
def codeOf? (rate : Nat) : Option UInt32 :=
  (speedTable.find? fun e => e.2 == rate).map Prod.fst

/-! ## Flags -/

/-- Whether all bits of `mask` are on. -/
def hasFlag (word mask : UInt32) : Bool := word &&& mask == mask

/-- Turns the bits of `mask` on or off. -/
def setFlag (word mask : UInt32) (on : Bool) : UInt32 :=
  if on then word ||| mask else word &&& ~~~mask

/-- A word with the flags that the modes speak of set as they say. -/
def applyFlags (table : List (Nat × UInt32)) (m : Modes) (word : UInt32) : UInt32 :=
  table.foldl (fun w e =>
    match m.get? e.1 with
    | some v => setFlag w e.2 (v != 0)
    | none => w) word

/-- The modes of a word's flags. -/
def flagPairs (table : List (Nat × UInt32)) (word : UInt32) : List (Nat × Nat) :=
  table.map fun e => (e.1, (hasFlag word e.2).toNat)

/-- Control characters with those that the modes speak of set as they say, modulo 256. -/
def applyChars (table : List (Nat × Fin 17)) (m : Modes) (chars : ControlChars) : ControlChars :=
  table.foldl (fun row e =>
    match m.get? e.1 with
    | some v => row.set e.2 (UInt8.ofNat v)
    | none => row) chars

namespace Attributes

/-- The bits of the input word that are modelled. -/
def inputMask : UInt32 := 0x7dff

/-- The bits of the output word that are modelled. -/
def outputMask : UInt32 := 0xffbf

/-- The bits of the local word that are modelled. -/
def localMask : UInt32 := 0x1dffb

/-- The bits of the control word that are modelled. -/
def controlMask : UInt32 := 0xd00f1fff

/-- Drops the bits that are not modelled. -/
def modelled (a : Attributes) : Attributes :=
  { a with
    iflag := a.iflag &&& inputMask
    oflag := a.oflag &&& outputMask
    lflag := a.lflag &&& localMask
    cflag := a.cflag &&& controlMask }

/-- The rate of the line, if its code has one. -/
def speed? (a : Attributes) : Option Nat := rateOf? (a.cflag &&& speedMask)

/-- The modes that cross, as they are collected: every flag and control character of the tables,
the character size as two flags, and the speed of each direction if it has a rate. -/
def pairs (a : Attributes) : List (Nat × Nat) :=
  let size := a.cflag &&& sizeMask
  controlCharTable.map (fun e => (e.1, a.chars[e.2].toNat)) ++
    flagPairs inputFlagTable a.iflag ++ flagPairs localFlagTable a.lflag ++
    flagPairs outputFlagTable a.oflag ++ flagPairs controlFlagTable a.cflag ++
    [(Opcode.cs7, (size == size7).toNat), (Opcode.cs8, (size == size8).toNat)] ++
    (a.speed?.map fun r => (Opcode.ispeed, r)).toList ++
    (a.speed?.map fun r => (Opcode.ospeed, r)).toList

/-- The modes that cross. -/
def toModes (a : Attributes) : Modes := ⟨Dictionary.ofList a.pairs⟩

/-- Sets the speed of the line if the rate has a code. -/
def withSpeed (cflag : UInt32) (rate : Nat) : UInt32 :=
  match codeOf? rate with
  | some code => (cflag &&& ~~~speedMask) ||| code
  | none => cflag

/-- Sets the speed asked for as input speed.  An input speed of 0 means "the same as the output"
and changes nothing. -/
def withInputSpeed (cflag : UInt32) (rate : Nat) : UInt32 :=
  if rate = 0 then cflag else withSpeed cflag rate

/-- The line word after the modes' speeds: the output speed is set last, so it decides. -/
def applySpeeds (m : Modes) (cflag : UInt32) : UInt32 :=
  let cflag := match m.get? Opcode.ispeed with
    | some rate => withInputSpeed cflag rate
    | none => cflag
  match m.get? Opcode.ospeed with
  | some rate => withSpeed cflag rate
  | none => cflag

/-- The character size that the modes ask for; eight bits go before seven. -/
def requestedSize? (m : Modes) : Option UInt32 :=
  if (m.get? Opcode.cs8).any (· != 0) then some size8
  else if (m.get? Opcode.cs7).any (· != 0) then some size7
  else none

/-- Applies the requested character size. -/
def applySize (m : Modes) (cflag : UInt32) : UInt32 :=
  match requestedSize? m with
  | some size => (cflag &&& ~~~sizeMask) ||| size
  | none => cflag

/-- The attributes after arriving modes: what they speak of is set, all else stays. -/
def applyModes (m : Modes) (a : Attributes) : Attributes where
  iflag := applyFlags inputFlagTable m a.iflag
  oflag := applyFlags outputFlagTable m a.oflag
  lflag := applyFlags localFlagTable m a.lflag
  cflag := applySize m (applyFlags controlFlagTable m (applySpeeds m a.cflag))
  chars := applyChars controlCharTable m a.chars

/-- The attributes of a terminal that passes everything through unchanged: no input or output
processing, no echo, no lines, no signals, eight bits, and one character is enough to read. -/
def makeRaw (a : Attributes) : Attributes where
  iflag := a.iflag &&& ~~~0x5eb
  oflag := a.oflag &&& ~~~0x1
  lflag := a.lflag &&& ~~~0x804b
  cflag := (a.cflag &&& ~~~0x130) ||| 0x30
  chars := (a.chars.set 6 1).set 5 0

end Attributes

/-! ## Pseudo-terminals -/

/-- Geometry in cells and pixels. -/
structure Size where
  cols : UInt16 := 0
  rows : UInt16 := 0
  pixelWidth : UInt16 := 0
  pixelHeight : UInt16 := 0
  deriving DecidableEq, Repr, Inhabited

namespace Size

/-- A measure sent over the wire, or the largest one that a terminal can hold. -/
def clamp (n : Nat) : UInt16 := if n < 65536 then UInt16.ofNat n else 65535

/-- The geometry of four measures sent over the wire. -/
def ofWire (cols rows pixelWidth pixelHeight : Nat) : Size :=
  ⟨clamp cols, clamp rows, clamp pixelWidth, clamp pixelHeight⟩

end Size

/-- A pseudo-terminal: its geometry and attributes. -/
structure Pty where
  size : Size
  attributes : Attributes
  deriving DecidableEq, Repr, Inhabited

namespace Pty

/-- The attributes of a new pseudo-terminal. -/
def freshAttributes : Attributes where
  iflag := 0x500
  oflag := 0x5
  lflag := 0x8a3b
  cflag := 0xbf
  chars := #v[3, 28, 127, 21, 4, 0, 1, 0, 17, 19, 26, 0, 18, 15, 23, 22, 0]

/-- What the line of a pseudo-terminal makes of attributes: it has always eight bits, no parity
and an open receiver. -/
def settle (a : Attributes) : Attributes :=
  { a with cflag := (a.cflag &&& ~~~0x130) ||| 0xb0 }

/-- Gives a pseudo-terminal new attributes. -/
def setAttributes (p : Pty) (a : Attributes) : Pty := { p with attributes := settle a }

/-- A new pseudo-terminal of some geometry, with modes applied if there are any. -/
def openWith (size : Size) (modes : Modes) : Pty :=
  let p : Pty := ⟨size, freshAttributes⟩
  if modes.isEmpty then p else p.setAttributes (p.attributes.applyModes modes)

/-- Changes the geometry. -/
def resize (p : Pty) (size : Size) : Pty := { p with size }

/-- What is said when something that is no terminal is asked for its geometry, given a geometry, or
asked for its attributes. -/
def notTerminalMessages : List String := [
  "failed to query window size: Inappropriate ioctl for device (os error 25)",
  "failed to set window size: Inappropriate ioctl for device (os error 25)",
  "failed to read terminal attributes: ENOTTY: Not a typewriter"]

end Pty

end CommandRelay.Terminal
