import CommandRelay.Signal
import CommandRelay.Terminal.Attributes

/-!
# What a terminal does with what passes through it

Between the program and the other end of a terminal stands its line discipline.  It changes what
the program writes, and it makes lines, echo and signals of what is typed, as the terminal's
attributes say.

## Main definitions

* `Terminal.Line` — a line discipline with what waits in it.
* `Terminal.Line.write` — what a program writes.
* `Terminal.Line.type` — what is typed.
* `Terminal.Device` — a terminal with its line discipline.
-/

namespace CommandRelay.Terminal

/-! ## Characters -/

/-- Whether a character is a control character. -/
def isControl (c : UInt8) : Bool := c < 32 || c = 127

/-- Whether a character is a lower-case letter of the western European alphabet. -/
def isLower (c : UInt8) : Bool := (97 ≤ c && c ≤ 122) || (223 ≤ c && c ≠ 247)

/-- Whether a character is a letter or a digit of the western European alphabet. -/
def isAlphanumeric (c : UInt8) : Bool :=
  (48 ≤ c && c ≤ 57) || (65 ≤ c && c ≤ 90) || (192 ≤ c && c ≠ 215 && c ≠ 247) || isLower c

/-- The upper-case letter of a letter. -/
def upperCase (c : UInt8) : UInt8 := if isLower c then c - 32 else c

/-- The character that ends a line. -/
def lineFeed : UInt8 := 10

/-- The character that returns the carriage. -/
def carriageReturn : UInt8 := 13

/-- The character that moves to the next tab stop. -/
def tab : UInt8 := 9

/-- The character that moves one column back. -/
def backspace : UInt8 := 8

/-! ## Flags -/

namespace Attributes

/-- Whether an input flag is on. -/
def input (a : Attributes) (mask : UInt32) : Bool := hasFlag a.iflag mask

/-- Whether an output flag is on. -/
def output (a : Attributes) (mask : UInt32) : Bool := hasFlag a.oflag mask

/-- Whether a local flag is on. -/
def local_ (a : Attributes) (mask : UInt32) : Bool := hasFlag a.lflag mask

/-- Whether errors are marked by a byte of all ones, so that such a byte is doubled when it is
typed. -/
def parmrk (a : Attributes) : Bool := a.input 0x8

/-- Whether the eighth bit is stripped. -/
def istrip (a : Attributes) : Bool := a.input 0x20

/-- Whether a line feed that is typed becomes a carriage return. -/
def inlcr (a : Attributes) : Bool := a.input 0x40

/-- Whether a carriage return that is typed is ignored. -/
def igncr (a : Attributes) : Bool := a.input 0x80

/-- Whether a carriage return that is typed becomes a line feed. -/
def icrnl (a : Attributes) : Bool := a.input 0x100

/-- Whether typed characters hold output and let it go on. -/
def ixon (a : Attributes) : Bool := a.input 0x400

/-- Whether input is UTF-8, so that a character may have several bytes. -/
def iutf8 (a : Attributes) : Bool := a.input 0x4000

/-- Whether output is processed. -/
def opost (a : Attributes) : Bool := a.output 0x1

/-- Whether lower case is written as upper case. -/
def olcuc (a : Attributes) : Bool := a.output 0x2

/-- Whether a line feed is written with a carriage return before it. -/
def onlcr (a : Attributes) : Bool := a.output 0x4

/-- Whether a carriage return is written as a line feed. -/
def ocrnl (a : Attributes) : Bool := a.output 0x8

/-- Whether a carriage return in the first column is left out. -/
def onocr (a : Attributes) : Bool := a.output 0x10

/-- Whether a line feed also returns the carriage. -/
def onlret (a : Attributes) : Bool := a.output 0x20

/-- Whether typed characters raise signals. -/
def isig (a : Attributes) : Bool := a.local_ 0x1

/-- Whether input is gathered line by line. -/
def icanon (a : Attributes) : Bool := a.local_ 0x2

/-- Whether input is echoed. -/
def echo (a : Attributes) : Bool := a.local_ 0x8

/-- Whether an erased character is rubbed out. -/
def echoe (a : Attributes) : Bool := a.local_ 0x10

/-- Whether an erased line is followed by a line feed. -/
def echok (a : Attributes) : Bool := a.local_ 0x20

/-- Whether a line feed is echoed even if nothing else is. -/
def echonl (a : Attributes) : Bool := a.local_ 0x40

/-- Whether a signal leaves the queues as they are. -/
def noflsh (a : Attributes) : Bool := a.local_ 0x80

/-- Whether control characters are echoed with a caret. -/
def echoctl (a : Attributes) : Bool := a.local_ 0x200

/-- Whether an erased line is rubbed out. -/
def echoke (a : Attributes) : Bool := a.local_ 0x800

/-- Whether the extended characters have their meaning. -/
def iexten (a : Attributes) : Bool := a.local_ 0x8000

/-- The character that interrupts. -/
def intr (a : Attributes) : UInt8 := a.chars[0]

/-- The character that quits. -/
def quit (a : Attributes) : UInt8 := a.chars[1]

/-- The character that erases one before it. -/
def erase (a : Attributes) : UInt8 := a.chars[2]

/-- The character that erases the line. -/
def kill (a : Attributes) : UInt8 := a.chars[3]

/-- The character that ends the input. -/
def eof (a : Attributes) : UInt8 := a.chars[4]

/-- The character that lets output go on. -/
def start (a : Attributes) : UInt8 := a.chars[8]

/-- The character that holds output. -/
def stop (a : Attributes) : UInt8 := a.chars[9]

/-- The character that suspends. -/
def susp (a : Attributes) : UInt8 := a.chars[10]

/-- A further character that ends a line. -/
def eol (a : Attributes) : UInt8 := a.chars[11]

/-- The character that prints the line again. -/
def reprint (a : Attributes) : UInt8 := a.chars[12]

/-- The character that erases a word. -/
def werase (a : Attributes) : UInt8 := a.chars[14]

/-- The character that takes the next one as it is. -/
def lnext (a : Attributes) : UInt8 := a.chars[15]

/-- A second further character that ends a line. -/
def eol2 (a : Attributes) : UInt8 := a.chars[16]

/-- Whether a character continues another one, where characters may have several bytes. -/
def isContinuation (a : Attributes) (c : UInt8) : Bool := a.iutf8 && c &&& 0xc0 == 0x80

/-- Whether typed characters pass through with nothing done to them. -/
def passesInput (a : Attributes) : Bool :=
  !(a.igncr || a.icrnl || a.inlcr || a.icanon || a.ixon || a.isig || a.echo || a.parmrk)

/-- The characters for which something special may have to be done.  A control character that is
set to zero is switched off. -/
def specialChars (a : Attributes) : List UInt8 :=
  ((if a.igncr || a.icrnl then [carriageReturn] else []) ++
  (if a.inlcr then [lineFeed] else []) ++
  (if a.icanon then [a.erase, a.kill, a.eof, lineFeed, a.eol] else []) ++
  (if a.icanon && a.iexten then [a.werase, a.lnext, a.eol2] else []) ++
  (if a.icanon && a.iexten && a.echo then [a.reprint] else []) ++
  (if a.ixon then [a.start, a.stop] else []) ++
  (if a.isig then [a.intr, a.quit, a.susp] else [])).filter (· ≠ 0)

end Attributes

/-! ## State -/

/-- A line discipline with what waits in it. -/
structure Line where
  attributes : Attributes
  /-- The column of the cursor. -/
  column : Nat := 0
  /-- The column in which the unfinished line began. -/
  lineColumn : Nat := 0
  /-- The next typed character is meant literally. -/
  literal : Bool := false
  /-- The unfinished line, its last character first. -/
  unfinished : List UInt8 := []
  /-- The finished lines that no program has read yet; an empty one is the end of the input. -/
  finished : List (List UInt8) := []
  /-- What has gone to the other end. -/
  sent : Array UInt8 := #[]
  /-- The signals that typed characters have caused. -/
  signals : List Signal := []
  deriving Inhabited

namespace Line

/-- Sends a character to the other end. -/
def send (d : Line) (c : UInt8) : Line := { d with sent := d.sent.push c }

/-- Takes what has gone to the other end. -/
def takeSent (d : Line) : List UInt8 × Line := (d.sent.toList, { d with sent := #[] })

/-! ## Output -/

/-- Sends a character after output processing. -/
def put (d : Line) (c : UInt8) : Line :=
  let a := d.attributes
  if c = lineFeed then
    if a.onlcr then ({ d with column := 0, lineColumn := 0 }.send carriageReturn).send lineFeed
    else
      let column := if a.onlret then 0 else d.column
      { d with column, lineColumn := column }.send lineFeed
  else if c = carriageReturn then
    if a.onocr && d.column = 0 then d
    else if a.ocrnl then
      (if a.onlret then { d with column := 0, lineColumn := 0 } else d).send lineFeed
    else { d with column := 0, lineColumn := 0 }.send carriageReturn
  else if c = tab then
    let spaces := 8 - d.column % 8
    if a.output 0x1800 then
      (List.replicate spaces (32 : UInt8)).foldl send { d with column := d.column + spaces }
    else { d with column := d.column + spaces }.send tab
  else if c = backspace then { d with column := d.column - 1 }.send c
  else if isControl c then d.send c
  else
    let c := if a.olcuc then upperCase c else c
    (if a.isContinuation c then d else { d with column := d.column + 1 }).send c

/-- Sends a character as a program or the echo does: with output processing if it is on. -/
def putOrSend (d : Line) (c : UInt8) : Line := if d.attributes.opost then d.put c else d.send c

/-- What a program writes. -/
def write (d : Line) (bytes : List UInt8) : Line := bytes.foldl putOrSend d

/-! ## Echo -/

/-- Echoes a character; controls other than the tab may show as a caret and a letter. -/
def echoChar (d : Line) (c : UInt8) : Line :=
  if c = 255 then { d with column := d.column + 1 }.send c
  else if d.attributes.echoctl && isControl c && c ≠ tab then
    ({ d with column := d.column + 2 }.send 94).send (c ^^^ 64)
  else d.putOrSend c

/-- Marks the column in which a line begins, if it does. -/
def markColumn (d : Line) : Line :=
  if d.unfinished.isEmpty then { d with lineColumn := d.column } else d

/-- Echoes a character of a line, if there is echo. -/
def echoTyped (d : Line) (c : UInt8) : Line :=
  if d.attributes.echo then d.markColumn.echoChar c else d

/-! ## Input -/

/-- Adds a character to the unfinished line; where errors are marked, the marking character
doubles. -/
def store (d : Line) (c : UInt8) : Line :=
  let twice := if c = 255 && d.attributes.parmrk then [c, c] else [c]
  { d with unfinished := twice ++ d.unfinished }

/-- Ends the line; the character that ends it may belong to it. -/
def finish (d : Line) (last : List UInt8) : Line :=
  { d with finished := d.finished ++ [d.unfinished.reverse ++ last], unfinished := [] }

/-- Takes back one character on the screen. -/
def rubOut (d : Line) : Line := ((d.putOrSend backspace).putOrSend 32).putOrSend backspace

/-- How many columns the characters after the last tab of a line take, the last one first, and
whether there is a tab. -/
def columnsSinceTab (a : Attributes) : List UInt8 → Nat × Bool
  | [] => (0, false)
  | c :: rest =>
    if c = tab then (0, true)
    else
      let (n, found) := columnsSinceTab a rest
      if isControl c then (if a.echoctl then n + 2 else n, found)
      else (if a.isContinuation c then n else n + 1, found)

/-- Goes back one column on the screen. -/
def goBack (d : Line) : Line := { d with column := d.column - 1 }.send backspace

/-- Takes back a tab on the screen: back to where the text before it ends. -/
def rubOutTab (d : Line) : Line :=
  let (columns, afterTab) := columnsSinceTab d.attributes d.unfinished
  let columns := columns % 8 + if afterTab then 0 else d.lineColumn
  (List.range (8 - columns % 8)).foldl (fun d _ => d.goBack) d

/-- Shows that a character was taken out of the line. -/
def showErased (d : Line) (wholeLine : Bool) (c : UInt8) : Line :=
  let a := d.attributes
  if !a.echo then d
  else if !wholeLine && !a.echoe then d.echoChar a.erase
  else if c = tab then d.rubOutTab
  else
    let d := if isControl c && a.echoctl then d.rubOut else d
    if !isControl c || a.echoctl then d.rubOut else d

/-- The last character of a line, which may have several bytes, and the line before it. -/
def lastChar? (a : Attributes) : List UInt8 → Option (UInt8 × List UInt8)
  | [] => none
  | c :: rest => if a.isContinuation c then lastChar? a rest else some (c, rest)

/-- Takes the last character out of the line. -/
def eraseChar (d : Line) : Line :=
  match lastChar? d.attributes d.unfinished with
  | none => d
  | some (c, rest) => { d with unfinished := rest }.showErased false c

/-- Takes characters out of the line, one after another, as long as `go` says so; it is told
whether a letter or digit was among them. -/
def eraseWhile (go : Bool → UInt8 → Bool) (d : Line) (seen : Bool) : Nat → Line
  | 0 => d
  | n + 1 =>
    match lastChar? d.attributes d.unfinished with
    | none => d
    | some (c, rest) =>
      if go seen c then
        eraseWhile go ({ d with unfinished := rest }.showErased true c)
          (seen || isAlphanumeric c || c = 95) n
      else d

/-- Takes the last word out of the line. -/
def eraseWord (d : Line) : Line :=
  eraseWhile (fun seen c => isAlphanumeric c || c = 95 || !seen) d false d.unfinished.length

/-- Takes everything out of the line. -/
def killLine (d : Line) : Line :=
  let a := d.attributes
  if d.unfinished.isEmpty then d
  else if !a.echo then { d with unfinished := [] }
  else if a.echok && a.echoke && a.echoe then
    eraseWhile (fun _ _ => true) d false d.unfinished.length
  else
    let d := { d with unfinished := [] }.echoChar a.kill
    if a.echok then d.putOrSend lineFeed else d

/-- Shows the unfinished line again. -/
def showAgain (d : Line) : Line :=
  d.unfinished.reverse.foldl echoChar ((d.echoChar d.attributes.reprint).putOrSend lineFeed)

/-- Causes a signal; what waits is forgotten unless the attributes keep it. -/
def raiseSignal (d : Line) (signal : List Signal) (c : UInt8) : Line :=
  let d := { d with signals := d.signals ++ signal }
  let d := if d.attributes.noflsh then d else { d with unfinished := [], finished := [] }
  if d.attributes.echo then d.echoChar c else d

/-- Takes a character with no meaning of its own. -/
def typeOrdinary (d : Line) (c : UInt8) : Line := (d.echoTyped c).store c

/-- Takes a character where lines are made, if it has a meaning there. -/
def typeInLine? (d : Line) (c : UInt8) : Option Line :=
  let a := d.attributes
  if c = a.erase then some d.eraseChar
  else if c = a.kill then some d.killLine
  else if c = a.werase && a.iexten then some d.eraseWord
  else if c = a.lnext && a.iexten then
    let d := { d with literal := true }
    some (if a.echo && a.echoctl then (d.putOrSend 94).putOrSend backspace else d)
  else if c = a.reprint && a.echo && a.iexten then some d.showAgain
  else if c = lineFeed then
    some ((if a.echo || a.echonl then d.putOrSend lineFeed else d).finish [c])
  else if c = a.eof then some (d.finish [])
  else if c = a.eol || (c = a.eol2 && a.iexten) then
    some ((d.echoTyped c).finish (if c = 255 && a.parmrk then [c, c] else [c]))
  else none

/-- Takes a character that may have a meaning of its own. -/
def typeSpecial (d : Line) (c : UInt8) : Line :=
  let a := d.attributes
  if a.ixon && (c = a.start || c = a.stop) then d
  else if a.isig && c = a.intr then d.raiseSignal [.int] c
  else if a.isig && c = a.quit then d.raiseSignal [.quit] c
  else if a.isig && c = a.susp then d.raiseSignal [] c
  else if c = carriageReturn && a.igncr then d
  else
    let c := if c = carriageReturn && a.icrnl then lineFeed
      else if c = lineFeed && a.inlcr then carriageReturn
      else c
    match (if a.icanon then d.typeInLine? c else none) with
    | some d => d
    | none =>
      if c = lineFeed && a.echo then (d.putOrSend lineFeed).store c
      else d.typeOrdinary c

/-- Takes a typed character. -/
def typeChar (d : Line) (c : UInt8) : Line :=
  let a := d.attributes
  if a.passesInput then { d with unfinished := c :: d.unfinished }
  else
    let c := if a.istrip then c &&& 127 else c
    if d.literal then { d with literal := false }.typeOrdinary c
    else if c ∈ a.specialChars then d.typeSpecial c
    else d.typeOrdinary c

/-- Takes what is typed. -/
def type (d : Line) (bytes : List UInt8) : Line := bytes.foldl typeChar d

/-! ## Reading -/

/-- What a program reads next, if it need not wait: where lines are made, the next line, which is
empty at the end of the input; else all that was typed. -/
def read? (d : Line) : Option (List UInt8 × Line) :=
  match d.finished with
  | line :: rest => some (line, { d with finished := rest })
  | [] =>
    if d.attributes.icanon || d.unfinished.isEmpty then none
    else some (d.unfinished.reverse, { d with unfinished := [] })

end Line

/-! ## Terminals -/

/-- A terminal with its line discipline. -/
structure Device where
  line : Line
  size : Size
  deriving Inhabited

namespace Device

/-- A pseudo-terminal in which nothing waits. -/
def ofPty (p : Pty) : Device := ⟨{ attributes := p.attributes }, p.size⟩

/-- The geometry and the attributes of a terminal. -/
def pty (d : Device) : Pty := ⟨d.size, d.line.attributes⟩

/-- Gives a terminal new attributes. -/
def setAttributes (d : Device) (a : Attributes) : Device :=
  { d with line := { d.line with attributes := (d.pty.setAttributes a).attributes } }

end Device

end CommandRelay.Terminal
