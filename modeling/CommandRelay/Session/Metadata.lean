import CommandRelay.Json.Printer
import CommandRelay.Json.Wanted
import CommandRelay.Session.Streams

/-!
# Session metadata

The transport has no slot for the working directory, for a structured argument list or for
choosing the terminal stream by stream, so one JSON text carries them in an environment variable
ahead of the start request.

## Main definitions

* `Metadata` — the record; `Metadata.encode`, `Metadata.decode` — its text.
* `Metadata.carrierName` — the variable that carries it.
-/

namespace CommandRelay

/-- How the payload of a start request is to be understood. -/
inductive LaunchMode where
  /-- The payload is a JSON array: the argument list. -/
  | rawArgv
  /-- The payload is one command text for the login shell. -/
  | shell
  deriving DecidableEq, Repr, Inhabited

namespace LaunchMode

/-- The name of a mode in the metadata text. -/
def name : LaunchMode → String
  | rawArgv => "raw_argv"
  | shell => "shell"

/-- The mode of a name. -/
def ofName? (s : List Char) : Option LaunchMode :=
  if s = rawArgv.name.toList then some rawArgv
  else if s = shell.name.toList then some shell
  else none

end LaunchMode

/-- What the client tells about a session ahead of starting it. -/
structure Metadata where
  /-- Working directory, already in the remote namespace; empty for none. -/
  pwd : String := ""
  /-- How to understand the payload. -/
  mode : LaunchMode := .shell
  /-- The name to start the program under, if it is not its own. -/
  argv0 : Option String := none
  /-- The streams that belong on the terminal. -/
  terminals : Streams := {}
  /-- Ask the remote side for a simpler way of running if it needs one. -/
  fallback : Bool := false
  deriving DecidableEq, Repr, Inhabited

namespace Metadata

/-- The environment variable that carries the text. -/
def carrierName : String := "__FERRY_META"

/-- Whether any stream belongs on a terminal. -/
def wantsTerminal (m : Metadata) : Bool := m.terminals.any

/-- Puts every stream on the terminal. -/
def withAllTerminals (m : Metadata) : Metadata := { m with terminals := .all }

/-! ## Fields -/

/-- The members of the JSON object. -/
inductive Field where
  | pwd
  | mode
  | argv0
  | ptyStdin
  | ptyStdout
  | ptyStderr
  | fallback
  deriving DecidableEq, Repr

namespace Field

/-- All fields in the order of writing. -/
def all : List Field := [pwd, mode, argv0, ptyStdin, ptyStdout, ptyStderr, fallback]

/-- The key of a field. -/
def name : Field → String
  | pwd => "pwd"
  | mode => "mode"
  | argv0 => "argv0"
  | ptyStdin => "pty_stdin"
  | ptyStdout => "pty_stdout"
  | ptyStderr => "pty_stderr"
  | fallback => "fallback"

/-- The field of a key. -/
def ofName? (s : List Char) : Option Field := all.find? fun f => f.name.toList = s

end Field

/-! ## Writing -/

/-- One member of the object. -/
def printMember (f : Field) (value : List Char) : List Char :=
  Json.printChars f.name.toList ++ ':' :: value

/-- The members in order; the argument name only if there is one. -/
def members (m : Metadata) : List (List Char) :=
  [printMember .pwd (Json.printChars m.pwd.toList),
    printMember .mode (Json.printChars m.mode.name.toList)] ++
  (m.argv0.map fun a => printMember .argv0 (Json.printChars a.toList)).toList ++
  [printMember .ptyStdin (Json.printBool m.terminals.stdin),
    printMember .ptyStdout (Json.printBool m.terminals.stdout),
    printMember .ptyStderr (Json.printBool m.terminals.stderr),
    printMember .fallback (Json.printBool m.fallback)]

/-- The text as characters. -/
def encodeChars (m : Metadata) : List Char :=
  '\x7b' :: [','].intercalate m.members ++ ['\x7d']

/-- The text that carries the record. -/
def encode (m : Metadata) : String := String.ofList m.encodeChars

/-! ## Reading -/

open Json Reader

/-- Reads the value of a field into the record. -/
def readField (m : Metadata) : Field → JsonReader Metadata
  | .pwd => do return { m with pwd := String.ofList (← readText) }
  | .mode => do return { m with mode := ← readName LaunchMode.ofName? }
  | .argv0 => do return { m with argv0 := (← readOptionalText).map String.ofList }
  | .ptyStdin => do return { m with terminals.stdin := ← readFlag }
  | .ptyStdout => do return { m with terminals.stdout := ← readFlag }
  | .ptyStderr => do return { m with terminals.stderr := ← readFlag }
  | .fallback => do return { m with fallback := ← readFlag }

/-- How far an object has been read. -/
structure Progress where
  /-- No member was read yet. -/
  first : Bool := true
  /-- The fields read so far. -/
  seen : List Field := []
  /-- The record so far. -/
  record : Metadata := {}

/-- Reads one member of an object: a known one goes into the record and may come once, an unknown
one is passed over. -/
def readMember (p : Progress) : JsonReader (Progress ⊕ Metadata) := do
  match ← nextKey p.first with
  | none => return .inr p.record
  | some key =>
    match Field.ofName? key with
    | none =>
      readColon
      skipValue
      return .inl { p with first := false }
    | some f =>
      if f ∈ p.seen then fail .mismatch
      else
        readColon
        return .inl { first := false, seen := f :: p.seen, record := ← readField p.record f }

/-- Reads the elements of an array as the fields in order; those that are missing keep their
defaults. -/
def readElements (first : Bool) (m : Metadata) : List Field → JsonReader Metadata
  | [] => return m
  | f :: fs => do
    if ← nextElement first then readElements false (← readField m f) fs else return m

/-- A record, as an object or as an array of its fields in order. -/
def reader : JsonReader Metadata := do
  match ← peek with
  | some (some '\x7b') => skipOne; loop readMember {}
  | some (some '[') =>
    skipOne
    let m ← readElements true {} Field.all
    endArray
    return m
  | _ => failBy otherKind

/-- The record of a text.  The empty text means that no metadata was sent, and gives the defaults
of an interactive shell. -/
def decode (raw : String) : Except Fault Metadata :=
  if raw.isEmpty then .ok {} else readAll reader (Input.ofChars raw.toList)

end Metadata

end CommandRelay
