import CommandRelay.Host.Process
import CommandRelay.Text.Reader

/-!
# A small shell

Command texts are run by a shell.  This one knows lists of simple commands, commands in the
background, quoting, parameters, output on the error stream, input from another descriptor, and a
few commands of its own, which is all it takes to see what a program was started with and what is
left of it.

## Main definitions

* `Shell.readScript?` — the commands of a text.
* `Shell.acts` — what a shell does that was started on a command text.
-/

namespace CommandRelay.Shell

open Reader

/-! ## Reading -/

/-- A piece of a word. -/
inductive Piece where
  | text (s : List Char)
  /-- A parameter, quoted or not. -/
  | parameter (quoted : Bool) (name : String)
  deriving Repr

/-- A word is made of pieces. -/
abbrev Word := List Piece

/-- When a command runs, by how the one before it went. -/
inductive Link where
  | always
  | onSuccess
  | onFailure
  deriving DecidableEq, Repr

/-- A simple command. -/
structure Command where
  link : Link := .always
  words : List Word := []
  /-- Its output goes to the error stream. -/
  toError : Bool := false
  /-- Descriptors for its input, with those that they are copies of. -/
  inputs : List (Nat × Nat) := []
  /-- The shell does not wait for it. -/
  inBackground : Bool := false
  deriving Repr

/-- A step of reading a command text. -/
abbrev ShellReader (α : Type) := Reader Char Unit α

/-- Whether a character may stand in the name of a variable. -/
def isNameChar (c : Char) : Bool := c.isAlphanum || c = '_'

/-- Whether a character by itself is the name of a parameter. -/
def isSpecialName (c : Char) : Bool := c.isDigit || c ∈ ['?', '#', '@', '*', '$']

/-- Reads a parameter after its dollar sign, which stands for itself before anything else. -/
def readParameter (quoted : Bool) : ShellReader Piece := do
  match ← rest with
  | '\x7b' :: _ =>
    skipOne
    let name ← takeWhile (· ≠ '\x7d')
    skipOne
    return .parameter quoted (String.ofList name)
  | c :: _ =>
    if isSpecialName c then
      skipOne
      return .parameter quoted (String.ofList [c])
    else if isNameChar c then return .parameter quoted (String.ofList (← takeWhile isNameChar))
    else return .text ['$']
  | [] => return .text ['$']

/-- Reads what follows an opening double quote. -/
def readDouble : ShellReader Word :=
  loop (fun (pieces : Word) => do
    match ← rest with
    | '"' :: _ => skipOne; return .inr (pieces ++ [.text []])
    | '\\' :: c :: _ =>
      skip 2
      return .inl (pieces ++ [.text (if c ∈ ['$', '"', '\\', '\x60'] then [c] else ['\\', c])])
    | '$' :: _ => skipOne; return .inl (pieces ++ [← readParameter true])
    | c :: _ => skipOne; return .inl (pieces ++ [.text [c]])
    | [] => fail ()) []

/-- Whether a character ends a word. -/
def endsWord (c : Char) : Bool := c ∈ [' ', '\t', '\n', ';', '&', '|', '>', '<', '(', ')']

/-- Reads a word. -/
def readWord : ShellReader Word :=
  loop (fun (pieces : Word) => do
    match ← rest with
    | '\'' :: _ =>
      skipOne
      let s ← takeWhile (· ≠ '\'')
      if (← rest).isEmpty then fail ()
      skipOne
      return .inl (pieces ++ [.text s])
    | '"' :: _ => skipOne; return .inl (pieces ++ (← readDouble))
    | '\\' :: c :: _ => skip 2; return .inl (pieces ++ [.text [c]])
    | '$' :: _ => skipOne; return .inl (pieces ++ [← readParameter false])
    | c :: _ =>
      if endsWord c then return .inr pieces
      else skipOne; return .inl (pieces ++ [.text [c]])
    | [] => return .inr pieces) []

/-- Reads the number of a descriptor. -/
def readDescriptor : ShellReader Nat := do
  match (String.ofList (← takeWhile Char.isDigit)).toNat? with
  | some n => return n
  | none => fail ()

/-- Reads the commands of a text. -/
def readCommands : ShellReader (List Command) :=
  loop (fun ((done, current) : List Command × Command) => do
    let next (link : Link) := (if current.words.isEmpty then done else done ++ [current],
      ({ link } : Command))
    match ← rest with
    | [] => return .inr (next .always).1
    | ' ' :: _ | '\t' :: _ => skipOne; return .inl (done, current)
    | ';' :: _ | '\n' :: _ => skipOne; return .inl (next .always)
    | '&' :: '&' :: _ => skip 2; return .inl (next .onSuccess)
    | '|' :: '|' :: _ => skip 2; return .inl (next .onFailure)
    | '1' :: '>' :: '&' :: '2' :: _ => skip 4; return .inl (done, { current with toError := true })
    | '>' :: '&' :: '2' :: _ => skip 3; return .inl (done, { current with toError := true })
    | '&' :: _ =>
      if current.words.isEmpty || current.link ≠ .always then fail ()
      skipOne
      return .inl (done ++ [{ current with inBackground := true }], {})
    | '<' :: '&' :: _ =>
      skip 2
      return .inl (done, { current with inputs := current.inputs ++ [(0, ← readDescriptor)] })
    | c :: after =>
      if c.isDigit && ['<', '&'].isPrefixOf after then
        skip 3
        return .inl (done,
          { current with inputs := current.inputs ++ [(c.toNat - '0'.toNat, ← readDescriptor)] })
      else if endsWord c then fail ()
      else return .inl (done, { current with words := current.words ++ [← readWord] })) ([], {})

/-- The commands of a text, if it has no others than simple ones. -/
def readScript? (text : String) : Option (List Command) :=
  match readCommands.run text.toList with
  | .ok (commands, _) => some commands
  | .error _ => none

/-! ## Running -/

/-- What a shell knows while it runs. -/
structure State where
  /-- The name that the shell goes by, and its arguments. -/
  arguments : List String
  env : List (String × String)
  streams : Streams
  /-- How the last command went. -/
  status : Nat := 0
  /-- The descriptors that the input of the shell can be read from. -/
  inputs : List Nat := [0]
  /-- What is done in the background. -/
  behind : List Act := []

/-- The number that a shell gives for its own process. -/
def State.ownNumber : Nat := 4242

/-- The value of a parameter. -/
def State.parameter (s : State) (name : String) : String :=
  match name.toNat? with
  | some n => (s.arguments[n]?).getD ""
  | none =>
    match name with
    | "?" => toString s.status
    | "#" => toString (s.arguments.length - 1)
    | "$" => toString State.ownNumber
    | "@" | "*" => " ".intercalate (s.arguments.drop 1)
    | _ => ((s.env.find? fun v => v.1 = name).map Prod.snd).getD ""

/-- Adds text to the last field. -/
def addText (fields : List (List Char)) (s : List Char) : List (List Char) :=
  match fields.getLast? with
  | some last => fields.dropLast ++ [last ++ s]
  | none => [s]

/-- The fields that a word expands to: a parameter without quotes may give several or none. -/
def fields (s : State) (w : Word) : List String :=
  (w.foldl (fun fields piece =>
    match piece with
    | .text t => addText fields t
    | .parameter true name => addText fields (s.parameter name).toList
    | .parameter false name =>
      match ((s.parameter name).toList.splitOn ' ').filter (· ≠ []) with
      | [] => fields
      | first :: more => addText fields first ++ more) []).map String.ofList

/-- How a command ends: the shell goes on, or it ends. -/
inductive Outcome where
  | goOn (status : Nat)
  | stop (status : Nat)

/-- The number that a text says, modulo 256. -/
def statusOf (text : String) : Nat := (text.toNat?.getD 2) % 256

/-- Whether a test holds. -/
def holds (s : State) : List String → Bool
  | ["-n", a] => !a.isEmpty
  | ["-z", a] => a.isEmpty
  | ["-t", "0"] => s.streams.stdin
  | ["-t", "1"] => s.streams.stdout
  | ["-t", "2"] => s.streams.stderr
  | [a, "=", b] => a = b
  | [a, "!=", b] => a ≠ b
  | [a] => !a.isEmpty
  | _ => false

/-- The signal of a name or a number. -/
def signalOf? (text : String) : Option Signal :=
  (Signal.ofName? text).or (text.toNat?.bind fun n => Signal.ofNumber? n)

/-- A text with its escapes for line ends, tabs and backslashes resolved. -/
def unescape : List Char → List Char
  | '\\' :: c :: rest =>
    match c with
    | 'n' => '\n' :: unescape rest
    | 't' => '\t' :: unescape rest
    | 'r' => '\r' :: unescape rest
    | '\\' => '\\' :: unescape rest
    | _ => '\\' :: c :: unescape rest
  | '%' :: '%' :: rest => '%' :: unescape rest
  | c :: rest => c :: unescape rest
  | [] => []

/-- The descriptors that the input of the shell can be read from after some were made copies of
others, or one that is not open. -/
def copyDescriptors (opened : List Nat) : List (Nat × Nat) → Except Nat (List Nat)
  | [] => .ok opened
  | (copy, original) :: more =>
    if original ∈ opened then copyDescriptors (copy :: opened) more else .error original

/-- What a command does that may have the shell's input. -/
def command (s : State) (toError hasInput : Bool) : List String → List Act × Outcome
  | [] => ([], .goOn 0)
  | "echo" :: "-n" :: args => ([.write toError (Text.toBytes (" ".intercalate args))], .goOn 0)
  | "echo" :: args => ([.write toError (Text.toBytes (" ".intercalate args ++ "\n"))], .goOn 0)
  | "pwd" :: _ => ([.write toError (Text.toBytes (s.parameter "PWD" ++ "\n"))], .goOn 0)
  | ["cat"] => (if hasInput then [.copyInput] else [], .goOn 0)
  | ["exec"] => ([], .goOn 0)
  | "true" :: _ | ":" :: _ => ([], .goOn 0)
  | "false" :: _ => ([], .goOn 1)
  | ["exit"] => ([], .stop s.status)
  | "exit" :: status :: _ => ([], .stop (statusOf status))
  | ["kill", name, _] =>
    match signalOf? (String.ofList (name.toList.drop 1)) with
    | some signal => ([.raise signal], .goOn 0)
    | none => ([], .goOn 1)
  | ["printf", text] => ([.write toError (Text.toBytes (String.ofList (unescape text.toList)))],
    .goOn 0)
  | "test" :: args => ([], .goOn (if holds s args then 0 else 1))
  | "[" :: args => ([], .goOn (if holds s args.dropLast then 0 else 1))
  | name :: _ =>
    let self := s.parameter "0"
    ([.write true (Text.toBytes s!"{self}: 1: {name}: not found\n")], .goOn 127)

/-- The word for redirections of the shell itself. -/
def execWord : String := "exec"

/-- What a command does, and what the shell knows afterwards.  A command in the background has none
of the shell's input but what it is given, and the shell does not wait for what it does. -/
def runOne (s : State) (c : Command) : State × List Act × Outcome :=
  let words := c.words.flatMap (fields s)
  let opened := if c.inBackground then s.inputs.filter (· ≠ 0) else s.inputs
  let (after, acts, outcome) := match copyDescriptors opened c.inputs with
    | .ok inputs =>
      (if words = [execWord] then { s with inputs } else s,
        command s c.toError (inputs.contains 0) words)
    | .error n =>
      let self := s.parameter "0"
      (s, [.write true (Text.toBytes s!"{self}: 1: {n}: Bad file descriptor\n")],
        if words = [execWord] then .stop 2 else .goOn 2)
  if c.inBackground then ({ s with behind := s.behind ++ acts }, [], .goOn 0)
  else (after, acts, outcome)

/-- The end of the shell.  What is done in the background takes until then at least. -/
def State.finish (s : State) (status : Nat) : List Act :=
  if s.behind.isEmpty then [.exit status] else .leave status :: s.behind

/-- What commands do, one after another, up to the end of the shell. -/
def runAll (s : State) : List Command → List Act
  | [] => s.finish s.status
  | c :: commands =>
    let skipped := match c.link with
      | .always => false
      | .onSuccess => s.status ≠ 0
      | .onFailure => s.status = 0
    if skipped then runAll s commands
    else
      let (s, acts, outcome) := runOne s c
      match outcome with
      | .goOn status => acts ++ runAll { s with status } commands
      | .stop status => acts ++ s.finish status

/-- What a shell does that was started on a command text; one that was started on none waits. -/
def acts (spec : Launch) : List Act :=
  match spec.args with
  | "-c" :: text :: arguments =>
    let arguments := if arguments.isEmpty then [spec.argv0] else arguments
    match readScript? text with
    | some commands => runAll { arguments, env := spec.env, streams := spec.streams } commands
    | none => [.exit 2]
  | _ => [.copyInput, .exit 0]

end CommandRelay.Shell
