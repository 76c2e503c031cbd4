import CommandRelay.Text.Quoted
import CommandRelay.Text.Split

/-!
# Command line grammars

A subcommand takes switches, some of which have a value, and operands.  Switches may be written
long or short, short ones in clusters, and values apart or attached.

## Main definitions

* `Switch` — every switch there is.
* `Grammar` — which switches a subcommand takes, and which operands.
* `Grammar.read` — the switches and operands of an argument list.
* `UsageError` — what can be wrong with one.
-/

namespace CommandRelay

/-- The switches of all subcommands. -/
inductive Switch where
  | shell
  | translate
  | machine
  | user
  | workdir
  | env
  | noEnv
  | json
  | toForeign
  | toLocal
  | help
  | version
  deriving DecidableEq, Repr

namespace Switch

/-- The long name, after two hyphens. -/
def long : Switch → String
  | shell => "shell"
  | translate => "path"
  | machine => "machine"
  | user => "user"
  | workdir => "workdir"
  | env => "env"
  | noEnv => "no-env"
  | json => "json"
  | toForeign => "to-foreign"
  | toLocal => "to-local"
  | help => "help"
  | version => "version"

/-- The letter after one hyphen, if there is one. -/
def letter? : Switch → Option Char
  | shell => some 's'
  | translate => some 'p'
  | machine => some 'm'
  | user => some 'u'
  | workdir => some 'w'
  | env => some 'e'
  | help => some 'h'
  | version => some 'V'
  | noEnv | json | toForeign | toLocal => none

/-- What the value of a switch is called, if it has one. -/
def valueName? : Switch → Option String
  | machine => some "NAME"
  | user => some "USER"
  | workdir => some "DIR"
  | env => some "KEY=VALUE"
  | _ => none

/-- Whether a switch has a value. -/
def takesValue (s : Switch) : Bool := s.valueName?.isSome

/-- Whether a switch may come more than once. -/
def isRepeatable (s : Switch) : Bool := s = env

/-- A switch as it is shown to the user. -/
def display (s : Switch) : String :=
  "--" ++ s.long ++ ((s.valueName?.map fun v => s!" <{v}>").getD "")

/-- The name and the value of a variable: the name ends at the first equals sign, and is not
empty. -/
def assignment? (text : String) : Option (String × String) :=
  match Text.cutFirst? '=' text.toList with
  | some (name, value) =>
    if name.isEmpty then none else some (String.ofList name, String.ofList value)
  | none => none

/-- What is wrong with a value of a switch, if anything is. -/
def complaint? (s : Switch) (value : String) : Option String :=
  if s = env ∧ assignment? value = none then
    some ("expected KEY=VALUE, got " ++ Text.quoted value)
  else none

end Switch

/-- What can be wrong with an argument list; to ask for help or for the version is among it. -/
inductive UsageError where
  | help
  | version
  /-- Nothing was asked for. -/
  | missingCommand
  | unknownCommand (name : String)
  | unknownArgument (arg : String)
  /-- A switch without its value. -/
  | missingValue (s : Switch)
  | invalidValue (s : Switch) (value why : String)
  /-- A value for a switch that has none. -/
  | unexpectedValue (s : Switch) (value : String)
  /-- A switch given twice. -/
  | repeated (s : Switch)
  /-- Two switches that exclude each other. -/
  | conflict (s t : Switch)
  | missingOperand (name : String)
  deriving DecidableEq, Repr

/-- Which operands a subcommand takes. -/
inductive Operands where
  | none
  /-- At least one, mixed with the switches. -/
  | some (name : String)
  /-- A command: its first word may look like a switch, if it is none, and all that follows
  belongs to it. -/
  | command
  deriving DecidableEq, Repr

/-- What a subcommand takes. -/
structure Grammar where
  switches : List Switch
  operands : Operands
  deriving Repr

namespace Grammar

/-- What has been read of an argument list. -/
structure Reading where
  /-- The switch read last, if it has a value, with its value as soon as that is read. -/
  pending : Option (Switch × Option String) := none
  /-- The switches that are settled, with their values. -/
  found : List (Switch × String) := []
  operands : List String := []
  deriving DecidableEq, Repr, Inhabited

namespace Reading

/-- Whether a switch is settled. -/
def has (r : Reading) (s : Switch) : Bool := r.found.any fun f => f.1 = s

/-- The value of a settled switch. -/
def value? (r : Reading) (s : Switch) : Option String :=
  (r.found.find? fun f => f.1 = s).map Prod.snd

/-- The values of a settled switch in order. -/
def values (r : Reading) (s : Switch) : List String :=
  (r.found.filter fun f => f.1 = s).map Prod.snd

/-- Adds a switch, which may be given once and must have a proper value. -/
def add (r : Reading) (s : Switch) (value : String) : Except UsageError Reading :=
  if r.has s && !s.isRepeatable then .error (.repeated s)
  else
    match s.complaint? value with
    | some why => .error (.invalidValue s value why)
    | none => .ok { r with found := r.found ++ [(s, value)] }

/-- Settles the switch that waits. -/
def settle (r : Reading) : Except UsageError Reading :=
  match r.pending with
  | none => .ok r
  | some (s, none) => .error (.missingValue s)
  | some (s, some value) => { r with pending := none }.add s value

/-- Takes a switch without a value; some end the reading. -/
def flag (r : Reading) (s : Switch) : Except UsageError Reading := do
  let r ← r.settle
  match s with
  | .help => .error .help
  | .version => .error .version
  | _ => r.add s ""

/-- Takes a switch with its value attached. -/
def attached (r : Reading) (s : Switch) (value : String) : Except UsageError Reading := do
  (← r.settle).add s value

/-- Takes a switch whose value is the next argument. -/
def awaiting (r : Reading) (s : Switch) : Except UsageError Reading := do
  return { ← r.settle with pending := some (s, none) }

/-- Takes an operand. -/
def operand (r : Reading) (arg : String) : Except UsageError Reading := do
  let r ← r.settle
  return { r with operands := r.operands ++ [arg] }

end Reading

/-- The switch of a long name. -/
def ofLong? (g : Grammar) (name : String) : Option Switch := g.switches.find? fun s => s.long = name

/-- The switch of a letter. -/
def ofLetter? (g : Grammar) (c : Char) : Option Switch :=
  g.switches.find? fun s => s.letter? = some c

/-- Takes an argument with two hyphens, unless it may be something else than a switch. -/
def long? (g : Grammar) (r : Reading) (body : List Char) : Option (Except UsageError Reading) :=
  let (name, value) := match Text.cutFirst? '=' body with
    | some (name, value) => (name, some (String.ofList value))
    | none => (body, none)
  match g.ofLong? (String.ofList name) with
  | none =>
    if g.operands = .command then none
    else some (.error (.unknownArgument ("--" ++ String.ofList name)))
  | some s => some <|
    match s.takesValue, value with
    | true, some v => r.attached s v
    | true, none => r.awaiting s
    | false, some v => .error (.unexpectedValue s v)
    | false, none => r.flag s

/-- Takes the letters after one hyphen: what follows the letter of a switch with a value is its
value, with or without an equals sign before it. -/
def letters (g : Grammar) (r : Reading) : List Char → Except UsageError Reading
  | [] => .ok r
  | c :: rest =>
    match g.ofLetter? c with
    | none => .error (.unknownArgument (String.ofList ['-', c]))
    | some s =>
      if s.takesValue then
        match rest with
        | [] => r.awaiting s
        | '=' :: value => r.attached s (String.ofList value)
        | value => r.attached s (String.ofList value)
      else do letters g (← r.flag s) rest

/-- Takes an argument with one hyphen, unless it may be something else than switches. -/
def cluster? (g : Grammar) (r : Reading) (body : List Char) : Option (Except UsageError Reading) :=
  if g.operands = .command ∧ ¬ body.all fun c => (g.ofLetter? c).isSome then none
  else some (g.letters r body)

/-- Takes an argument that is made like a switch, unless it may be something else. -/
def switch? (g : Grammar) (r : Reading) (arg : String) : Option (Except UsageError Reading) :=
  match arg.toList with
  | ['-'] => none
  | '-' :: '-' :: body => g.long? r body
  | '-' :: body => g.cluster? r body
  | _ => none

/-- Reads operands only. -/
def readOperands (g : Grammar) (r : Reading) (args : List String) : Except UsageError Reading :=
  match g.operands, args with
  | .none, arg :: _ => .error (.unknownArgument arg)
  | _, args => args.foldlM Reading.operand r

/-- Reads arguments up to the end. -/
def readFrom (g : Grammar) (r : Reading) : List String → Except UsageError Reading
  | [] => r.settle
  | arg :: rest =>
    if arg = "--" then do (← g.readOperands r rest).settle
    else
      match g.switch? r arg with
      | some step => do readFrom g (← step) rest
      | none =>
        match r.pending, g.operands with
        | some (s, none), _ => readFrom g { r with pending := some (s, some arg) } rest
        | _, .none => .error (.unknownArgument arg)
        | _, .some _ => do readFrom g (← r.operand arg) rest
        | _, .command => g.readOperands r (arg :: rest)

/-- Reads an argument list: the two directions exclude each other, and operands may be missing
only if none are needed. -/
def read (g : Grammar) (args : List String) : Except UsageError Reading := do
  let r ← g.readFrom {} args
  if r.has .toForeign && r.has .toLocal then .error (.conflict .toForeign .toLocal)
  else
    match g.operands with
    | .some name => if r.operands.isEmpty then .error (.missingOperand name) else .ok r
    | _ => .ok r

end Grammar

end CommandRelay
