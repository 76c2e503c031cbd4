import CommandRelay.CommandLine.Grammar
import CommandRelay.Session.Plan

/-!
# The management command line

What the user can ask of the program when it is started under its own name.

## Main definitions

* `LocalCommand`, `ManagementCommand` — what can be asked for.
* `ManagementCommand.parse` — what an argument list asks for.
* `ManagementCommand.isMeant` — whether an argument list asks for anything of the kind at all.
* `UsageError.text`, `UsageError.exitCode` — how the program answers one that asks for nothing.
-/

namespace CommandRelay

/-- What the program does on this side alone. -/
inductive LocalCommand where
  | link (names : List String)
  | unlink (names : List String)
  /-- List the links, perhaps as JSON. -/
  | links (json : Bool)
  | installDefaults
  /-- Say what paths are called on the other side, or here. -/
  | path (toForeign toLocal : Bool) (machine : Option String) (paths : List String)
  deriving DecidableEq, Repr

/-- What the user asks of the program itself. -/
inductive ManagementCommand where
  /-- Run a command on the other side; an interactive shell if it has no words. -/
  | run (options : RunOptions) (command : List String)
  | onThisSide (command : LocalCommand)
  deriving DecidableEq, Repr

/-- The subcommands. -/
inductive Subcommand where
  | run
  | link
  | unlink
  | links
  | installDefaults
  | path
  deriving DecidableEq, Repr

namespace Subcommand

/-- All subcommands in the order of the help text. -/
def all : List Subcommand := [run, link, unlink, links, installDefaults, path]

/-- The word that selects a subcommand. -/
def name : Subcommand → String
  | run => "run"
  | link => "link"
  | unlink => "unlink"
  | links => "links"
  | installDefaults => "install-defaults"
  | path => "path"

/-- The subcommand of a word. -/
def ofName? (word : String) : Option Subcommand := all.find? fun s => s.name = word

/-- What a subcommand takes. -/
def grammar : Subcommand → Grammar
  | run => ⟨[.shell, .translate, .machine, .user, .workdir, .env, .noEnv, .help], .command⟩
  | link => ⟨[.help], .some "NAME"⟩
  | unlink => ⟨[.help], .some "NAME"⟩
  | links => ⟨[.json, .help], .none⟩
  | installDefaults => ⟨[.help], .none⟩
  | path => ⟨[.toForeign, .toLocal, .machine, .help], .some "PATH"⟩

/-- What the switches and operands of a subcommand ask for. -/
def command (r : Grammar.Reading) : Subcommand → ManagementCommand
  | run => .run {
      workdir := r.value? .workdir
      extraEnv := (r.values .env).filterMap Switch.assignment?
      noInherit := r.has .noEnv
      user := r.value? .user
      container := r.value? .machine
      shell := r.has .shell
      translatePaths := r.has .translate } r.operands
  | link => .onThisSide (.link r.operands)
  | unlink => .onThisSide (.unlink r.operands)
  | links => .onThisSide (.links (r.has .json))
  | installDefaults => .onThisSide .installDefaults
  | path => .onThisSide
      (.path (r.has .toForeign) (r.has .toLocal) (r.value? .machine) r.operands)

end Subcommand

namespace ManagementCommand

/-- The word that asks for help about a subcommand. -/
def helpWord : String := "help"

/-- Whether a word selects a subcommand, help included. -/
def isSubcommandWord (word : String) : Bool :=
  word = helpWord || (Subcommand.ofName? word).isSome

/-- What a question for help leads to: help about everything or about one subcommand. -/
def helpAbout : List String → UsageError
  | [] => .help
  | word :: rest =>
    if !isSubcommandWord word then .unknownCommand word
    else
      match rest with
      | [] => .help
      | deeper :: _ => .unknownCommand deeper

/-- The switches that stand before any subcommand. -/
def outer : Grammar := ⟨[.help, .version], .none⟩

/-- What two hyphens before a subcommand lead to. -/
def afterHyphens : List String → UsageError
  | [] => .missingCommand
  | word :: _ => if isSubcommandWord word then .unknownArgument word else .unknownCommand word

/-- What an argument list asks for. -/
def parse : List String → Except UsageError ManagementCommand
  | [] => .error .missingCommand
  | word :: rest =>
    match Subcommand.ofName? word with
    | some s => do return s.command (← s.grammar.read rest)
    | none =>
      if word = helpWord then .error (helpAbout rest)
      else if word = "--" then .error (afterHyphens rest)
      else
        match outer.switch? {} word with
        | some (.error e) => .error e
        | _ => .error (.unknownCommand word)

/-- First words that ask the program itself for something, apart from the subcommands. -/
def controlWords : List String := ["-h", "--help", "-V", "--version", "help"]

/-- Whether an argument list is meant for the program itself: its first word decides. -/
def isMeant : List String → Bool
  | [] => false
  | word :: _ => controlWords.contains word || (Subcommand.ofName? word).isSome

end ManagementCommand

/-! ## Answers -/

namespace Subcommand

/-- What a subcommand does. -/
def summary : Subcommand → String
  | run => "Run a command remotely (an interactive shell when none is given)"
  | link => "Expose remote commands locally under their own names"
  | unlink => "Remove user-managed command links"
  | links => "List user-managed command links"
  | installDefaults => "Recreate the always-available command links"
  | path => "Translate paths between this machine and the VM"

end Subcommand

namespace UsageError

/-- The name and version of the program. -/
def versionText : String := "ferryctl 0.3.0\n"

/-- The help text. -/
def helpText : String :=
  "Run commands inside the ferry VM and manage command links\n\n" ++
  "Usage: ferryctl <COMMAND>\n\nCommands:\n" ++
  String.join (Subcommand.all.map fun s => s!"  {s.name}\n          {s.summary}\n")

/-- What is wrong, in one line. -/
def complaint : UsageError → String
  | help | version | missingCommand => ""
  | unknownCommand name => s!"unrecognized subcommand '{name}'"
  | unknownArgument arg => s!"unexpected argument '{arg}' found"
  | missingValue s => s!"a value is required for '{s.display}' but none was supplied"
  | invalidValue s value why => s!"invalid value '{value}' for '{s.display}': {why}"
  | unexpectedValue s value =>
    s!"unexpected value '{value}' for '{s.display}' found; no more were expected"
  | repeated s => s!"the argument '{s.display}' cannot be used multiple times"
  | conflict s t => s!"the argument '{s.display}' cannot be used with '{t.display}'"
  | missingOperand name => s!"the following required arguments were not provided:\n  <{name}>..."

/-- Whether the answer is what was asked for. -/
def isAnswer : UsageError → Bool
  | help | version => true
  | _ => false

/-- The whole answer. -/
def text : UsageError → String
  | help | missingCommand => helpText
  | version => versionText
  | e => s!"error: {e.complaint}\n\nFor more information, try '--help'.\n"

/-- The exit code that goes with the answer. -/
def exitCode (e : UsageError) : Nat := if e.isAnswer then 0 else 2

end UsageError

end CommandRelay
