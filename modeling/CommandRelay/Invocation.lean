import CommandRelay.Path.FileName
import CommandRelay.Text.Utf8

/-!
# How the program was started

One program serves every purpose.  What it does is decided by the name it was started under: under
its management name it manages, under its plain name it manages or relays, and under any other name
it stands for the remote command of that name.

## Main definitions

* `Invocation` — the purpose; `Invocation.ofArgv0` — the purpose of a name.
* `ProgramStart` — the purpose with its arguments; `ProgramStart.linkedCommand?`.
-/

namespace CommandRelay

/-- What the program was started for. -/
inductive Invocation where
  /-- Always management. -/
  | control
  /-- Management if the first argument says so, a remote command otherwise. -/
  | controlOrShell
  /-- The remote command of this name. -/
  | stub (name : String)
  deriving DecidableEq, Repr, Inhabited

namespace Invocation

/-- The name under which the program always manages. -/
def controlName : String := "ferryctl"

/-- The plain name of the program. -/
def plainName : String := "ferry"

/-- The purpose of a base name; a login shell's leading dash does not count. -/
def ofBaseName (base : List Char) : Invocation :=
  let name := match base with
    | '-' :: rest => rest
    | _ => base
  if name = controlName.toList then .control
  else if name = plainName.toList ∨ name = [] then .controlOrShell
  else .stub (String.ofList name)

/-- The purpose of the name that the program was started under; only its last segment counts. -/
def ofArgv0 (argv0 : String) : Invocation :=
  ofBaseName ((Path.fileName? argv0.toList).getD argv0.toList)

end Invocation

/-- One start of the program. -/
structure ProgramStart where
  invocation : Invocation
  /-- The name it was started under, as received. -/
  argv0 : String
  /-- The arguments after it. -/
  args : List String
  deriving DecidableEq, Repr, Inhabited

namespace ProgramStart

/-- The context of a name and its arguments. -/
def ofNames (argv0 : String) (args : List String) : ProgramStart :=
  ⟨Invocation.ofArgv0 argv0, argv0, args⟩

/-- The context of texts, the first of them the name. -/
def ofTexts : List String → ProgramStart
  | [] => ofNames "" []
  | argv0 :: args => ofNames argv0 args

/-- An argument that is not text: the message shows what can be shown of it. -/
def notTextMessage (bytes : List UInt8) : String :=
  "argument is not valid UTF-8: " ++ Text.lossy bytes

/-- The texts of byte strings, or the first one that is no text. -/
def decodeArguments : List (List UInt8) → Except String (List String)
  | [] => .ok []
  | bytes :: rest =>
    match Text.ofBytes? bytes with
    | some text => (decodeArguments rest).map (text :: ·)
    | none => .error (notTextMessage bytes)

/-- The context of the arguments of a process. -/
def ofBytes (args : List (List UInt8)) : Except String ProgramStart :=
  (decodeArguments args).map ofTexts

/-- The same start by way of the program that always manages, whatever its name. -/
def managing (c : ProgramStart) : ProgramStart := { c with invocation := .control }

/-- The remote command that a link stands for: its own name, then every argument untouched. -/
def linkedCommand? (c : ProgramStart) : Option (List String) :=
  match c.invocation with
  | .stub name => some (name :: c.args)
  | _ => none

end ProgramStart

end CommandRelay
