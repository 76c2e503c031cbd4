import CommandRelay.Json.Printer
import CommandRelay.Json.Wanted
import CommandRelay.Text.ShellWords
import CommandRelay.Text.Utf8

/-!
# The payload of a start request

A command travels as bytes: an argument list as a JSON array of texts, or one command text for the
login shell.

## Main definitions

* `Payload.ofArguments`, `Payload.arguments` — an argument list and its reading.
* `Payload.commandText` — a command text.
-/

namespace CommandRelay.Payload

/-- Why a payload is no argument list or no command text. -/
inductive Error where
  | malformed (fault : Json.Fault)
  | empty
  | notText
  deriving DecidableEq, Repr

namespace Error

/-- The wording of an error; what is wrong with JSON is worded by the reader of JSON. -/
def message : Error → String
  | malformed _ => "command payload is not a JSON string array: "
  | empty => "command payload is an empty argument list"
  | notText => "command payload is not valid UTF-8"

end Error

/-- The places of a payload: of its text if it is one, else of its bytes one by one. -/
def places (payload : List UInt8) : Json.Input :=
  match Text.ofBytes? payload with
  | some text => Json.Input.ofChars text.toList
  | none => Text.symbols payload

/-- An argument list as a payload. -/
def ofArguments (argv : List String) : String := Json.printStrings argv

/-- The argument list of a payload, which holds at least the program. -/
def arguments (payload : List UInt8) : Except Error (String × List String) :=
  match Json.readAll Json.readTexts (places payload) with
  | .error fault => .error (.malformed fault)
  | .ok [] => .error .empty
  | .ok (program :: args) => .ok (String.ofList program, args.map String.ofList)

/-- The command text of a payload. -/
def commandText (payload : List UInt8) : Except Error String :=
  match Text.ofBytes? payload with
  | some text => .ok text
  | none => .error .notText

end CommandRelay.Payload
