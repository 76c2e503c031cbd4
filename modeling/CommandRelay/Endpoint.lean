import CommandRelay.Text.Blank
import CommandRelay.Text.Quoted
import CommandRelay.Text.Split

/-!
# Endpoints

Where the agent listens: a socket in the file system, or a host and port.

## Main definitions

* `Endpoint` — the place; `Endpoint.parse`, `Endpoint.display`.
* `EndpointError` — why a text is no endpoint.
-/

namespace CommandRelay

/-- Where the agent listens. -/
inductive Endpoint where
  /-- A socket in the file system. -/
  | unix (path : String)
  /-- A host and port, written with a colon between them. -/
  | tcp (address : String)
  deriving DecidableEq, Repr, Inhabited

/-- Why a text is no endpoint. -/
inductive EndpointError where
  | empty
  | unrecognized (text : String)
  | invalidPort (text : String)
  deriving DecidableEq, Repr

namespace EndpointError

/-- The wording of an error. -/
def message : EndpointError → String
  | empty => "endpoint is empty"
  | unrecognized text =>
    "endpoint " ++ Text.quoted text ++ " is neither a socket path nor host:port"
  | invalidPort text => "endpoint " ++ Text.quoted text ++ " has an invalid port"

end EndpointError

namespace Endpoint

/-- The value of a decimal numeral; none for any other text. -/
def decimal? (cs : List Char) : Option Nat :=
  if cs ≠ [] ∧ cs.all Char.isDigit then some (cs.foldl (fun n c => 10 * n + (c.toNat - 48)) 0)
  else none

/-- Whether a text is a port: a decimal number below 65536, a plus sign allowed in front. -/
def isPort (cs : List Char) : Bool :=
  let digits := match cs with
    | '+' :: rest => rest
    | _ => cs
  (decimal? digits).any (· < 65536)

/-- Reads a trimmed text. -/
def parseTrimmed (t : List Char) : Except EndpointError Endpoint :=
  if t = [] then .error .empty
  else
    match Text.after? "unix:".toList t with
    | some path => if path = [] then .error .empty else .ok (.unix (String.ofList path))
    | none =>
      if t.head? = some '/' then .ok (.unix (String.ofList t))
      else
        let address := (Text.after? "tcp:".toList t).getD t
        match Text.cutLast? ':' address with
        | none => .error (.unrecognized (String.ofList t))
        | some (host, port) =>
          if host = [] then .error (.unrecognized (String.ofList t))
          else if isPort port then .ok (.tcp (String.ofList address))
          else .error (.invalidPort (String.ofList t))

/-- Reads an endpoint: `unix:` and a path, an absolute path, or a host and port with or without
`tcp:` in front.  Blanks around it do not count. -/
def parse (text : String) : Except EndpointError Endpoint := parseTrimmed (Text.trim text.toList)

/-- The text of an endpoint. -/
def display : Endpoint → String
  | unix path => "unix:" ++ path
  | tcp address => "tcp:" ++ address

end Endpoint

end CommandRelay
