import CommandRelay.Direction
import CommandRelay.Url.Parse

/-!
# Proxies

A proxy on this machine's loopback is reached from the foreign side through a gateway, so the host
in its URL is replaced; coming back, the gateway is replaced by the loopback.  Nothing but the
host changes in the text.

## Main definitions

* `Proxy.replaceHost?` — replacing the host in a text.
* `Proxy.redirect` — the value of a proxy variable on the other side.
-/

namespace CommandRelay.Proxy

/-- Hosts that mean this machine's loopback. -/
def loopbackHosts : List (List Char) := ["localhost", "127.0.0.1", "::1"].map String.toList

/-- The gateway if none is configured. -/
def defaultGateway : String := "host.ferry.internal"

/-- Why a value cannot be redirected. -/
inductive Error where
  /-- The value is no URL. -/
  | invalidUrl (cause : Url.Error)
  /-- The host cannot be found in the text. -/
  | hostNotFound
  deriving DecidableEq, Repr

/-- The wording of an error. -/
def Error.message : Error → String
  | .invalidUrl cause => "invalid proxy url: " ++ cause.message
  | .hostNotFound => "proxy url has no locatable host"

/-! ## Replacing the host in a text -/

/-- The text up to and with the first `://`, and what follows it. -/
def cutSchemeMark? : List Char → Option (List Char × List Char)
  | ':' :: '/' :: '/' :: rest => some ([':', '/', '/'], rest)
  | c :: rest => (cutSchemeMark? rest).map fun p => (c :: p.1, p.2)
  | [] => none

/-- Whether a character ends the authority. -/
def endsAuthority (c : Char) : Bool := c = '/' || c = '?' || c = '#'

/-- The host at the front of a text without user information: brackets and what is between them,
or all before a colon. -/
def hostAtFront? (hostPort : List Char) : Option (List Char) :=
  match hostPort with
  | '[' :: _ => (Text.cutFirst? ']' hostPort).map fun p => p.1 ++ [']']
  | _ =>
    match hostPort.takeWhile (· ≠ ':') with
    | [] => none
    | host => some host

/-- Replaces the host of a text that has `://`, leaving every other character as it is. -/
def replaceHost? (url replacement : List Char) : Option (List Char) := do
  let (scheme, rest) ← cutSchemeMark? url
  let authority := rest.takeWhile fun c => !endsAuthority c
  let tail := rest.dropWhile fun c => !endsAuthority c
  let (user, hostPort) := match Text.cutLast? '@' authority with
    | some (user, hostPort) => (user ++ ['@'], hostPort)
    | none => ([], authority)
  let host ← hostAtFront? hostPort
  some (scheme ++ user ++ replacement ++ hostPort.drop host.length ++ tail)

/-! ## Redirecting -/

/-- The text of a host without brackets. -/
def bareHost (host : Url.Host) : List Char :=
  Text.dropTrailing ']' (Text.dropLeading '[' host.display)

/-- The host that replaces a recognised one. -/
def replacement? (gateway : String) (direction : Direction) (bare : List Char) :
    Option (List Char) :=
  match direction with
  | .toForeign => if loopbackHosts.any (· = bare) then some gateway.toList else none
  | .toLocal =>
    if Text.sameIgnoringAsciiCase (String.ofList bare) gateway then some "localhost".toList
    else none

/-- The value of a proxy variable on the other side; a value whose host is not recognised stays
as it is. -/
def redirectChars (gateway : String) (direction : Direction) (value : List Char) :
    Except Error (List Char) :=
  match Url.parse value with
  | .error cause => .error (.invalidUrl cause)
  | .ok url =>
    match url.host.bind fun host => replacement? gateway direction (bareHost host) with
    | none => .ok value
    | some replacement =>
      match replaceHost? value replacement with
      | some out => .ok out
      | none => .error .hostNotFound

/-- The value of a proxy variable on the other side. -/
def redirect (gateway : String) (direction : Direction) (value : String) : Except Error String :=
  (redirectChars gateway direction value.toList).map String.ofList

end CommandRelay.Proxy
