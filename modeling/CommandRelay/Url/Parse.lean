import CommandRelay.Url.Address
import CommandRelay.Url.Domain

/-!
# URLs

A URL is taken apart as the URL standard says: blanks and controls at its ends and line breaks
inside do not count, the scheme decides how slashes are read, and the host is brought to one form.
Path, query and fragment are kept as they are written.

## Main definitions

* `Url` — the parts; `Url.parse` — the parts of a text.
* `Url.Host` — a host; `Url.Host.display` — its text.
* `Url.Error` — why a text is no URL.
-/

namespace CommandRelay

/-- The place that a URL points at. -/
inductive Url.Host where
  /-- A domain name in its ASCII form, or a name that the scheme leaves as it is. -/
  | domain (name : List Char)
  | ipv4 (address : Nat)
  | ipv6 (pieces : List Nat)
  deriving DecidableEq, Repr

/-- The parts of a URL. -/
structure Url where
  /-- In lower case. -/
  scheme : List Char
  username : List Char := []
  password : List Char := []
  host : Option Url.Host := none
  /-- None if it is the scheme's own. -/
  port : Option Nat := none
  path : List Char := []
  query : Option (List Char) := none
  fragment : Option (List Char) := none
  deriving DecidableEq, Repr

namespace Url

/-- Why a text is no URL. -/
inductive Error where
  | emptyHost
  | invalidDomain
  | invalidPort
  | invalidIpv4
  | invalidIpv6
  | invalidDomainCharacter
  | relativeWithoutBase
  deriving DecidableEq, Repr

namespace Error

/-- The wording of an error. -/
def message : Error → String
  | emptyHost => "empty host"
  | invalidDomain => "invalid international domain name"
  | invalidPort => "invalid port number"
  | invalidIpv4 => "invalid IPv4 address"
  | invalidIpv6 => "invalid IPv6 address"
  | invalidDomainCharacter => "invalid domain character"
  | relativeWithoutBase => "relative URL without a base"

end Error

/-! ## Hosts -/

namespace Host

/-- The text of a host. -/
def display : Host → List Char
  | domain name => name
  | ipv4 address => Ipv4.display address
  | ipv6 pieces => '[' :: Ipv6.display pieces ++ [']']

/-- The byte that `%` and two hexadecimal digits stand for. -/
def escapedByte? (b : UInt8) (rest : List UInt8) : Option UInt8 :=
  let hex? (x : UInt8) : Option Nat := Text.hexValue? (Char.ofNat x.toNat)
  match rest with
  | h :: l :: _ =>
    if b = 0x25 then do return UInt8.ofNat (16 * (← hex? h) + (← hex? l)) else none
  | _ => none

/-- The bytes of a text in which `%` and two hexadecimal digits stand for a byte. -/
def percentDecode : List UInt8 → List UInt8
  | [] => []
  | b :: rest =>
    match escapedByte? b rest with
    | some byte => byte :: percentDecode (rest.drop 2)
    | none => b :: percentDecode rest
termination_by s => s.length
decreasing_by all_goals (simp only [List.length_cons, List.length_drop]; omega)

/-- The address between brackets. -/
def ofBracketed (text : List Char) : Except Error Host :=
  if text.getLast? != some ']' then .error .invalidIpv6
  else
    match Ipv6.parse? (text.drop 1).dropLast with
    | some pieces => .ok (.ipv6 pieces)
    | none => .error .invalidIpv6

/-- The host of a scheme that knows domain names. -/
def ofSpecial (text : List Char) : Except Error Host :=
  if text.head? = some '[' then ofBracketed text
  else
    match Domain.ofBytes? (percentDecode (Text.toBytes (String.ofList text))) with
    | none => .error .invalidDomain
    | some [] => .error .emptyHost
    | some name =>
      if Ipv4.endsInNumber name then
        match Ipv4.parse? name with
        | some address => .ok (.ipv4 address)
        | none => .error .invalidIpv4
      else .ok (.domain name)

/-- ASCII characters that no host may hold, whatever the scheme. -/
def isForbidden (c : Char) : Bool :=
  c ∈ ['\x00', '\t', '\n', '\r', ' ', '#', '/', ':', '<', '>', '?', '@', '[', '\\', ']', '^', '|']

/-- The upper-case hexadecimal digit of a value below 16. -/
def upperHex (n : Nat) : Char := if n < 10 then Char.ofNat (48 + n) else Char.ofNat (55 + n)

/-- A character of a host that the scheme leaves as it is; controls and characters beyond ASCII
are written by their bytes. -/
def escapeChar (c : Char) : List Char :=
  if c.toNat < 0x20 || 0x7E < c.toNat then
    (Text.toBytes (String.singleton c)).flatMap fun b =>
      ['%', upperHex (b.toNat / 16), upperHex (b.toNat % 16)]
  else [c]

/-- The host of a scheme that knows nothing of domain names. -/
def ofOther (text : List Char) : Except Error Host :=
  if text.head? = some '[' then ofBracketed text
  else if text.any isForbidden then .error .invalidDomainCharacter
  else .ok (.domain (text.flatMap escapeChar))

end Host

/-! ## Parts of the text -/

/-- Whether a character is a control or a space. -/
def isControlOrSpace (c : Char) : Bool := c.toNat ≤ 0x20

/-- Whether a character is left out wherever it stands. -/
def isIgnored (c : Char) : Bool := c = '\t' || c = '\n' || c = '\r'

/-- The text without what does not count. -/
def significant (s : List Char) : List Char :=
  (((s.dropWhile isControlOrSpace).reverse.dropWhile isControlOrSpace).reverse).filter
    fun c => !isIgnored c

/-- A character of a scheme after its first. -/
def isSchemeChar (c : Char) : Bool := c.isAlphanum || c = '+' || c = '-' || c = '.'

/-- The scheme in lower case and what follows its colon. -/
def cutScheme? (s : List Char) : Option (List Char × List Char) :=
  match s with
  | c :: _ =>
    if !c.isAlpha then none
    else
      match s.dropWhile isSchemeChar with
      | ':' :: rest => some ((s.takeWhile isSchemeChar).map Char.toLower, rest)
      | _ => none
  | [] => none

/-- How a scheme reads what follows it. -/
inductive Kind where
  /-- Files of a host. -/
  | file
  /-- Hosts with domain names. -/
  | special
  /-- Anything else. -/
  | other
  deriving DecidableEq, Repr

/-- The schemes of hosts with domain names, and their ports. -/
def specialSchemes : List (String × Nat) :=
  [("http", 80), ("https", 443), ("ws", 80), ("wss", 443), ("ftp", 21)]

/-- The port that a scheme has if none is given. -/
def ownPort? (scheme : List Char) : Option Nat :=
  (specialSchemes.find? fun e => e.1.toList == scheme).map Prod.snd

/-- The kind of a scheme. -/
def kindOf (scheme : List Char) : Kind :=
  if scheme = "file".toList then .file
  else if (ownPort? scheme).isSome then .special
  else .other

/-- Whether a character ends the authority; a backslash is a slash where slashes are known. -/
def endsAuthority (kind : Kind) (c : Char) : Bool :=
  c = '/' || c = '?' || c = '#' || (c = '\\' && kind != .other)

/-- Takes path, query and fragment. -/
def withTail (u : Url) (tail : List Char) : Url :=
  let (body, fragment) := match Text.cutFirst? '#' tail with
    | some (body, fragment) => (body, some fragment)
    | none => (tail, none)
  let (path, query) := match Text.cutFirst? '?' body with
    | some (path, query) => (path, some query)
    | none => (body, none)
  { u with path, query, fragment }

/-- The host text at the front, up to a colon outside brackets. -/
def spanHost (kind : Kind) : Bool → List Char → List Char × List Char
  | _, [] => ([], [])
  | inside, c :: rest =>
    if (c = ':' && !inside) || endsAuthority kind c then ([], c :: rest)
    else
      let inside := if c = '[' then true else if c = ']' then false else inside
      let (host, tail) := spanHost kind inside rest
      (c :: host, tail)

/-- The digits of a port. -/
def isDigit (c : Char) : Bool := '0' ≤ c && c ≤ '9'

/-- Reads a port, none if there are no digits or if it is the scheme's own, and what follows. -/
def readPort (scheme s : List Char) : Except Error (Option Nat × List Char) :=
  let digits := s.takeWhile isDigit
  let rest := s.dropWhile isDigit
  let port := Ipv4.valueIn 10 digits
  let endsWell := match rest with
    | [] => true
    | c :: _ => c = '/' || c = '\\' || c = '?' || c = '#'
  if 65535 < port || !endsWell then .error .invalidPort
  else .ok (if digits = [] || ownPort? scheme = some port then none else some port, rest)

/-- Reads host, port and what follows them. -/
def readHost (kind : Kind) (u : Url) (hasUser : Bool) (s : List Char) : Except Error Url := do
  let (text, rest) := spanHost kind false s
  if kind = .special ∧ text = [] then throw .emptyHost
  let host ← if kind = .other then Host.ofOther text else Host.ofSpecial text
  let host? := if host = .domain [] then none else some host
  if host?.isNone ∧ rest.head? = some ':' then throw .emptyHost
  let (port, tail) ← match rest with
    | ':' :: rest => readPort u.scheme rest
    | _ => pure (none, rest)
  if host?.isNone ∧ hasUser then throw .emptyHost
  return { u with host := host?, port }.withTail tail

/-- Reads what follows the slashes before an authority. -/
def readAuthority (kind : Kind) (scheme s : List Char) : Except Error Url :=
  let u : Url := { scheme }
  let tail := s.dropWhile fun c => !endsAuthority kind c
  match Text.cutLast? '@' (s.takeWhile fun c => !endsAuthority kind c) with
  | none => readHost kind u false s
  | some (user, host) =>
    if user = [] ∧ host = [] ∧ tail ≠ [] then .error .emptyHost
    else
      let (username, password) := (Text.cutFirst? ':' user).getD (user, [])
      readHost kind { u with username, password } (user ≠ [] && user ≠ [':']) (host ++ tail)

/-! ## Files -/

/-- Whether a text is a drive letter with a colon or a bar. -/
def isDriveLetter : List Char → Bool
  | [c, d] => c.isAlpha && (d = ':' || d = '|')
  | _ => false

/-- Whether a segment means the directory itself. -/
def isSingleDot (segment : List Char) : Bool :=
  segment.map Char.toLower ∈ [".".toList, "%2e".toList]

/-- Whether a segment means the parent directory. -/
def isDoubleDot (segment : List Char) : Bool :=
  segment.map Char.toLower ∈ ["..".toList, ".%2e".toList, "%2e.".toList, "%2e%2e".toList]

/-- Whether some segment is a drive letter at the top, `depth` being how many segments are above. -/
def reachesDrive : Nat → List (List Char) → Bool
  | _, [] => false
  | depth, segment :: rest =>
    if isDoubleDot segment then reachesDrive (depth - 1) rest
    else if isSingleDot segment then reachesDrive depth rest
    else if depth = 0 && isDriveLetter segment then true
    else reachesDrive (depth + 1) rest

/-- Whether the path of a file names a drive, which takes the host away. -/
def namesDrive (path : List Char) : Bool :=
  let segments := (path.map fun c => if c = '\\' then '/' else c).splitOn '/'
  reachesDrive 0 (if segments.head? = some [] then segments.drop 1 else segments)

/-- Whether a character is a slash for files. -/
def isSlash (c : Char) : Bool := c = '/' || c = '\\'

/-- Reads what follows `file:`.  The local host is no host, and neither is one before a drive. -/
def readFile (scheme s : List Char) : Except Error Url :=
  let u : Url := { scheme }
  match s with
  | a :: b :: rest =>
    if isSlash a && isSlash b then
      let text := rest.takeWhile fun c => !endsAuthority .file c
      let tail := rest.dropWhile fun c => !endsAuthority .file c
      if isDriveLetter text then .ok (u.withTail rest)
      else if text = [] then .ok (u.withTail tail)
      else
        match Host.ofSpecial text with
        | .error e => .error e
        | .ok host =>
          let parsed := u.withTail tail
          if host = .domain "localhost".toList || namesDrive parsed.path then .ok parsed
          else .ok { parsed with host := some host }
    else .ok (u.withTail s)
  | _ => .ok (u.withTail s)

/-! ## The whole text -/

/-- Reads a text of which everything counts. -/
def parseSignificant (s : List Char) : Except Error Url :=
  match cutScheme? s with
  | none => .error .relativeWithoutBase
  | some (scheme, rest) =>
    match kindOf scheme with
    | .file => readFile scheme rest
    | .special => readAuthority .special scheme (rest.dropWhile isSlash)
    | .other =>
      match Text.after? ['/', '/'] rest with
      | some authority => readAuthority .other scheme authority
      | none => .ok ({ scheme : Url }.withTail rest)

/-- The parts of a URL. -/
def parse (s : List Char) : Except Error Url := parseSignificant (significant s)

end Url

end CommandRelay
