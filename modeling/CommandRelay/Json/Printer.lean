/-!
# JSON texts

Texts and lists of texts written as compact JSON.  Quote and backslash are escaped, five controls
have short escapes, the other characters below U+0020 are written by number, and everything else
stands for itself.
-/

namespace CommandRelay.Json

/-- A hexadecimal digit in lower case. -/
def hexDigit (n : Nat) : Char := if n < 10 then Char.ofNat (48 + n) else Char.ofNat (87 + n)

/-- How one character is written in a JSON string. -/
def escapeChar (c : Char) : List Char :=
  if c = '"' then ['\\', '"']
  else if c = '\\' then ['\\', '\\']
  else if c = '\x08' then ['\\', 'b']
  else if c = '\x0c' then ['\\', 'f']
  else if c = '\n' then ['\\', 'n']
  else if c = '\r' then ['\\', 'r']
  else if c = '\t' then ['\\', 't']
  else if c.toNat < 0x20 then
    ['\\', 'u', '0', '0', hexDigit (c.toNat / 16), hexDigit (c.toNat % 16)]
  else [c]

/-- A JSON string with its quotes. -/
def printChars (s : List Char) : List Char := '"' :: s.flatMap escapeChar ++ ['"']

/-- `true` or `false`. -/
def printBool (b : Bool) : List Char := (if b then "true" else "false").toList

/-- A JSON array of strings. -/
def printList (ss : List (List Char)) : List Char :=
  '[' :: [','].intercalate (ss.map printChars) ++ [']']

/-- A list of texts as a JSON array. -/
def printStrings (ss : List String) : String :=
  String.ofList (printList (ss.map String.toList))

end CommandRelay.Json
