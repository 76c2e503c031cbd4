import CommandRelay.Decimal
import CommandRelay.Text.Reader
import CommandRelay.Toml.Value

/-!
# Texts, numbers and dates in settings

Reading the values of a settings text that do not hold other values.  Nothing is said about what
is wrong with a text; it is refused.

## Main definitions

* `Toml.readBasic`, `readLiteral` and their forms over several lines — quoted texts.
* `Toml.readNumber` — numbers and dates.
-/

namespace CommandRelay.Toml

open Reader

/-- A step of reading settings. -/
abbrev TomlReader (α : Type) := Reader Char Unit α

/-- Refuses the text. -/
def refuse {α : Type} : TomlReader α := fail ()

/-- A value if there is one. -/
def demand {α : Type} : Option α → TomlReader α
  | some a => pure a
  | none => refuse

/-- The next character, without taking it. -/
def peek : TomlReader (Option Char) := do return (← rest).head?

/-- Takes the given character. -/
def expect (c : Char) : TomlReader Unit := do
  if (← peek) = some c then skipOne else refuse

/-- Whether a character is a space or a tab. -/
def isBlank (c : Char) : Bool := c = ' ' || c = '\t'

/-- How long the line end at the front is, if there is one. -/
def lineEnd? : List Char → Option Nat
  | '\n' :: _ => some 1
  | '\r' :: '\n' :: _ => some 2
  | _ => none

/-- Whether a character may stand in a comment or a quoted text: a tab or no control. -/
def isPlain (c : Char) : Bool := c = '\t' || (0x20 ≤ c.toNat && c.toNat ≠ 0x7F)

/-! ## Quoted texts -/

/-- The value of a hexadecimal digit. -/
def hexValue? (c : Char) : Option Nat :=
  if '0' ≤ c ∧ c ≤ '9' then some (c.toNat - 48)
  else if 'a' ≤ c ∧ c ≤ 'f' then some (c.toNat - 87)
  else if 'A' ≤ c ∧ c ≤ 'F' then some (c.toNat - 55)
  else none

/-- The character that exactly `count` hexadecimal digits at the front stand for. -/
def numbered? (count : Nat) (s : List Char) : Option Char := do
  let digits ← (s.take count).mapM hexValue?
  if digits.length ≠ count then none
  else
    let n := digits.foldl (fun n d => 16 * n + d) 0
    if n < 0xD800 || (0xDFFF < n && n < 0x110000) then some (Char.ofNat n) else none

/-- The character that an escape stands for, and how long the escape is after its backslash. -/
def escape? : List Char → Option (Char × Nat)
  | 'b' :: _ => some ('\x08', 1)
  | 't' :: _ => some ('\t', 1)
  | 'n' :: _ => some ('\n', 1)
  | 'f' :: _ => some ('\x0c', 1)
  | 'r' :: _ => some ('\r', 1)
  | '"' :: _ => some ('"', 1)
  | '\\' :: _ => some ('\\', 1)
  | 'u' :: s => (numbered? 4 s).map fun c => (c, 5)
  | 'U' :: s => (numbered? 8 s).map fun c => (c, 9)
  | _ => none

/-- Reads a text in double quotes after the opening one. -/
def readBasic : TomlReader (List Char) :=
  loop (fun (text : List Char) => do
    match ← rest with
    | '"' :: _ => skipOne; return .inr text.reverse
    | '\\' :: s =>
      let (c, length) ← demand (escape? s)
      skip (length + 1)
      return .inl (c :: text)
    | c :: _ => if isPlain c then skipOne; return .inl (c :: text) else refuse
    | [] => refuse) []

/-- Reads a text in single quotes after the opening one. -/
def readLiteral : TomlReader (List Char) := do
  let text ← takeWhile fun c => isPlain c && c ≠ '\''
  expect '\''
  return text

/-- What a run of quotes at the front means in a text over several lines: how many of them belong
to the text, and how many there are, if they end it. -/
def closing? (quote : Char) (s : List Char) : Option (Nat × Nat) :=
  let run := min 5 (s.takeWhile (· = quote)).length
  if 3 ≤ run then some (run - 3, run) else none

/-- How long the blanks and line ends at the front are. -/
def gapLength : List Char → Nat
  | '\r' :: '\n' :: s => gapLength s + 2
  | c :: s => if isBlank c || c = '\n' then gapLength s + 1 else 0
  | [] => 0

/-- How long the blanks and line ends after a backslash are, if they begin with a line end after
blanks: then all of them are left out. -/
def foldedLines? (s : List Char) : Option Nat :=
  (lineEnd? (s.dropWhile isBlank)).map fun _ => gapLength s

/-- Reads a text in three double quotes after the opening ones and a line end behind them. -/
def readLongBasic : TomlReader (List Char) :=
  loop (fun (text : List Char) => do
    let s ← rest
    match closing? '"' s with
    | some (quotes, run) => skip run; return .inr (text.reverse ++ List.replicate quotes '"')
    | none =>
      match s with
      | '\\' :: s =>
        match foldedLines? s with
        | some length => skip (length + 1); return .inl text
        | none =>
          let (c, length) ← demand (escape? s)
          skip (length + 1)
          return .inl (c :: text)
      | c :: _ =>
        match lineEnd? s with
        | some length => skip length; return .inl ('\n' :: text)
        | none => if isPlain c then skipOne; return .inl (c :: text) else refuse
      | [] => refuse) []

/-- Reads a text in three single quotes after the opening ones and a line end behind them. -/
def readLongLiteral : TomlReader (List Char) :=
  loop (fun (text : List Char) => do
    let s ← rest
    match closing? '\'' s with
    | some (quotes, run) => skip run; return .inr (text.reverse ++ List.replicate quotes '\'')
    | none =>
      match s with
      | c :: _ =>
        match lineEnd? s with
        | some length => skip length; return .inl ('\n' :: text)
        | none => if isPlain c then skipOne; return .inl (c :: text) else refuse
      | [] => refuse) []

/-- Takes a line end, if there is one. -/
def skipLineEnd : TomlReader Unit := do skip ((lineEnd? (← rest)).getD 0)

/-- Reads a quoted text of any form. -/
def readText : TomlReader (List Char) := do
  match ← rest with
  | '"' :: '"' :: '"' :: _ => skip 3; skipLineEnd; readLongBasic
  | '"' :: _ => skipOne; readBasic
  | '\'' :: '\'' :: '\'' :: _ => skip 3; skipLineEnd; readLongLiteral
  | '\'' :: _ => skipOne; readLiteral
  | _ => refuse

/-! ## Numbers -/

/-- Whether a character is a decimal digit. -/
def isDigit (c : Char) : Bool := '0' ≤ c && c ≤ '9'

/-- The digits at the front of which every underscore stands between two digits, and what
follows. -/
def spanDigits (isDigit : Char → Bool) : List Char → List Char × List Char
  | c :: '_' :: d :: s =>
    if isDigit c && isDigit d then
      let (digits, s) := spanDigits isDigit (d :: s)
      (c :: digits, s)
    else if isDigit c then ([c], '_' :: d :: s)
    else ([], c :: '_' :: d :: s)
  | c :: s =>
    if isDigit c then
      let (digits, s) := spanDigits isDigit s
      (c :: digits, s)
    else ([], c :: s)
  | [] => ([], [])

/-- The value of digits in a base. -/
def valueIn (base : Nat) (digits : List Char) : Nat :=
  digits.foldl (fun n c => base * n + (hexValue? c).getD 0) 0

/-- An integer of 64 bits. -/
def integer? (n : Int) : Option Value :=
  if -9223372036854775808 ≤ n ∧ n ≤ 9223372036854775807 then some (.integer n) else none

/-- An integer in another base, after its mark. -/
def inBase? (base : Nat) (s : List Char) : Option (Value × List Char) := do
  let (digits, s) := spanDigits (fun c => (hexValue? c).any (· < base)) s
  if digits.isEmpty then none else return (← integer? (valueIn base digits), s)

/-- The digits of an exponent with its mark, as its value, and what follows. -/
def exponent? : List Char → Option (Int × List Char)
  | mark :: s =>
    if mark ≠ 'e' ∧ mark ≠ 'E' then none
    else
      let (negative, s) := match s with
        | '+' :: s => (false, s)
        | '-' :: s => (true, s)
        | s => (false, s)
      let (digits, s) := spanDigits isDigit s
      let e : Nat := valueIn 10 digits
      if digits.isEmpty then none else some (if negative then -(e : Int) else e, s)
  | [] => none

/-- A float, if it is not too large. -/
def float? (digits : List Char) (exponent : Int) : Option Value :=
  if Decimal.overflows (valueIn 10 digits) exponent then none else some .float

/-- A decimal number after its sign. -/
def decimal? (negative : Bool) (s : List Char) : Option (Value × List Char) :=
  match s with
  | 'i' :: 'n' :: 'f' :: s => some (.float, s)
  | 'n' :: 'a' :: 'n' :: s => some (.float, s)
  | _ =>
    let (whole, s) := spanDigits isDigit s
    if whole.isEmpty || (whole.head? = some '0' && 1 < whole.length) then none
    else
      match s with
      | '.' :: s =>
        let (fraction, s) := spanDigits isDigit s
        if fraction.isEmpty then none
        else
          let (e, s) := (exponent? s).getD (0, s)
          (float? (whole ++ fraction) (e - fraction.length)).map fun v => (v, s)
      | _ =>
        match exponent? s with
        | some (e, s) => (float? whole e).map fun v => (v, s)
        | none =>
          let n : Nat := valueIn 10 whole
          (integer? (if negative then -(n : Int) else n)).map fun v => (v, s)

/-! ## Dates and times -/

/-- A number of exactly `count` digits at the front within bounds, and what follows. -/
def fixed? (count lo hi : Nat) (s : List Char) : Option (Nat × List Char) :=
  let digits := s.take count
  let n := valueIn 10 digits
  if digits.length = count && digits.all isDigit && lo ≤ n && n ≤ hi then some (n, s.drop count)
  else none

/-- The text after a given character. -/
def past? (c : Char) : List Char → Option (List Char)
  | x :: s => if x = c then some s else none
  | [] => none

/-- How many days a month has. -/
def daysIn (year month : Nat) : Nat :=
  if month = 2 then
    if year % 4 = 0 && (year % 100 ≠ 0 || year % 400 = 0) then 29 else 28
  else if month ∈ [4, 6, 9, 11] then 30
  else 31

/-- What follows a date. -/
def pastDate? (s : List Char) : Option (List Char) := do
  let (year, s) ← fixed? 4 0 9999 s
  let (month, s) ← fixed? 2 1 12 (← past? '-' s)
  let (day, s) ← fixed? 2 1 31 (← past? '-' s)
  if daysIn year month < day then none else some s

/-- What follows a time of day. -/
def pastTime? (s : List Char) : Option (List Char) := do
  let (_, s) ← fixed? 2 0 23 s
  let (_, s) ← fixed? 2 0 59 (← past? ':' s)
  let (_, s) ← fixed? 2 0 60 (← past? ':' s)
  match s with
  | '.' :: fraction =>
    if (fraction.head?).any isDigit then some (fraction.dropWhile isDigit) else none
  | _ => some s

/-- What follows a distance from universal time. -/
def pastOffset? (s : List Char) : Option (List Char) :=
  match s with
  | 'Z' :: s | 'z' :: s => some s
  | '+' :: s | '-' :: s => do
    let (_, s) ← fixed? 2 0 23 s
    let (_, s) ← fixed? 2 0 59 (← past? ':' s)
    return s
  | _ => none

/-- What follows a date, a time, or both. -/
def pastMoment? (s : List Char) : Option (List Char) :=
  match pastDate? s with
  | none => pastTime? s
  | some s =>
    match s with
    | c :: time =>
      if c = 'T' || c = 't' || c = ' ' then
        match pastTime? time with
        | some s => some ((pastOffset? s).getD s)
        | none => some (c :: time)
      else some (c :: time)
    | [] => some []

/-- The number or date at the front, and what follows. -/
def number? (s : List Char) : Option (Value × List Char) :=
  match pastMoment? s with
  | some s => some (.date, s)
  | none =>
    match s with
    | '+' :: s => decimal? false s
    | '-' :: s => decimal? true s
    | '0' :: 'x' :: s => inBase? 16 s
    | '0' :: 'o' :: s => inBase? 8 s
    | '0' :: 'b' :: s => inBase? 2 s
    | s => decimal? false s

/-- Reads a number or a date. -/
def readNumber : TomlReader Value := do
  let s ← rest
  let (value, left) ← demand (number? s)
  skip (s.length - left.length)
  return value

end CommandRelay.Toml
