import CommandRelay.Text.RangeTable
import CommandRelay.Text.Split

/-!
# Numeric hosts

Addresses of both kinds, read from their texts and written in one form each.

## Main definitions

* `Ipv4.endsInNumber`, `Ipv4.parse?`, `Ipv4.display`.
* `Ipv6.parse?`, `Ipv6.display`.
-/

namespace CommandRelay.Url

/-- The decimal digits of a number. -/
def decimalDigits (n : Nat) : List Char := Nat.toDigits 10 n

namespace Ipv4

/-- Whether all characters are digits of the given base, of which letters stand for ten and up. -/
def allDigits (base : Nat) (cs : List Char) : Bool :=
  cs.all fun c => (Text.hexValue? c).any (· < base)

/-- The value of digits in a base. -/
def valueIn (base : Nat) (cs : List Char) : Nat :=
  cs.foldl (fun n c => base * n + (Text.hexValue? c).getD 0) 0

/-- One part of an address: hexadecimal after `0x`, octal after `0`, decimal otherwise; a base
without digits is zero. -/
def number? (part : List Char) : Option Nat :=
  let inBase (base : Nat) (digits : List Char) : Option Nat :=
    if allDigits base digits then some (valueIn base digits) else none
  match part with
  | [] => none
  | '0' :: 'x' :: digits | '0' :: 'X' :: digits => inBase 16 digits
  | '0' :: d :: digits => inBase 8 (d :: digits)
  | digits => inBase 10 digits

/-- The parts of a domain name, without an empty last one. -/
def partsOf (domain : List Char) : List (List Char) :=
  let parts := domain.splitOn '.'
  if parts.getLast? = some [] then parts.dropLast else parts

/-- Whether a domain name ends in a number, so that it must be an address. -/
def endsInNumber (domain : List Char) : Bool :=
  match (partsOf domain).getLast? with
  | none => false
  | some last => (last ≠ [] && last.all fun c => '0' ≤ c && c ≤ '9') || (number? last).isSome

/-- The address of its parts: each but the last is one byte, and the last fills what is left. -/
def ofParts? : List Nat → Option Nat
  | [] => none
  | parts =>
    let bytes := parts.dropLast
    let last := parts.getLastD 0
    if 4 < parts.length || bytes.any (255 < ·) || Nat.pow 256 (4 - bytes.length) ≤ last then none
    else some (bytes.foldl (fun n b => 256 * n + b) 0 * Nat.pow 256 (4 - bytes.length) + last)

/-- The address that a domain name spells. -/
def parse? (domain : List Char) : Option Nat :=
  let parts := partsOf domain
  if 4 < parts.length then none else (parts.mapM number?).bind ofParts?

/-- An address as four decimal numbers. -/
def display (address : Nat) : List Char :=
  ['.'].intercalate ([24, 16, 8, 0].map fun shift => decimalDigits (address >>> shift % 256))

end Ipv4

namespace Ipv6

/-- Up to `room` hexadecimal digits at the front, their value and count, and what follows. -/
def hexPiece : Nat → Nat → Nat → List Char → Nat × Nat × List Char
  | 0, value, count, s => (value, count, s)
  | room + 1, value, count, c :: s =>
    match Text.hexValue? c with
    | some d => hexPiece room (16 * value + d) (count + 1) s
    | none => (value, count, c :: s)
  | _, value, count, [] => (value, count, [])

/-- A decimal byte without leading zeros. -/
def decimalByte? (cs : List Char) : Option Nat :=
  if cs = [] || !Ipv4.allDigits 10 cs then none
  else if cs.head? = some '0' && 1 < cs.length then none
  else
    let n := Ipv4.valueIn 10 cs
    if n ≤ 255 then some n else none

/-- The two pieces of four decimal bytes. -/
def trailingBytes? (s : List Char) : Option (List Nat) :=
  match (s.splitOn '.').mapM decimalByte? with
  | some [a, b, c, d] => some [a * 256 + b, c * 256 + d]
  | _ => none

/-- Pieces read so far, and after how many of them the run of zeros stands. -/
structure Pieces where
  list : List Nat
  gap : Option Nat
  deriving Repr, Inhabited

/-- All eight pieces, the gap filled with zeros; without a gap there must be eight. -/
def Pieces.fill? (p : Pieces) : Option (List Nat) :=
  match p.gap with
  | some g => some (p.list.take g ++ List.replicate (8 - p.list.length) 0 ++ p.list.drop g)
  | none => if p.list.length = 8 then some p.list else none

/-- Reads pieces while there is room for more. -/
def readPieces? : Nat → Pieces → List Char → Option Pieces
  | _, p, [] => some p
  | 0, _, _ :: _ => none
  | room + 1, p, ':' :: s =>
    if p.gap.isSome then none
    else readPieces? room ⟨p.list ++ [0], some (p.list.length + 1)⟩ s
  | room + 1, p, s =>
    match hexPiece 4 0 0 s with
    | (value, count, rest) =>
      match rest with
      | [] => some { p with list := p.list ++ [value] }
      | '.' :: _ =>
        if count = 0 || 6 < p.list.length then none
        else (trailingBytes? s).map fun bytes => { p with list := p.list ++ bytes }
      | ':' :: rest =>
        if count = 0 || rest = [] then none
        else readPieces? room { p with list := p.list ++ [value] } rest
      | _ => none

/-- The eight pieces of an address. -/
def parse? (s : List Char) : Option (List Nat) :=
  match s with
  | ':' :: ':' :: rest => (readPieces? 7 ⟨[0], some 1⟩ rest).bind Pieces.fill?
  | ':' :: _ => none
  | _ => if s.length < 2 then none else (readPieces? 8 ⟨[], none⟩ s).bind Pieces.fill?

/-- The longest run of zeros: where it starts and how long it is, the first of equal ones. -/
def longestZeros (pieces : List Nat) : Nat × Nat :=
  let (_, _, best) := pieces.foldl (fun (i, run, best) piece =>
    if piece = 0 then
      let run := run + 1
      (i + 1, run, if best.2 < run then (i + 1 - run, run) else best)
    else (i + 1, 0, best)) (0, 0, (0, 0))
  best

/-- Pieces with colons between them. -/
def joinPieces (pieces : List Nat) : List Char :=
  [':'].intercalate (pieces.map fun n => Nat.toDigits 16 n)

/-- An address with its longest run of two or more zeros left out. -/
def display (pieces : List Nat) : List Char :=
  let (start, length) := longestZeros pieces
  if length < 2 then joinPieces pieces
  else joinPieces (pieces.take start) ++ [':', ':'] ++ joinPieces (pieces.drop (start + length))

end Ipv6

end CommandRelay.Url
