import CommandRelay.Decimal
import CommandRelay.Json.Reader

/-!
# Numbers where another kind of value is wanted

No value that the relay reads is a number, yet a number in the place of a wanted value is read to
its end before it is refused: it may be cut short, it may be no number, or it may be too large for
a double, and only then is it a value of the wrong kind.
-/

namespace CommandRelay.Json

/-- The value of a decimal digit. -/
def digitValue? (c : Char) : Option Nat :=
  if '0' ≤ c ∧ c ≤ '9' then some (c.toNat - 48) else none

/-- The digits at the front and what follows them. -/
def spanDigits : Input → List Nat × Input
  | [] => ([], [])
  | p :: rest =>
    match p.bind digitValue? with
    | some d => let (ds, s) := spanDigits rest; (d :: ds, s)
    | none => ([], p :: rest)

/-- The largest significand that is kept exactly. -/
def maxSignificand : Nat := 18446744073709551615

/-- Takes digits into a significand while it stays within 64 bits; the digits that no longer fit
are left over. -/
def accumulate (significand : Nat) : List Nat → Nat × List Nat
  | [] => (significand, [])
  | d :: ds =>
    let next := 10 * significand + d
    if next ≤ maxSignificand then accumulate next ds else (significand, d :: ds)

/-- The nearest number with 53 significant bits, a half going to the even one. -/
def roundToDouble (n : Nat) : Nat :=
  let bits := n.log2 + 1
  if bits ≤ 53 then n
  else
    let unit := Nat.pow 2 (bits - 53)
    let q := n / unit
    let r := n % unit
    if 2 * r < unit then q * unit
    else if unit < 2 * r then (q + 1) * unit
    else if q % 2 = 0 then q * unit else (q + 1) * unit

/-- Whether `significand * 10 ^ exponent` is too large for a double, with both factors rounded to
doubles first. -/
def overflows (significand : Nat) (exponent : Int) : Bool :=
  if significand = 0 || exponent < 0 then false
  else if 308 < exponent then true
  else Decimal.overflowBound ≤ roundToDouble significand * roundToDouble (Nat.pow 10 exponent.toNat)

/-- The fault of a complete number where another kind of value is wanted. -/
def completeNumber (significand : Nat) (exponent : Int) : Fault :=
  if overflows significand exponent then .malformed else .mismatch

/-- Takes a sign, if there is one: whether it is a minus, and what follows. -/
def takeSign : Input → Bool × Input
  | some '+' :: s => (false, s)
  | some '-' :: s => (true, s)
  | s => (false, s)

/-- The rest of a number from its exponent mark, if there is one. -/
def afterFraction (significand : Nat) (exponent : Int) : Input → Fault
  | some 'e' :: s | some 'E' :: s =>
    let (negative, s) := takeSign s
    match spanDigits s with
    | ([], []) => .truncated
    | ([], _ :: _) => .malformed
    | (ds, _) =>
      let e : Nat := ds.foldl (fun n d => 10 * n + d) 0
      completeNumber significand (if negative then exponent - e else exponent + e)
  | _ => completeNumber significand exponent

/-- The rest of a number after its whole part. -/
def afterWhole (significand : Nat) (exponent : Int) : Input → Fault
  | some '.' :: s =>
    match spanDigits s with
    | ([], []) => .truncated
    | ([], _ :: _) => .malformed
    | (ds, s) =>
      let (significand', left) := accumulate significand ds
      afterFraction significand' (exponent - (ds.length - left.length : Nat)) s
  | s => afterFraction significand exponent s

/-- The fault of a number, after its minus, where another kind of value is wanted. -/
def unsignedNumber (s : Input) : Fault :=
  match spanDigits s with
  | ([], []) => .truncated
  | ([], _ :: _) => .malformed
  | (0 :: _ :: _, _) => .malformed
  | (ds, rest) =>
    let (significand, left) := accumulate 0 ds
    afterWhole significand left.length rest

/-- The fault of a number where another kind of value is wanted. -/
def numberFault : Input → Fault
  | some '-' :: s => unsignedNumber s
  | s => unsignedNumber s

/-- The fault that a value of another kind is refused with: it is read as far as it must be to see
that it is a value at all. -/
def otherKind : Input → Fault
  | [] => .truncated
  | p :: s =>
    let ofRead {α : Type} : Except Fault α → Fault
      | .ok _ => .mismatch
      | .error e => e
    if p = some 'n' then ofRead (takeWord "ull".toList s)
    else if p = some 't' then ofRead (takeWord "rue".toList s)
    else if p = some 'f' then ofRead (takeWord "alse".toList s)
    else if p = some '"' then ofRead (stringBody .plain [] s)
    else if p = some '[' || p = some '\x7b' then .mismatch
    else if p = some '-' || (p.bind digitValue?).isSome then numberFault (p :: s)
    else .malformed

end CommandRelay.Json
