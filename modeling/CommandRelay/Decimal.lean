/-!
# Decimal numbers too large for a double

Texts spell numbers in decimal; a number that the largest double cannot stand for is refused.
-/

namespace CommandRelay.Decimal

/-- The least number that a double can only show as infinite: half a unit above the largest
finite one. -/
def overflowBound : Nat := Nat.pow 2 1024 - Nat.pow 2 970

/-- Whether `significand * 10 ^ exponent` is too large for a double.  The number of digits decides
all but the closest cases. -/
def overflows (significand : Nat) (exponent : Int) : Bool :=
  let digits : Int := (Nat.toDigits 10 significand).length
  if significand = 0 then false
  else if 310 ≤ digits + exponent then true
  else if digits + exponent ≤ 308 then false
  else if 0 ≤ exponent then overflowBound ≤ significand * Nat.pow 10 exponent.toNat
  else overflowBound * Nat.pow 10 (-exponent).toNat ≤ significand

end CommandRelay.Decimal
