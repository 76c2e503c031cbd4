import CommandRelay.Text.Split

/-!
# Punycode

Labels beyond ASCII are written with ASCII characters alone: the ASCII characters first, then the
others in increasing order as differences, each a numeral in base 36 whose digits tell by their
size where it ends.

## Main definitions

* `Punycode.encode`, `Punycode.decode?` — writing and reading a label.
-/

namespace CommandRelay.Url.Punycode

/-- The digit of a value below 36. -/
def digit (n : Nat) : Char := if n < 26 then Char.ofNat (97 + n) else Char.ofNat (22 + n)

/-- The value of a digit. -/
def digitValue? (c : Char) : Option Nat :=
  if 'a' ≤ c ∧ c ≤ 'z' then some (c.toNat - 97)
  else if 'A' ≤ c ∧ c ≤ 'Z' then some (c.toNat - 65)
  else if '0' ≤ c ∧ c ≤ '9' then some (c.toNat - 22)
  else none

/-- The least value of a digit, at position `k`, that does not end a numeral. -/
def threshold (bias k : Nat) : Nat := max 1 (min 26 (k - bias))

/-- A threshold is neither 0 nor greater than the number of letters. -/
theorem threshold_bounds (bias k : Nat) : 1 ≤ threshold bias k ∧ threshold bias k ≤ 26 := by
  unfold threshold; omega

/-- Divides by 35 until at most 455 is left, and counts 36 for each time. -/
def scaleDown (delta k : Nat) : Nat × Nat :=
  if 455 < delta then scaleDown (delta / 35) (k + 36) else (delta, k)
termination_by delta
decreasing_by exact Nat.div_lt_self (by omega) (by omega)

/-- The bias after a difference, which is damped the first time. -/
def adapt (delta count : Nat) (first : Bool) : Nat :=
  let delta := if first then delta / 700 else delta / 2
  let (delta, k) := scaleDown (delta + delta / count) 0
  k + 36 * delta / (delta + 38)

/-! ## Writing -/

/-- The numeral of a difference, from position `k` on. -/
def numeral (bias k q : Nat) : List Char :=
  let t := threshold bias k
  if q < t then [digit q]
  else digit (t + (q - t) % (36 - t)) :: numeral bias (k + 36) ((q - t) / (36 - t))
termination_by q
decreasing_by
  have := threshold_bounds bias k
  have := Nat.div_le_self (q - threshold bias k) (36 - threshold bias k)
  omega

/-- Where the writing of differences stands. -/
structure Writing where
  /-- What is written so far, reversed. -/
  out : List Char
  delta : Nat
  bias : Nat
  /-- How many characters are written. -/
  handled : Nat

/-- Passes over one character of the label while `n` is the code point being written. -/
def writeAt (basic n : Nat) (w : Writing) (c : Char) : Writing :=
  if c.toNat < n then { w with delta := w.delta + 1 }
  else if c.toNat = n then
    { out := (numeral w.bias 36 w.delta).reverse ++ w.out
      delta := 0
      bias := adapt w.delta (w.handled + 1) (w.handled == basic)
      handled := w.handled + 1 }
  else w

/-- Writes the code points of `todo`, which increase, `n` being the least one not passed yet. -/
def writeAll (label : List Char) (basic : Nat) : Nat → List Nat → Writing → Writing
  | _, [], w => w
  | n, m :: todo, w =>
    let w := { w with delta := w.delta + (m - n) * (w.handled + 1) }
    let w := label.foldl (writeAt basic m) w
    writeAll label basic (m + 1) todo { w with delta := w.delta + 1 }

/-- Puts a number into an increasing list without doubling it. -/
def insertNumber (n : Nat) : List Nat → List Nat
  | [] => [n]
  | m :: rest => if n < m then n :: m :: rest
    else if n = m then m :: rest else m :: insertNumber n rest

/-- The written form of a label, without the mark that tells it is one. -/
def encode (label : List Char) : List Char :=
  let basic := label.filter fun c => c.toNat < 128
  let others := (label.filter fun c => 128 ≤ c.toNat).map Char.toNat
  let w := writeAll label basic.length 128 (others.foldr insertNumber [])
    ⟨[], 0, 72, basic.length⟩
  basic ++ (if basic.isEmpty then [] else ['-']) ++ w.out.reverse

/-! ## Reading -/

/-- Reads a numeral from position `k` on; `weight` is the weight of its next digit. -/
def readNumeral? (bias : Nat) : Nat → Nat → Nat → List Char → Option (Nat × List Char)
  | _, _, _, [] => none
  | k, weight, i, c :: rest =>
    match digitValue? c with
    | none => none
    | some d =>
      if d < threshold bias k then some (i + d * weight, rest)
      else readNumeral? bias (k + 36) (weight * (36 - threshold bias k)) (i + d * weight) rest

/-- Reading a numeral takes a digit at least. -/
theorem readNumeral?_length {bias k weight i n : Nat} {s rest : List Char}
    (h : readNumeral? bias k weight i s = some (n, rest)) : rest.length < s.length := by
  induction s generalizing k weight i with
  | nil => cases h
  | cons c s ih =>
    rw [readNumeral?] at h
    split at h
    · cases h
    · split at h
      · cases h; exact Nat.lt_succ_self _
      · exact Nat.lt_succ_of_lt (ih h)

/-- Reads differences and puts the characters into the label. -/
def readAll? (bias n i : Nat) (label : List Char) (s : List Char) : Option (List Char) :=
  if s.isEmpty then some label
  else
    match _h : readNumeral? bias 36 1 i s with
    | none => none
    | some (j, rest) =>
      let count := label.length + 1
      let n := n + j / count
      let at_ := j % count
      if n < 0xD800 || (0xDFFF < n && n < 0x110000) then
        readAll? (adapt (j - i) count (i == 0)) n (at_ + 1)
          (label.take at_ ++ Char.ofNat n :: label.drop at_) rest
      else none
termination_by s.length
decreasing_by exact readNumeral?_length _h

/-- The label of a written form, if it is one. -/
def decode? (written : List Char) : Option (List Char) :=
  let (basic, rest) := (Text.cutLast? '-' written).getD ([], written)
  if basic.all fun c => c.toNat < 128 then readAll? 72 128 0 basic rest else none

end CommandRelay.Url.Punycode
