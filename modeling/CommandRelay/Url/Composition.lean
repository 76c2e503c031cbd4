import CommandRelay.Url.CompositionTable

/-!
# Canonical composition

Texts that differ only in how composite characters are spelled get one spelling: every composite
is taken apart, marks are put in the order of their classes, and what can be composed is composed.

## Main definitions

* `decompose`, `reorder`, `compose` — the three steps.
* `composed` — the composed spelling (Unicode's form C).
-/

namespace CommandRelay.Url

open Text

/-- The canonical combining class of a code point. -/
def combiningClass (n : Nat) : Nat :=
  match combiningClasses.find? n with
  | some r => r.value
  | none => 0

/-! ## Hangul syllables -/

/-- The first composed syllable of Hangul. -/
def hangulBase : Nat := 0xAC00

/-- The first leading consonant of Hangul. -/
def hangulLead : Nat := 0x1100

/-- The first vowel of Hangul. -/
def hangulVowel : Nat := 0x1161

/-- The place before the first trailing consonant of Hangul. -/
def hangulTail : Nat := 0x11A7

/-- The letters of a Hangul syllable. -/
def hangulLetters? (n : Nat) : Option (List Nat) :=
  if hangulBase ≤ n ∧ n < hangulBase + 11172 then
    let i := n - hangulBase
    let letters := [hangulLead + i / 588, hangulVowel + i % 588 / 28]
    some (if i % 28 = 0 then letters else letters ++ [hangulTail + i % 28])
  else none

/-- The syllable of a lead and a vowel, or of such a syllable and a tail. -/
def hangulSyllable? (a b : Nat) : Option Nat :=
  if hangulLead ≤ a ∧ a < hangulLead + 19 ∧ hangulVowel ≤ b ∧ b < hangulVowel + 21 then
    some (hangulBase + ((a - hangulLead) * 21 + (b - hangulVowel)) * 28)
  else if hangulBase ≤ a ∧ a < hangulBase + 11172 ∧ (a - hangulBase) % 28 = 0 ∧
      hangulTail < b ∧ b < hangulTail + 28 then
    some (a + (b - hangulTail))
  else none

/-! ## The three steps -/

/-- A composite taken apart, at most `depth` times. -/
def decomposeOne : Nat → Nat → List Nat
  | 0, n => [n]
  | depth + 1, n =>
    match hangulLetters? n with
    | some letters => letters
    | none =>
      match composites.find? fun c => c.whole == n with
      | some c => decomposeOne depth c.base ++ decomposeOne depth c.mark
      | none => [n]

/-- All composites taken apart; three levels are enough for every composite. -/
def decompose (s : List Nat) : List Nat := s.flatMap (decomposeOne 4)

/-- Puts a code point behind others, which are given in reverse, before the marks of higher
class. -/
def placeMark (n cls : Nat) : List Nat → List Nat
  | [] => [n]
  | m :: rest => if cls < combiningClass m then m :: placeMark n cls rest else n :: m :: rest

/-- Marks in the order of their classes, marks of one class in the order given. -/
def reorder (s : List Nat) : List Nat :=
  (s.foldl (fun acc n =>
    let cls := combiningClass n
    if cls = 0 then n :: acc else placeMark n cls acc) []).reverse

/-- The code point that stands for a base and a mark. -/
def composePair? (a b : Nat) : Option Nat :=
  (hangulSyllable? a b).or
    ((composites.find? fun c => c.base == a && c.mark == b).map Composite.whole)

/-- Composes from left to right.  `starter` is the last base, `marks` what follows it and was not
taken into it, reversed; a mark can be taken in unless one of its own class or a higher one stands
between. -/
def composeFrom (starter : Option Nat) (marks : List Nat) : List Nat → List Nat
  | [] => starter.toList ++ marks.reverse
  | n :: rest =>
    let cls := combiningClass n
    let blocked := match marks with
      | [] => false
      | m :: _ => cls ≤ combiningClass m
    let taken := match starter with
      | some a => if blocked then none else composePair? a n
      | none => none
    match taken with
    | some whole => composeFrom (some whole) marks rest
    | none =>
      if cls = 0 then starter.toList ++ marks.reverse ++ composeFrom (some n) [] rest
      else composeFrom starter (n :: marks) rest

/-- The composed spelling of a text. -/
def composed (s : List Char) : List Char :=
  (composeFrom none [] (reorder (decompose (s.map Char.toNat)))).map Char.ofNat

end CommandRelay.Url
