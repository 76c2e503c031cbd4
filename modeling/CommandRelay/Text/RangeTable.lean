/-!
# Tables of code point ranges

A property of Unicode characters as an ordered list of ranges, with or without a value for each
range.  Tables are written in one compact text: words separated by spaces and line ends, each of
them hexadecimal bounds `lo-hi`, or a single number, and what the table has to say of the range.

## Main definitions

* `RangeMap` — ranges with values; `RangeMap.find?` — the range of a code point.
* `RangeTable` — ranges without values; `RangeTable.contains`.
-/

namespace CommandRelay.Text

/-- The value of a hexadecimal digit. -/
def hexValue? (c : Char) : Option Nat :=
  if '0' ≤ c ∧ c ≤ '9' then some (c.toNat - 48)
  else if 'a' ≤ c ∧ c ≤ 'f' then some (c.toNat - 87)
  else if 'A' ≤ c ∧ c ≤ 'F' then some (c.toNat - 55)
  else none

/-- The number of some hexadecimal digits, anything else passed over. -/
def hexNumber (cs : List Char) : Nat :=
  cs.foldl (fun n c => match hexValue? c with | some d => 16 * n + d | none => n) 0

/-- The words of a text that are separated by spaces and line ends. -/
def wordsOf (text : List Char) : List (List Char) :=
  ((text.map fun c => if c = '\n' then ' ' else c).splitOn ' ').filter fun w => !w.isEmpty

/-- A range of code points, bounds included, and its value. -/
structure CodeRange (α : Type) where
  lo : Nat
  hi : Nat
  value : α
  deriving Repr, Inhabited

/-- Ordered ranges of code points, each with a value. -/
structure RangeMap (α : Type) where
  ranges : Array (CodeRange α)
  deriving Inhabited

namespace RangeMap

variable {α : Type}

/-- Whether a character belongs to the bounds of a range. -/
def isBoundChar (c : Char) : Bool := (hexValue? c).isSome || c == '-'

/-- Reads one range: its bounds, and its value from the characters after them. -/
def rangeOfChars (value : List Char → α) (word : List Char) : CodeRange α :=
  let bounds := word.takeWhile isBoundChar
  let value := value (word.dropWhile isBoundChar)
  match bounds.splitOn '-' with
  | [lo, hi] => ⟨hexNumber lo, hexNumber hi, value⟩
  | _ => ⟨hexNumber bounds, hexNumber bounds, value⟩

/-- Reads a table. -/
def ofText (value : List Char → α) (text : String) : RangeMap α :=
  ⟨((wordsOf text.toList).map (rangeOfChars value)).toArray⟩

/-- Looks for the range of `n` among those from `lo` up to, not including, `hi`, halving them
`steps` times at most. -/
def search (ranges : Array (CodeRange α)) (n : Nat) : Nat → Nat → Nat → Option (CodeRange α)
  | 0, _, _ => none
  | steps + 1, lo, hi =>
    if lo < hi then
      let mid := (lo + hi) / 2
      match ranges[mid]? with
      | some r =>
        if n < r.lo then search ranges n steps lo mid
        else if r.hi < n then search ranges n steps (mid + 1) hi
        else some r
      | none => none
    else none

/-- The range that holds a code point. -/
def find? (m : RangeMap α) (n : Nat) : Option (CodeRange α) :=
  search m.ranges n (m.ranges.size + 1) 0 m.ranges.size

end RangeMap

/-- Ordered ranges of code points. -/
structure RangeTable where
  ranges : RangeMap Unit
  deriving Inhabited

namespace RangeTable

/-- Reads a table. -/
def ofText (text : String) : RangeTable := ⟨.ofText (fun _ => ()) text⟩

/-- Whether a code point lies in one of the ranges. -/
def contains (t : RangeTable) (n : Nat) : Bool := (t.ranges.find? n).isSome

end RangeTable

end CommandRelay.Text
