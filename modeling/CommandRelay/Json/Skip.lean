import CommandRelay.Json.Number

/-!
# Passing over a value

A value that nobody wants is only checked to be JSON: at any depth, with numbers of any size and
with surrogate escapes in any order.  It is passed over by a machine that takes one place at a
time and keeps the open brackets in a list, so no depth is too deep for it.

## Main definitions

* `SkipState`, `skipStep` — the machine.
* `skipValue` — passing over one value.
-/

namespace CommandRelay.Json

/-- An open array or object. -/
inductive Bracket where
  | array
  | object
  deriving DecidableEq, Repr

/-- Where the passing over of a value stands. -/
inductive SkipState where
  /-- A value must come. -/
  | value
  /-- An array was just opened: a value or its end. -/
  | firstElement
  /-- An object was just opened: a key or its end. -/
  | firstKey
  /-- A key must come. -/
  | key
  /-- A colon must come. -/
  | colon
  /-- A value has ended. -/
  | after
  /-- In a string; `isKey` tells whether a colon follows it. -/
  | string (isKey : Bool)
  /-- After a backslash in a string. -/
  | escape (isKey : Bool)
  /-- In a numbered escape with `digits` digits still to come. -/
  | unit (isKey : Bool) (digits : Nat)
  /-- In a fixed word of which `left` is still to come. -/
  | word (left : List Char)
  /-- After the minus of a number. -/
  | minus
  /-- After a leading zero. -/
  | zero
  /-- In the whole part of a number. -/
  | whole
  /-- After the point of a number. -/
  | point
  /-- In the fraction of a number. -/
  | fraction
  /-- After the exponent mark. -/
  | mark
  /-- After the sign of the exponent. -/
  | sign
  /-- In the digits of the exponent. -/
  | exponent
  deriving DecidableEq, Repr

/-- What the machine does with one place. -/
inductive SkipMove where
  /-- Takes the place and goes on. -/
  | go (state : SkipState) (brackets : List Bracket)
  /-- The value ended before this place. -/
  | done
  /-- The place cannot stand here. -/
  | stop (fault : Fault)

/-- The character of a place, U+FFFD standing for a byte that belongs to none: it may stand in
a string and nowhere else. -/
def placeChar (p : Option Char) : Char := p.getD '\uFFFD'

/-- The move from the start of a value. -/
def startValue (brackets : List Bracket) (c : Char) : SkipMove :=
  if c = 'n' then .go (.word "ull".toList) brackets
  else if c = 't' then .go (.word "rue".toList) brackets
  else if c = 'f' then .go (.word "alse".toList) brackets
  else if c = '-' then .go .minus brackets
  else if c = '0' then .go .zero brackets
  else if '1' ≤ c ∧ c ≤ '9' then .go .whole brackets
  else if c = '"' then .go (.string false) brackets
  else if c = '[' then .go .firstElement (.array :: brackets)
  else if c = '\x7b' then .go .firstKey (.object :: brackets)
  else .stop .malformed

/-- The move after a value: a comma goes on, the matching bracket closes, and with no bracket open
the whole value has ended. -/
def afterValue (brackets : List Bracket) (c : Char) : SkipMove :=
  match brackets with
  | [] => .done
  | b :: outer =>
    if isSpace c then .go .after (b :: outer)
    else if c = ',' then .go (if b = .array then .value else .key) (b :: outer)
    else if (c = ']' && b = .array) || (c = '\x7d' && b = .object) then .go .after outer
    else .stop .malformed

/-- Whether `c` is a decimal digit. -/
def isDigit (c : Char) : Bool := '0' ≤ c && c ≤ '9'

/-- The move at one place; `rest` is what follows it, which a numbered escape must look at. -/
def skipStep (state : SkipState) (brackets : List Bracket) (c : Char) (rest : Input) : SkipMove :=
  match state with
  | .value => if isSpace c then .go .value brackets else startValue brackets c
  | .firstElement =>
    if isSpace c then .go .firstElement brackets
    else if c = ']' then .go .after (brackets.drop 1)
    else startValue brackets c
  | .firstKey =>
    if isSpace c then .go .firstKey brackets
    else if c = '\x7d' then .go .after (brackets.drop 1)
    else if c = '"' then .go (.string true) brackets
    else .stop .malformed
  | .key =>
    if isSpace c then .go .key brackets
    else if c = '"' then .go (.string true) brackets
    else .stop .malformed
  | .colon =>
    if isSpace c then .go .colon brackets
    else if c = ':' then .go .value brackets
    else .stop .malformed
  | .after => afterValue brackets c
  | .string isKey =>
    if c = '"' then .go (if isKey then .colon else .after) brackets
    else if c = '\\' then .go (.escape isKey) brackets
    else if c.toNat < 0x20 then .stop .malformed
    else .go (.string isKey) brackets
  | .escape isKey =>
    if c = 'u' then
      if hasFourBytes rest then .go (.unit isKey 4) brackets else .stop .truncated
    else if (shortEscape? c).isSome then .go (.string isKey) brackets
    else .stop .malformed
  | .unit isKey digits =>
    if (hexValue? c).isNone then .stop .malformed
    else if 1 < digits then .go (.unit isKey (digits - 1)) brackets
    else .go (.string isKey) brackets
  | .word left =>
    match left with
    | [] => afterValue brackets c
    | w :: left => if c = w then .go (.word left) brackets else .stop .malformed
  | .minus =>
    if c = '0' then .go .zero brackets
    else if isDigit c then .go .whole brackets
    else .stop .malformed
  | .zero =>
    if isDigit c then .stop .malformed
    else if c = '.' then .go .point brackets
    else if c = 'e' || c = 'E' then .go .mark brackets
    else afterValue brackets c
  | .whole =>
    if isDigit c then .go .whole brackets
    else if c = '.' then .go .point brackets
    else if c = 'e' || c = 'E' then .go .mark brackets
    else afterValue brackets c
  | .point => if isDigit c then .go .fraction brackets else .stop .malformed
  | .fraction =>
    if isDigit c then .go .fraction brackets
    else if c = 'e' || c = 'E' then .go .mark brackets
    else afterValue brackets c
  | .mark =>
    if c = '+' || c = '-' then .go .sign brackets
    else if isDigit c then .go .exponent brackets
    else .stop .malformed
  | .sign => if isDigit c then .go .exponent brackets else .stop .malformed
  | .exponent => if isDigit c then .go .exponent brackets else afterValue brackets c

/-- Whether the machine may stop at the end of the text: a value has ended and no bracket is
open. -/
def endsValue (state : SkipState) (brackets : List Bracket) : Except Fault Unit :=
  match state with
  | .minus | .point | .mark | .sign => .error .malformed
  | .after | .word [] | .zero | .whole | .fraction | .exponent =>
    if brackets.isEmpty then .ok () else .error .truncated
  | _ => .error .truncated

/-- Runs the machine until the value has ended. -/
def skipFrom (state : SkipState) (brackets : List Bracket) : Input → Except Fault (Unit × Input)
  | [] => (endsValue state brackets).map fun _ => ((), [])
  | p :: rest =>
    match skipStep state brackets (placeChar p) rest with
    | .go state' brackets' => skipFrom state' brackets' rest
    | .done => .ok ((), p :: rest)
    | .stop e => .error e

/-- Skipping a value leaves no more than there was. -/
theorem skipFrom_length_le {state : SkipState} {brackets : List Bracket} {s rest : Input}
    {u : Unit} (h : skipFrom state brackets s = .ok (u, rest)) : rest.length ≤ s.length := by
  induction s generalizing state brackets with
  | nil =>
    rw [skipFrom] at h
    cases he : endsValue state brackets with
    | error e => rw [he] at h; cases h
    | ok v => rw [he] at h; cases h; exact Nat.le_refl _
  | cons p s ih =>
    rw [skipFrom] at h
    split at h
    · exact Nat.le_succ_of_le (ih h)
    · cases h; exact Nat.le_refl _
    · cases h

/-- Passes over one value. -/
def skipValue : JsonReader Unit where
  run := skipFrom .value []
  length_le h := skipFrom_length_le h

end CommandRelay.Json
