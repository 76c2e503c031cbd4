import CommandRelay.Text.Reader

/-!
# Reading JSON from left to right

JSON is read in one pass, and the first problem decides how the text is at fault.  The input is a
list of places: a character, or nothing where a byte belongs to no character, so that texts and raw
bytes are read by the same rules.

## Main definitions

* `Fault` — what is wrong: cut short, not JSON, or the wrong kind of value.
* `JsonReader` — a step of reading.
* `stringBody` — a string after its opening quote.

-/

namespace CommandRelay.Json

/-- What is wrong with a text that was to be read. -/
inductive Fault where
  /-- The text ends too early. -/
  | truncated
  /-- The text is not JSON at this point. -/
  | malformed
  /-- The text is JSON so far, but the value is not of the wanted kind. -/
  | mismatch
  deriving DecidableEq, Repr, Inhabited

/-- A text to read: characters, and an empty place for each byte that belongs to none. -/
abbrev Input := List (Option Char)

/-- The places of a text. -/
def Input.ofChars (s : List Char) : Input := s.map some

/-- A step of reading JSON. -/
abbrev JsonReader (α : Type) := Reader (Option Char) Fault α

/-! ## Blanks and fixed words -/

/-- JSON's white space: space, tab, line feed and carriage return. -/
def isSpace (c : Char) : Bool := c = ' ' || c = '\t' || c = '\n' || c = '\r'

/-- Whether a place holds white space. -/
def isSpacePlace : Option Char → Bool
  | some c => isSpace c
  | none => false

/-- Passes over white space. -/
def skipSpaces : JsonReader Unit where
  run s := .ok ((), s.dropWhile isSpacePlace)
  length_le h := by
    cases h
    exact (List.dropWhile_sublist _).length_le

/-- Passes over white space and shows what follows, without taking it. -/
def peek : JsonReader (Option (Option Char)) := do
  skipSpaces
  return (← Reader.rest).head?

/-- Takes the given characters one by one, or tells the first difference. -/
def takeWord : List Char → Input → Except Fault (Unit × Input)
  | [], s => .ok ((), s)
  | _ :: _, [] => .error .truncated
  | c :: word, p :: s => if p = some c then takeWord word s else .error .malformed

/-- Reading a word leaves no more than there was. -/
theorem takeWord_length_le {word : List Char} {s rest : Input} {u : Unit}
    (h : takeWord word s = .ok (u, rest)) : rest.length ≤ s.length := by
  induction word generalizing s with
  | nil => cases h; exact Nat.le_refl _
  | cons c word ih =>
    cases s with
    | nil => cases h
    | cons p s =>
      rw [takeWord] at h
      split at h
      · exact Nat.le_succ_of_le (ih h)
      · cases h

/-- Reads exactly the given word. -/
def word (w : String) : JsonReader Unit where
  run := takeWord w.toList
  length_le h := takeWord_length_le h

/-! ## Strings -/

/-- The value of a hexadecimal digit. -/
def hexValue? (c : Char) : Option Nat :=
  if '0' ≤ c ∧ c ≤ '9' then some (c.toNat - 48)
  else if 'a' ≤ c ∧ c ≤ 'f' then some (c.toNat - 87)
  else if 'A' ≤ c ∧ c ≤ 'F' then some (c.toNat - 55)
  else none

/-- How many bytes a place stands for. -/
def placeBytes : Option Char → Nat
  | some c => c.utf8Size
  | none => 1

/-- Whether at least four bytes are left. -/
def hasFourBytes (s : Input) : Bool := 4 ≤ ((s.take 4).map placeBytes).foldl Nat.add 0

/-- Where the reading of a string stands. -/
inductive StringState where
  /-- Between characters. -/
  | plain
  /-- After a backslash. -/
  | escape
  /-- In a numbered escape with `digits` digits still to come and `value` so far; `lead` is the
  high surrogate that it must complete, if any. -/
  | unit (lead : Option Nat) (digits value : Nat)
  /-- After a high surrogate, where a backslash must follow. -/
  | pairBackslash (lead : Nat)
  /-- After a high surrogate and a backslash, where a `u` must follow. -/
  | pairU (lead : Nat)
  deriving DecidableEq, Repr

/-- The character of a short escape. -/
def shortEscape? (c : Char) : Option Char :=
  if c = '"' then some '"'
  else if c = '\\' then some '\\'
  else if c = '/' then some '/'
  else if c = 'b' then some '\x08'
  else if c = 'f' then some '\x0c'
  else if c = 'n' then some '\n'
  else if c = 'r' then some '\r'
  else if c = 't' then some '\t'
  else none

/-- What a finished sixteen-bit unit means: a character, a high surrogate that waits for its other
half, or a surrogate out of place. -/
def finishUnit (lead : Option Nat) (value : Nat) : Except Fault (Char ⊕ Nat) :=
  match lead with
  | some hi =>
    if 0xDC00 ≤ value ∧ value ≤ 0xDFFF then
      .ok (.inl (Char.ofNat (0x10000 + (hi - 0xD800) * 0x400 + (value - 0xDC00))))
    else .error .malformed
  | none =>
    if 0xDC00 ≤ value ∧ value ≤ 0xDFFF then .error .malformed
    else if 0xD800 ≤ value ∧ value ≤ 0xDBFF then .ok (.inr value)
    else .ok (.inl (Char.ofNat value))

/-- Reads a string up to and with its closing quote.  `acc` is what was read, reversed, with empty
places where bytes belong to no character: those make the whole string malformed, but only at the
closing quote. -/
def stringBody : StringState → List (Option Char) → Input → Except Fault (List Char × Input)
  | _, _, [] => .error .truncated
  | .plain, acc, p :: rest =>
    if p = some '"' then
      match acc.reverse.mapM id with
      | some text => .ok (text, rest)
      | none => .error .malformed
    else if p = some '\\' then stringBody .escape acc rest
    else if p.any fun c => c.toNat < 0x20 then .error .malformed
    else stringBody .plain (p :: acc) rest
  | .escape, acc, p :: rest =>
    if p = some 'u' then
      if hasFourBytes rest then stringBody (.unit none 4 0) acc rest else .error .truncated
    else
      match p.bind shortEscape? with
      | some c => stringBody .plain (some c :: acc) rest
      | none => .error .malformed
  | .unit lead digits value, acc, p :: rest =>
    match p.bind hexValue? with
    | none => .error .malformed
    | some d =>
      if 1 < digits then stringBody (.unit lead (digits - 1) (16 * value + d)) acc rest
      else
        match finishUnit lead (16 * value + d) with
        | .ok (.inl c) => stringBody .plain (some c :: acc) rest
        | .ok (.inr hi) => stringBody (.pairBackslash hi) acc rest
        | .error e => .error e
  | .pairBackslash hi, acc, p :: rest =>
    if p = some '\\' then stringBody (.pairU hi) acc rest else .error .malformed
  | .pairU hi, acc, p :: rest =>
    if p = some 'u' then
      if hasFourBytes rest then stringBody (.unit (some hi) 4 0) acc rest else .error .truncated
    else .error .malformed

/-- Reading the rest of a text leaves no more than there was. -/
theorem stringBody_length_le {state : StringState} {acc : List (Option Char)} {s rest : Input}
    {text : List Char} (h : stringBody state acc s = .ok (text, rest)) :
    rest.length ≤ s.length := by
  induction s generalizing state acc with
  | nil => cases state <;> cases h
  | cons p s ih =>
    have step : ∀ {st ac}, stringBody st ac s = .ok (text, rest) → rest.length ≤ (p :: s).length :=
      fun h => Nat.le_succ_of_le (ih h)
    cases state <;> rw [stringBody] at h <;> (repeat' split at h) <;>
      first
        | cases h; done
        | exact step h
        | (cases h; simp)

/-- Reads a string after its opening quote. -/
def stringRest : JsonReader (List Char) where
  run := stringBody .plain []
  length_le h := stringBody_length_le h

end CommandRelay.Json
