import CommandRelay.Json.Skip

/-!
# Reading wanted values

Readers for the kinds of value that the relay's texts hold: flags, texts, optional texts, one of a
few names, arrays and objects.  A value of another kind is refused as `otherKind` says.

## Main definitions

* `readFlag`, `readText`, `readOptionalText`, `readName` — single values.
* `nextElement`, `nextKey` — walking through an array or an object.
* `nextText`, `readTexts` — an array of texts.
* `readAll` — a whole text that holds one value.
-/

namespace CommandRelay.Json

open Reader

/-- `true` or `false`. -/
def readFlag : JsonReader Bool := do
  match ← peek with
  | some (some 't') => skipOne; word "rue"; return true
  | some (some 'f') => skipOne; word "alse"; return false
  | _ => failBy otherKind

/-- A string. -/
def readText : JsonReader (List Char) := do
  match ← peek with
  | some (some '"') => skipOne; stringRest
  | _ => failBy otherKind

/-- A string, or `null` for none. -/
def readOptionalText : JsonReader (Option (List Char)) := do
  match ← peek with
  | some (some 'n') => skipOne; word "ull"; return none
  | _ => return some (← readText)

/-- The colon after a key. -/
def readColon : JsonReader Unit := do
  match ← peek with
  | some (some ':') => skipOne
  | none => fail .truncated
  | _ => fail .malformed

/-- `null` and nothing else. -/
def readNull : JsonReader Unit := do
  match ← peek with
  | some (some 'n') => skipOne; word "ull"
  | _ => failBy otherKind

/-- One of a few names, as a string or as the only key of an object whose value is `null`. -/
def readName {α : Type} (ofName? : List Char → Option α) : JsonReader α := do
  let known (name : List Char) : JsonReader α :=
    match ofName? name with
    | some a => pure a
    | none => fail .mismatch
  match ← peek with
  | some (some '"') => known (← readText)
  | some (some '\x7b') =>
    skipOne
    let a ← known (← readText)
    readColon
    readNull
    match ← peek with
    | some (some '\x7d') => skipOne; return a
    | none => fail .truncated
    | _ => fail .malformed
  | none => fail .truncated
  | _ => fail .malformed

/-- Whether another element follows in an array; the closing bracket is not taken. -/
def nextElement (first : Bool) : JsonReader Bool := do
  match ← peek with
  | none => fail .truncated
  | some (some ']') => return false
  | some p =>
    if first then return true
    else if p = some ',' then
      skipOne
      match ← peek with
      | none => fail .truncated
      | some (some ']') => fail .malformed
      | some _ => return true
    else fail .malformed

/-- The closing bracket of an array. -/
def endArray : JsonReader Unit := do
  match ← peek with
  | none => fail .truncated
  | some (some ']') => skipOne
  | some _ => fail .malformed

/-- The next key of an object, or the end of the object, whose bracket is taken. -/
def nextKey (first : Bool) : JsonReader (Option (List Char)) := do
  match ← peek with
  | none => fail .truncated
  | some (some '\x7d') => skipOne; return none
  | some p =>
    if first then
      if p = some '"' then skipOne; return some (← stringRest) else fail .malformed
    else if p = some ',' then
      skipOne
      match ← peek with
      | none => fail .truncated
      | some (some '"') => skipOne; return some (← stringRest)
      | some _ => fail .malformed
    else fail .malformed

/-- Reads one more text of an array behind those read so far, the last one first, or ends. -/
def nextText (p : Bool × List (List Char)) :
    JsonReader ((Bool × List (List Char)) ⊕ List (List Char)) := do
  if ← nextElement p.1 then
    return .inl (false, (← readText) :: p.2)
  else return .inr p.2.reverse

/-- An array of texts. -/
def readTexts : JsonReader (List (List Char)) := do
  match ← peek with
  | some (some '[') =>
    skipOne
    let texts ← loop nextText (true, [])
    endArray
    return texts
  | _ => failBy otherKind

/-- Reads a text that holds one value and white space around it. -/
def readAll {α : Type} (r : JsonReader α) (s : Input) : Except Fault α :=
  match r.run s with
  | .error e => .error e
  | .ok (a, rest) => if rest.all isSpacePlace then .ok a else .error .malformed

end CommandRelay.Json
