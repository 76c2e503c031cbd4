import CommandRelay.Toml.Scalar

/-!
# Settings texts

A settings text in TOML is a list of lines: headers that open tables, and keys with their values,
which arrays and tables in braces may nest.

## Main definitions

* `Toml.readValue` — any value.
* `Toml.parse?` — the table of a whole text, if it is one.
-/

namespace CommandRelay.Toml

open Reader

/-- Takes spaces and tabs. -/
def skipBlanks : TomlReader Unit := do discard (takeWhile isBlank)

/-- Takes a comment, if there is one. -/
def skipComment : TomlReader Unit := do
  if (← peek) = some '#' then discard (takeWhile isPlain)

/-- Takes the rest of a line that says nothing more, and its end. -/
def endLine : TomlReader Unit := do
  skipBlanks
  skipComment
  let s ← rest
  if s.isEmpty then return
  skip (← demand (lineEnd? s))

/-- Takes blanks, comments and line ends, as many as there are. -/
def skipLines : TomlReader Unit :=
  loop (fun (_ : Unit) => do
    skipBlanks
    let s ← rest
    match lineEnd? s with
    | some length => skip length; return .inl ()
    | none =>
      if s.head? = some '#' then
        skipComment
        skip (← demand (lineEnd? (← rest)))
        return .inl ()
      else return .inr ()) ()

/-! ## Keys -/

/-- A character of a key without quotes. -/
def isBareKeyChar (c : Char) : Bool := c.isAlphanum || c = '_' || c = '-'

/-- Reads one key. -/
def readKey : TomlReader Key := do
  match ← peek with
  | some '"' => skipOne; readBasic
  | some '\'' => skipOne; readLiteral
  | _ =>
    let key ← takeWhile isBareKeyChar
    if key.isEmpty then refuse else return key

/-- Reads keys with dots between them. -/
def readPath : TomlReader (List Key) :=
  loop (fun (path : List Key) => do
    skipBlanks
    let key ← readKey
    skipBlanks
    if (← peek) = some '.' then
      skipOne
      return .inl (key :: path)
    else return .inr (key :: path).reverse) []

/-! ## Values -/

/-- Takes a fixed word. -/
def takeWord (w : String) : TomlReader Unit := do
  if (w.toList.isPrefixOf (← rest)) then skip w.length else refuse

/-- Reads the elements of an array after its opening bracket. -/
def readElements (element : TomlReader Value) : TomlReader (List Value) :=
  loop (fun (items : List Value) => do
    skipLines
    if (← peek) = some ']' then
      skipOne
      return .inr items.reverse
    else
      let item ← element
      skipLines
      if (← peek) = some ',' then
        skipOne
        return .inl (item :: items)
      else
        expect ']'
        return .inr (item :: items).reverse) []

/-- Reads the entries of a table after its opening brace, on one line and without a comma at the
end. -/
def readEntries (value : TomlReader Value) : TomlReader Table := do
  skipBlanks
  if (← peek) = some '\x7d' then
    skipOne
    return []
  else
    loop (fun (t : Table) => do
      let path ← readPath
      expect '='
      skipBlanks
      let v ← value
      let t ← demand (Table.insertAt? path v .header t)
      skipBlanks
      if (← peek) = some ',' then
        skipOne
        return .inl t
      else
        expect '\x7d'
        return .inr t) []

/-- Reads a value, whose elements are read by `nested` if it may have any. -/
def readValueBy (nested : TomlReader Value) : TomlReader Value := do
  match ← peek with
  | some '"' | some '\'' => return .text (← readText)
  | some '[' => skipOne; return .array (← readElements nested)
  | some '\x7b' => skipOne; return .table .closed (← readEntries nested)
  | some 't' => takeWord "true"; return .boolean true
  | some 'f' => takeWord "false"; return .boolean false
  | _ => readNumber

/-- Reads a value in which arrays and tables nest less than `depth` times. -/
def readValue : Nat → TomlReader Value
  | 0 => refuse
  | depth + 1 => readValueBy (readValue depth)

/-- How deep values nest at most, the outermost one counted. -/
def maxDepth : Nat := 80

/-! ## Lines -/

/-- What the lines so far have built: the whole table, and the path of the last header. -/
structure Document where
  table : Table := []
  header : List Key := []

/-- Reads a header and the rest of its line. -/
def readHeader (d : Document) : TomlReader Document := do
  expect '['
  if (← peek) = some '[' then
    skipOne
    let path ← readPath
    expect ']'
    expect ']'
    endLine
    return ⟨← demand (Table.openElement? path d.table), path⟩
  else
    let path ← readPath
    expect ']'
    endLine
    return ⟨← demand (Table.openTable? path d.table), path⟩

/-- Reads a key with its value and the rest of the line. -/
def readEntry (d : Document) : TomlReader Document := do
  let path ← readPath
  expect '='
  skipBlanks
  let value ← readValue maxDepth
  endLine
  return { d with table := ← demand (Table.insertUnder? d.header path value d.table) }

/-- Reads a line that says something; blank lines and comments before it are passed over. -/
def readLine (d : Document) : TomlReader (Document ⊕ Table) := do
  skipBlanks
  match ← peek with
  | none => return .inr d.table
  | some '[' => return .inl (← readHeader d)
  | some '#' | some '\n' | some '\r' => endLine; return .inl d
  | some _ => return .inl (← readEntry d)

/-- The table of a settings text, if it is one; a byte order mark at its start does not count. -/
def parse? (text : List Char) : Option Table :=
  let text := match text with
    | '\uFEFF' :: rest => rest
    | _ => text
  match (loop readLine {} : TomlReader Table).run text with
  | .ok (table, _) => some table
  | .error _ => none

end CommandRelay.Toml
