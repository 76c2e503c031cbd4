/-!
# Settings values

The values that a settings text in TOML can hold, and the tables that its lines build up.  A table
remembers how it came to be, because that decides whether later lines may add to it.

## Main definitions

* `Toml.Value` — a value.
* `Toml.Table` — entries in the order they were written.
* `Toml.Table.updateAt?` — following a path of keys, making tables on the way.
-/

namespace CommandRelay.Toml

/-- A key. -/
abbrev Key := List Char

/-- How a table came to be. -/
inductive Origin where
  /-- By a header of its own, or as an element of a list of tables. -/
  | header
  /-- On the way to a table whose header names it. -/
  | implied
  /-- By a key with dots. -/
  | dotted
  /-- Written between braces, to which nothing can be added. -/
  | closed
  deriving DecidableEq, Repr

/-- A value.  Floats and dates, which no setting holds, are kept without what they say. -/
inductive Value where
  | text (s : List Char)
  | integer (n : Int)
  | boolean (b : Bool)
  | float
  | date
  | array (items : List Value)
  | table (origin : Origin) (entries : List (Key × Value))
  /-- A list of tables, the last one first. -/
  | tables (items : List (List (Key × Value)))
  deriving Inhabited

/-- Entries in the order they were written. -/
abbrev Table := List (Key × Value)

namespace Table

/-- The value of a key. -/
def get? (t : Table) (key : Key) : Option Value := (t.find? fun e => e.1 == key).map Prod.snd

/-- Gives a key a value, in its place if it has one already. -/
def set (t : Table) (key : Key) (value : Value) : Table :=
  match t with
  | [] => [(key, value)]
  | e :: rest => if e.1 = key then (key, value) :: rest else e :: set rest key value

/-- Follows a path of keys and changes the table there, making tables on the way where there are
none.  A key with dots leads only through tables that have no header; braces lead nowhere; and a
list of tables leads through its last one. -/
def updateAt? (dotted : Bool) (change : Origin → Table → Option Table) :
    List Key → Origin → Table → Option Table
  | [], origin, t => change origin t
  | key :: path, _, t =>
    match get? t key with
    | none => do
      let made : Origin := if dotted then .dotted else .implied
      return set t key (.table made (← updateAt? dotted change path made []))
    | some (.table .closed _) => none
    | some (.table origin entries) =>
      if dotted && origin = .header then none
      else do return set t key (.table origin (← updateAt? dotted change path origin entries))
    | some (.tables (last :: others)) => do
      return set t key (.tables ((← updateAt? dotted change path .header last) :: others))
    | some _ => none

/-- Gives a new key a value in a table that came to be as the keys before it say: dots lead into
tables of dots only. -/
def insertNew? (throughDots : Bool) (key : Key) (value : Value) (origin : Origin) (t : Table) :
    Option Table :=
  if (origin == .dotted) != throughDots then none
  else if (get? t key).isSome then none
  else some (set t key value)

/-- Gives the key at the end of a path of keys a value. -/
def insertAt? (path : List Key) (value : Value) (origin : Origin) (t : Table) : Option Table :=
  match path.getLast? with
  | none => none
  | some key =>
    let way := path.dropLast
    updateAt? true (insertNew? (!way.isEmpty) key value) way origin t

/-- Opens the table of a header: it may be implied so far, and nothing else. -/
def openTable? (path : List Key) (t : Table) : Option Table :=
  match path.getLast? with
  | none => none
  | some key =>
    updateAt? false (fun _ t =>
      match get? t key with
      | none => some (set t key (.table .header []))
      | some (.table .implied entries) => some (set t key (.table .header entries))
      | some _ => none) path.dropLast .header t

/-- Opens a new table in the list of tables of a header. -/
def openElement? (path : List Key) (t : Table) : Option Table :=
  match path.getLast? with
  | none => none
  | some key =>
    updateAt? false (fun _ t =>
      match get? t key with
      | none => some (set t key (.tables [[]]))
      | some (.tables items) => some (set t key (.tables ([] :: items)))
      | some _ => none) path.dropLast .header t

/-- Gives a key of the table under a header a value. -/
def insertUnder? (header path : List Key) (value : Value) (t : Table) : Option Table :=
  updateAt? false (insertAt? path value) header .header t

end Table

end CommandRelay.Toml
