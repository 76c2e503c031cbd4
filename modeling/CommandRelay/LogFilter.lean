import CommandRelay.Environment.Basic
import CommandRelay.Text.Blank
import CommandRelay.Text.Split

/-!
# Log filters

A log filter is a list of directives separated by commas.  A directive sets a level for a target,
for a span, or for everything; a target without a level means all of it.

## Main definitions

* `LogFilter.Directive` — one directive; `Directive.parse?`, `Directive.display`.
* `LogFilter.display` — directives in normal form, the most specific first.
* `LogFilter.choose` — the filter of an environment.
-/

namespace CommandRelay.LogFilter

/-- How much is logged. -/
inductive Level where
  | off
  | error
  | warn
  | info
  | debug
  | trace
  deriving DecidableEq, Repr, Inhabited

namespace Level

/-- Every level, the quietest first. -/
def all : List Level := [off, error, warn, info, debug, trace]

/-- The name of a level. -/
def name : Level → String
  | off => "off"
  | error => "error"
  | warn => "warn"
  | info => "info"
  | debug => "debug"
  | trace => "trace"

/-- The level of a decimal number from 0 to 5, a plus sign allowed in front. -/
def ofNumber? (cs : List Char) : Option Level :=
  let digits := match cs with
    | '+' :: rest => rest
    | _ => cs
  if digits ≠ [] ∧ digits.all Char.isDigit then
    all[digits.foldl (fun n c => 10 * n + (c.toNat - 48)) 0]?
  else none

/-- The level of a number or of a name in any case. -/
def ofText? (cs : List Char) : Option Level :=
  (ofNumber? cs).or (all.find? fun l => Text.sameIgnoringAsciiCase l.name (String.ofList cs))

end Level

/-- What a directive is about, and the level it sets. -/
structure Directive where
  target : Option (List Char) := none
  span : Option (List Char) := none
  level : Level := .trace
  deriving DecidableEq, Repr, Inhabited

namespace Directive

/-- A character that may start a directive. -/
def mayStart (c : Char) : Bool :=
  c.isAlphanum || c == '-' || c == ':' || c == '_' || 0x80 ≤ c.toNat

/-- The level after an equals sign; none means all. -/
def levelOf? (cs : List Char) : Option Level := if cs = [] then some .trace else Level.ofText? cs

/-- What follows the span of a directive. -/
def afterSpan? (d : Directive) : List Char → Option Directive
  | [] => some d
  | '=' :: level => (levelOf? level).map fun l => { d with level := l }
  | _ :: _ => none

/-- Reads a span name up to its bracket. -/
def readSpan? (target : Option (List Char)) (cs : List Char) : Option Directive := do
  let (span, rest) ← Text.cutFirst? ']' cs
  if span.contains '\x7b' then none else afterSpan? { target, span := some span } rest

/-- Reads a directive. -/
def parse? (text : List Char) : Option Directive :=
  match Text.trim text with
  | [] => none
  | '[' :: rest => readSpan? none rest
  | c :: rest =>
    if !mayStart c then none
    else
      let head := (c :: rest).takeWhile fun x => x != '=' && x != '['
      match (c :: rest).dropWhile fun x => x != '=' && x != '[' with
      | '=' :: level => (levelOf? level).map fun l => { target := some head, level := l }
      | '[' :: span => readSpan? (some head) span
      | _ =>
        match Level.ofText? head with
        | some l => some { level := l }
        | none => some { target := some head }

/-- The text of a directive. -/
def display (d : Directive) : List Char :=
  let subject := d.target.getD [] ++ (d.span.map fun s => '[' :: s ++ [']']).getD []
  (if d.target.isSome || d.span.isSome then subject ++ ['='] else []) ++ d.level.name.toList

/-- Compares two optional texts; none comes first. -/
def compareText : Option (List Char) → Option (List Char) → Ordering
  | none, none => .eq
  | none, some _ => .lt
  | some _, none => .gt
  | some a, some b => if a < b then .lt else if b < a then .gt else .eq

/-- How many bytes a text has. -/
def byteLength (cs : List Char) : Nat := (String.ofList cs).utf8ByteSize

/-- How specific a directive is: the longer its target the more, then whether it names a span; the
rest only keeps different directives apart. -/
def specificity (a b : Directive) : Ordering :=
  let lengthOf (d : Directive) : Nat := match d.target with
    | some t => byteLength t + 1
    | none => 0
  (compare (lengthOf a) (lengthOf b)).then <|
    (compare a.span.isSome.toNat b.span.isSome.toNat).then <|
      (compareText a.target b.target).then (compareText a.span b.span)

end Directive

/-- Puts a directive among others, the most specific first; it replaces one about the same
subject. -/
def insertDirective (d : Directive) : List Directive → List Directive
  | [] => [d]
  | e :: rest =>
    match d.specificity e with
    | .gt => d :: e :: rest
    | .eq => d :: rest
    | .lt => e :: insertDirective d rest

/-- The directives of a list in normal order: those about targets alone come first. -/
def ordered (ds : List Directive) : List Directive :=
  let order (l : List Directive) := l.foldl (fun acc d => insertDirective d acc) []
  order (ds.filter fun d => d.span.isNone) ++ order (ds.filter fun d => d.span.isSome)

/-- The text of directives in normal form. -/
def display (ds : List Directive) : String :=
  String.ofList ([','].intercalate ((ordered ds).map Directive.display))

/-- Reads a filter; the empty text is a filter without directives. -/
def parse? (text : String) : Option (List Directive) :=
  if text.isEmpty then some [] else (text.toList.splitOn ',').mapM Directive.parse?

/-- Reads a filter, passing over what is no directive; if nothing is left, errors are logged. -/
def parseLenient (text : String) : List Directive :=
  match (text.toList.splitOn ',').filterMap Directive.parse? with
  | [] => [{ level := .error }]
  | ds => ds

/-- The variables that may hold a filter, the first valid one counts. -/
def variableNames : List String := ["FERRY_LOG", "RUST_LOG"]

/-- The filter of an environment, or the default if no variable holds a valid one. -/
def choose (default : String) (env : Environment) : List Directive :=
  (variableNames.findSome? fun name => (env.get? name).bind parse?).getD (parseLenient default)

end CommandRelay.LogFilter
