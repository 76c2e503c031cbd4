import CommandRelay.Text.Split

/-!
# Slash-separated paths

A path is cleaned by looking at its text alone: separators collapse, `.` goes away and `..` takes
back the segment before it where there is one.

## Main definitions

* `Path.segments` — the segments of the cleaned path; `Path.render` — a path from segments.
* `Path.clean` — the cleaned path.
* `Path.remainderUnder?`, `Path.joinUnder` — taking a directory off a path and putting one on.
-/

namespace CommandRelay.Path

/-- Whether a path starts at the root. -/
def isAbsolute (p : List Char) : Bool := p.head? == some '/'

/-- Takes one more piece into the segments kept so far, the last one first.  `..` takes the last
segment back unless that is itself a `..`; at the root there is nothing above. -/
def keep (absolute : Bool) (kept : List (List Char)) (piece : List Char) : List (List Char) :=
  if piece = [] ∨ piece = ['.'] then kept
  else if piece = ['.', '.'] then
    match kept with
    | [] => if absolute then [] else [piece]
    | last :: rest =>
      if last = ['.', '.'] then (if absolute then kept else piece :: kept) else rest
  else piece :: kept

/-- The segments of the cleaned path. -/
def segments (p : List Char) : List (List Char) :=
  ((p.splitOn '/').foldl (keep (isAbsolute p)) []).reverse

/-- The path of some segments: the root or the current directory if there are none. -/
def render (absolute : Bool) (segs : List (List Char)) : List Char :=
  if absolute then '/' :: ['/'].intercalate segs
  else if segs = [] then ['.']
  else ['/'].intercalate segs

/-- The cleaned path. -/
def cleanChars (p : List Char) : List Char := render (isAbsolute p) (segments p)

/-- The cleaned path. -/
def clean (p : String) : String := String.ofList (cleanChars p.toList)

/-! ## Directories in front of a path -/

/-- What is left of `path` below the directory `dir`, as an absolute path: `/` for the directory
itself.  Slashes at the end of `dir` do not count, and an empty `dir` is the root. -/
def remainderUnder? (dir path : List Char) : Option (List Char) :=
  let dir := Text.dropTrailing '/' dir
  if dir = [] then if isAbsolute path then some path else none
  else
    match Text.after? dir path with
    | none => none
    | some [] => some ['/']
    | some rest => if isAbsolute rest then some rest else none

/-- Whether `path` is the directory `dir` or below it. -/
def isUnder (dir path : List Char) : Bool := (remainderUnder? dir path).isSome

/-- An absolute path put under a directory. -/
def joinUnder (dir absolute : List Char) : List Char :=
  let dir := Text.dropTrailing '/' dir
  if absolute = ['/'] then if dir = [] then ['/'] else dir else dir ++ absolute

end CommandRelay.Path
