import CommandRelay.Path.Clean

/-!
# The last name of a path

What a path calls its file, and how names are put behind a directory, without cleaning anything.
-/

namespace CommandRelay.Path

/-- The last segment of a path that is neither empty nor `.`, if it is a name: a path that ends in
`..` or has no such segment has no file name. -/
def fileName? (p : List Char) : Option (List Char) :=
  match ((p.splitOn '/').filter fun s => s != [] && s != ['.']).getLast? with
  | some name => if name = ['.', '.'] then none else some name
  | none => none

/-- A name put behind a directory: an absolute name stands alone, and a slash is added unless the
directory ends in one. -/
def join (dir name : String) : String :=
  if isAbsolute name.toList || dir.isEmpty then name
  else if dir.toList.getLast? == some '/' then dir ++ name
  else dir ++ "/" ++ name

/-- The segments of a path without those that mean nothing: empty ones, and `.` anywhere but at the
start. -/
def significant : List (List Char) → List (List Char)
  | [] => []
  | first :: rest =>
    (if first = [] then [] else [first]) ++ rest.filter fun s => s != [] && s != ['.']

/-- The path of segments below the root or not. -/
def ofSegments (absolute : Bool) (segments : List (List Char)) : String :=
  String.ofList ((if absolute then ['/'] else []) ++ ['/'].intercalate segments)

/-- A path and the directories above it, each without its last segment, down to the root or the
first segment. -/
def lineage (p : String) : List String :=
  let segments := significant (p.toList.splitOn '/')
  p :: ((List.range segments.length).reverse.filterMap fun n =>
    if n = 0 && !isAbsolute p.toList then none
    else some (ofSegments (isAbsolute p.toList) (segments.take n)))

/-- The directory above a path; a relative path of one segment stands in no named directory. -/
def parent? (p : String) : Option String :=
  let segments := significant (p.toList.splitOn '/')
  if segments.isEmpty then none else some (ofSegments (isAbsolute p.toList) segments.dropLast)

end CommandRelay.Path
