/-!
# Words for a shell

A list of words as one command text, and the words that a POSIX shell finds in such a text by
splitting and quote removal.

## Main definitions

* `ShellWords.quote`, `join` — writing.
* `ShellWords.split?` — reading.
-/

namespace CommandRelay.ShellWords

/-- Characters that mean something to a shell. -/
def isSpecial (c : Char) : Bool :=
  c ∈ ['|', '&', ';', '<', '>', '(', ')', '$', '\x60', '\\', '"', '\'', ' ', '\t', '\n', '*', '?',
    '[', '#', '~', '=', '%']

/-- A character inside single quotes; a quote closes them, stands escaped and opens them again. -/
def quotedChar (c : Char) : List Char := if c = '\'' then ['\'', '\\', '\'', '\''] else [c]

/-- One word, left alone if it is not empty and holds nothing special. -/
def quote (w : List Char) : List Char :=
  if w.isEmpty || w.any isSpecial then '\'' :: w.flatMap quotedChar ++ ['\''] else w

/-- Words separated by single spaces. -/
def joinChars (ws : List (List Char)) : List Char := [' '].intercalate (ws.map quote)

/-- A command text that a shell splits back into `words`. -/
def join (words : List String) : String := String.ofList (joinChars (words.map String.toList))

/-! ## Reading

The reader is a shell's splitting and quote removal for texts without expansions: blanks separate
words; between single quotes every character is itself; between double quotes a backslash escapes
`$`, `` ` ``, `"`, `\` and a newline; elsewhere a backslash escapes any character; a newline after a
backslash is no part of the text.  An operator, an expansion or a pattern outside quotes is more
than words, and the reader gives up on it. -/

/-- Where the reader stands. -/
inductive Place where
  /-- Between words. -/
  | blank
  /-- After a backslash between words. -/
  | blankEscaped
  /-- In a word, outside quotes. -/
  | word
  /-- In single quotes. -/
  | single
  /-- In double quotes. -/
  | double
  /-- After a backslash in a word, outside quotes. -/
  | escaped
  /-- After a backslash in double quotes. -/
  | doubleEscaped
  /-- In a comment. -/
  | comment
  deriving DecidableEq, Repr

/-- A character outside quotes that is an operator or starts an expansion or a pattern. -/
def isActive (c : Char) : Bool :=
  c ∈ ['|', '&', ';', '<', '>', '(', ')', '$', '\x60', '*', '?', '[', '\n']

/-- Reads on from `place` with `word` the current word so far, reversed, and `done` the words
before it, reversed. -/
def splitFrom : Place → List Char → List (List Char) → List Char → Option (List (List Char))
  | .blank, _, done, [] => some done.reverse
  | .comment, _, done, [] => some done.reverse
  | .word, word, done, [] => some (word.reverse :: done).reverse
  | _, _, _, [] => none
  | .blank, _, done, c :: rest =>
    if c = ' ' || c = '\t' then splitFrom .blank [] done rest
    else if c = '#' then splitFrom .comment [] done rest
    else if c = '\'' then splitFrom .single [] done rest
    else if c = '"' then splitFrom .double [] done rest
    else if c = '\\' then splitFrom .blankEscaped [] done rest
    else if c = '~' || isActive c then none
    else splitFrom .word [c] done rest
  | .blankEscaped, _, done, c :: rest =>
    -- a newline does not begin a word here, not even an empty one
    if c = '\n' then splitFrom .blank [] done rest else splitFrom .word [c] done rest
  | .word, word, done, c :: rest =>
    if c = ' ' || c = '\t' then splitFrom .blank [] (word.reverse :: done) rest
    else if c = '\'' then splitFrom .single word done rest
    else if c = '"' then splitFrom .double word done rest
    else if c = '\\' then splitFrom .escaped word done rest
    else if isActive c then none
    else splitFrom .word (c :: word) done rest
  | .single, word, done, c :: rest =>
    if c = '\'' then splitFrom .word word done rest else splitFrom .single (c :: word) done rest
  | .double, word, done, c :: rest =>
    if c = '"' then splitFrom .word word done rest
    else if c = '\\' then splitFrom .doubleEscaped word done rest
    else if c = '$' || c = '\x60' then none
    else splitFrom .double (c :: word) done rest
  | .escaped, word, done, c :: rest =>
    if c = '\n' then splitFrom .word word done rest else splitFrom .word (c :: word) done rest
  | .doubleEscaped, word, done, c :: rest =>
    if c = '\n' then splitFrom .double word done rest
    else if c ∈ ['$', '\x60', '"', '\\'] then splitFrom .double (c :: word) done rest
    else splitFrom .double (c :: '\\' :: word) done rest
  | .comment, word, done, c :: rest =>
    -- the newline at the end of a comment separates commands
    if c = '\n' then none else splitFrom .comment word done rest

/-- The words of a command text, if it is nothing but words. -/
def split? (s : List Char) : Option (List (List Char)) := splitFrom .blank [] [] s

end CommandRelay.ShellWords
