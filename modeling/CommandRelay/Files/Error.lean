/-!
# File errors

Why an operation on files, sockets or programs fails, with the number the system has for it.
-/

namespace CommandRelay

/-- Why an operation fails. -/
inductive FileError where
  | notFound
  | permissionDenied
  | alreadyExists
  | notDirectory
  | isDirectory
  | invalidArgument
  | nameTooLong
  | notEmpty
  | tooManyLinks
  | addressInUse
  /-- The name holds a character that no name can hold. -/
  | nulInName
  /-- The file is no text. -/
  | notText
  deriving DecidableEq, Repr

namespace FileError

/-- The wording of the system with its number. -/
def numbered (text : String) (number : Nat) : String := s!"{text} (os error {number})"

/-- The wording of an error. -/
def message : FileError → String
  | notFound => numbered "No such file or directory" 2
  | permissionDenied => numbered "Permission denied" 13
  | alreadyExists => numbered "File exists" 17
  | notDirectory => numbered "Not a directory" 20
  | isDirectory => numbered "Is a directory" 21
  | invalidArgument => numbered "Invalid argument" 22
  | nameTooLong => numbered "File name too long" 36
  | notEmpty => numbered "Directory not empty" 39
  | tooManyLinks => numbered "Too many levels of symbolic links" 40
  | addressInUse => numbered "Address already in use" 98
  | nulInName => "file name contained an unexpected NUL byte"
  | notText => "stream did not contain valid UTF-8"

end FileError

end CommandRelay
