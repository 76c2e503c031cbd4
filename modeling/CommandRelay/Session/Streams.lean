/-!
# Standard streams

Which of the three standard streams have some property: are attached to a terminal here, or are
to be attached to one on the other side.
-/

namespace CommandRelay

/-- A flag for each standard stream. -/
structure Streams where
  stdin : Bool := false
  stdout : Bool := false
  stderr : Bool := false
  deriving DecidableEq, Repr, Inhabited

namespace Streams

/-- Whether any stream is marked. -/
def any (s : Streams) : Bool := s.stdin || s.stdout || s.stderr

/-- Every stream marked. -/
def all : Streams := ⟨true, true, true⟩

/-- Raw mode only makes sense when both output streams are the terminal. -/
def wantsRawMode (s : Streams) : Bool := s.stdout && s.stderr

/-- The highest-numbered marked stream: it carries the terminal's geometry and modes. -/
def terminalDescriptor? (s : Streams) : Option Nat :=
  if s.stderr then some 2 else if s.stdout then some 1 else if s.stdin then some 0 else none

end Streams

end CommandRelay
