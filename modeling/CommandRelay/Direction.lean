/-!
# Which way a name or value crosses

The relay sits between this machine and a foreign one; names, variables and paths are carried
either to the foreign side or back to the local one.
-/

namespace CommandRelay

/-- Which side a value is being made ready for. -/
inductive Direction where
  | toForeign
  | toLocal
  deriving DecidableEq, Repr, Inhabited

end CommandRelay
