import CommandRelay.Dictionary

/-!
# Environments

An environment gives names their values, listed in the order of the names.
-/

namespace CommandRelay

/-- Variable names and their values. -/
abbrev Environment := Dictionary String String

namespace Environment

/-- The value of a variable that is set and not empty. -/
def nonEmpty? (env : Environment) (name : String) : Option String :=
  (env.get? name).filter fun v => !v.isEmpty

end Environment

end CommandRelay
