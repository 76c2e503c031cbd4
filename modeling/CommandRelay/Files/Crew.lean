import CommandRelay.Files.Script

/-!
# Scripts that run at once

Several scripts run at once on one tree.  One operation of one of them is what happens at once, and
they take turns in any order.

## Main definitions

* `Script.advance` — the next operation of a script.
* `Crew` — scripts that run at once; `Crew.run` — what some turns lead to.
-/

namespace CommandRelay

namespace Script

variable {α : Type}

/-- Does the next operation of a script, if one is left. -/
def advance (cwd : Place) (t : FileTree) : Script α → Script α × FileTree
  | done a => (done a, t)
  | call c next => (next (c.run cwd t).1, (c.run cwd t).2)

/-- The result of a script that has no operation left. -/
def result? : Script α → Option α
  | done a => some a
  | call _ _ => none

end Script

/-- Scripts that run at once on one tree. -/
structure Crew (α : Type) where
  tree : FileTree
  scripts : List (Script α)

namespace Crew

variable {α : Type}

/-- The turn of one of the scripts. -/
def turn (cwd : Place) (c : Crew α) (i : Nat) : Crew α :=
  match c.scripts[i]? with
  | none => c
  | some s =>
    { tree := (s.advance cwd c.tree).2, scripts := c.scripts.set i (s.advance cwd c.tree).1 }

/-- The turns of scripts one after another. -/
def run (cwd : Place) (c : Crew α) (turns : List Nat) : Crew α := turns.foldl (turn cwd) c

/-- The results of the scripts that have no operation left. -/
def results (c : Crew α) : List α := c.scripts.filterMap Script.result?

/-- Whether no script has an operation left. -/
def isDone (c : Crew α) : Bool := c.scripts.all fun s => s.result?.isSome

end Crew

end CommandRelay
