import CommandRelay.CommandLine.Task
import Mathlib.Tactic.Common

/-!
# The ways to relay a command

A command is relayed under the plain name of the program, under its own name through a link, or by
the subcommand `run`.  Only the last of them reads switches, and two hyphens put an end to that: the
words behind them are the command as they stand, whatever they look like.

## Main results

* `Grammar.readFrom_hyphens` — what stands behind two hyphens is operands.
* `Task.ofInvocation_stub` — a link relays its name and all arguments.
* `Task.ofArguments_run` — `run` and two hyphens relay what stands behind them.
* `Task.ways_agree` — all ways relay the same.
-/

namespace CommandRelay

namespace Grammar

variable {g : Grammar} {r : Reading}

/-- Nothing is to be settled unless a switch waits. -/
lemma Reading.settle_eq (h : r.pending = none) : r.settle = .ok r := by
  rw [settle, h]

/-- Operands are taken as they stand unless a switch waits. -/
lemma Reading.foldlM_operand (h : r.pending = none) (args : List String) :
    args.foldlM Reading.operand r = .ok { r with operands := r.operands ++ args } := by
  induction args generalizing r with
  | nil => rw [List.foldlM_nil, List.append_nil]; rfl
  | cons arg args ih =>
    have hstep : r.operand arg = .ok { r with operands := r.operands ++ [arg] } := by
      rw [operand, settle_eq h]
      rfl
    have hrest := ih (r := { r with operands := r.operands ++ [arg] }) h
    rw [List.append_assoc, List.singleton_append] at hrest
    rw [List.foldlM_cons, hstep]
    exact hrest

/-- The rest of an argument list is operands, where operands are taken at all. -/
lemma readOperands_eq (hoperands : g.operands ≠ .none) (h : r.pending = none) (args : List String) :
    g.readOperands r args = .ok { r with operands := r.operands ++ args } := by
  rw [readOperands, Reading.foldlM_operand h]
  exact fun _ _ hnone => absurd hnone hoperands

/-- **What stands behind two hyphens is operands.** -/
lemma readFrom_hyphens (hoperands : g.operands ≠ .none) (h : r.pending = none)
    (args : List String) :
    g.readFrom r ("--" :: args) = .ok { r with operands := r.operands ++ args } := by
  rw [readFrom, if_pos rfl, readOperands_eq hoperands h]
  exact Reading.settle_eq h

end Grammar

namespace Task

/-- **The subcommand `run` with two hyphens** relays what stands behind them. -/
lemma ofArguments_run (args : List String) :
    ofArguments ("run" :: "--" :: args) = relay args {} := by
  have hread : Subcommand.run.grammar.read ("--" :: args) = .ok { operands := args } := by
    rw [Grammar.read, Grammar.readFrom_hyphens (by decide) rfl]
    rfl
  have hparse : ManagementCommand.parse ("run" :: "--" :: args) = .ok (.run {} args) := by
    have hname : Subcommand.ofName? "run" = some .run := by decide
    rw [ManagementCommand.parse, hname]
    dsimp only
    rw [hread]
    rfl
  rw [ofArguments, hparse]

/-- **A name that stands for a command** relays it with all arguments. -/
lemma ofInvocation_stub {argv0 name : String} (h : Invocation.ofArgv0 argv0 = .stub name)
    (args : List String) : ofInvocation (.ofNames argv0 args) = relay (name :: args) {} := by
  have hstart : (ProgramStart.ofNames argv0 args).invocation = .stub name := h
  rw [ofInvocation, ProgramStart.linkedCommand?, hstart]
  rfl

/-- **All ways relay the same.**  Under the plain name of the program, arguments that are not meant
for the program itself are a command; under any other name but the one for management, the name and
all arguments are.  Either is relayed with the options of a `run` that has none, as it stands. -/
theorem ways_agree (argv0 : String) (args : List String) :
    (Invocation.ofArgv0 argv0 = .controlOrShell → ManagementCommand.isMeant args = false →
      ofInvocation (.ofNames argv0 args) = relay args {} ∧
        ofArguments ("run" :: "--" :: args) = relay args {}) ∧
    ∀ name, Invocation.ofArgv0 argv0 = .stub name →
      ofInvocation (.ofNames argv0 args) = relay (name :: args) {} ∧
        ofArguments ("run" :: "--" :: name :: args) = relay (name :: args) {} := by
  refine ⟨fun hplain hmeant => ⟨?_, ofArguments_run args⟩,
    fun name hname => ⟨ofInvocation_stub hname args, ofArguments_run (name :: args)⟩⟩
  have hstart : (ProgramStart.ofNames argv0 args).invocation = .controlOrShell := hplain
  rw [ofInvocation, hstart]
  exact if_neg (by simpa [ProgramStart.ofNames] using hmeant)

/-- A command whose words look like switches and subcommands, under the plain name and through a
link. -/
theorem ways_agree_hyphens :
    ofInvocation (.ofNames "/usr/bin/ferry" ["--", "-m", ""]) = relay ["--", "-m", ""] {} ∧
      ofInvocation (.ofNames "bin/git" ["run", "--help", "--"]) =
        relay ["git", "run", "--help", "--"] {} ∧
      ofArguments ["run", "--", "git", "run", "--help", "--"] =
        relay ["git", "run", "--help", "--"] {} :=
  ⟨((ways_agree "/usr/bin/ferry" ["--", "-m", ""]).1 (by decide) (by decide)).1,
    ((ways_agree "bin/git" ["run", "--help", "--"]).2 "git" (by decide)).1,
    ((ways_agree "bin/git" ["run", "--help", "--"]).2 "git" (by decide)).2⟩

end Task

end CommandRelay
