import CommandRelay.Endpoint

/-!
# Waiting for an endpoint

Before a session begins, the endpoint is tried again and again until somebody answers there or the
time is over.  Times are in nanoseconds.

## Main definitions

* `Probe` — how long to wait.
* `Probe.Clock` — what the clock shows on the way.
* `Probe.wait` — how the waiting ends.
-/

namespace CommandRelay

/-- How long to wait for an endpoint, in milliseconds. -/
structure Probe where
  timeout : Nat
  deriving DecidableEq, Repr, Inhabited

namespace Probe

/-- The nanoseconds of a millisecond. -/
def millisecond : Nat := 1000000

/-- How long the pause between two attempts is at least. -/
def interval : Nat := 50 * millisecond

/-- What the clock shows while somebody waits.  It never goes back, and a pause between attempts
takes its time. -/
structure Clock where
  /-- When the waiting began. -/
  start : Nat
  /-- When each attempt was over. -/
  after : Nat → Nat
  start_le : start ≤ after 0
  pause_le : ∀ n, after n + interval ≤ after (n + 1)

/-- A clock on which attempts take no time. -/
def Clock.steady : Clock where
  start := 0
  after n := n * interval
  start_le := Nat.zero_le _
  pause_le n := Nat.le_of_eq (Nat.succ_mul n interval).symm

/-- How the waiting ends. -/
inductive Outcome where
  /-- An attempt was answered; it was the last one. -/
  | reached (attempts : Nat)
  /-- The time was over after an attempt without an answer. -/
  | gaveUp (attempts : Nat)
  deriving DecidableEq, Repr

/-- Whether an attempt was answered. -/
def Outcome.isReached : Outcome → Bool
  | reached _ => true
  | gaveUp _ => false

/-- When the time is over. -/
def deadline (p : Probe) (c : Clock) : Nat := c.start + p.timeout * millisecond

/-- The attempts that follow some others. -/
def waitFrom (p : Probe) (c : Clock) (answers : Nat → Bool) (n : Nat) : Outcome :=
  if answers n then .reached (n + 1)
  else if p.deadline c ≤ c.after n then .gaveUp (n + 1)
  else p.waitFrom c answers (n + 1)
termination_by p.deadline c - c.after n
decreasing_by
  have := c.pause_le n
  simp only [interval, millisecond] at this
  omega

/-- How the waiting ends, if some attempts are answered and others are not. -/
def wait (p : Probe) (c : Clock) (answers : Nat → Bool) : Outcome := p.waitFrom c answers 0

/-- What is said when the time is over. -/
def message (p : Probe) (e : Endpoint) : String :=
  s!"{e.display} is not reachable after {p.timeout}ms; is the VM running?"

end Probe

end CommandRelay
