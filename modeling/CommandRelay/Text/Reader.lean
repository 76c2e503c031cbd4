/-!
# Reading from left to right

A reader takes a value from the front of a list and leaves the rest, or says what is wrong.  It
never lengthens what is left, so readers can be repeated without a bound given from outside.

## Main definitions

* `Reader` — a step of reading; readers form a monad.
* `Reader.loop` — repetition, which ends because every round takes something.

## Main results

* `Reader.run_pure`, `Reader.run_bind` — how steps compose.
* `Reader.loopFrom_length_le` — a repetition lengthens nothing either.
-/

namespace CommandRelay

/-- A step that reads a value from the front of the input and leaves the rest, which is never
longer than the input was. -/
structure Reader (τ ε α : Type) where
  /-- The value and what is left, or the fault. -/
  run : List τ → Except ε (α × List τ)
  /-- Reading never lengthens the input. -/
  length_le : ∀ {s a rest}, run s = .ok (a, rest) → rest.length ≤ s.length

namespace Reader

variable {τ ε α β σ : Type}

/-- Reads nothing. -/
protected def pure (a : α) : Reader τ ε α where
  run s := .ok (a, s)
  length_le h := by cases h; exact Nat.le_refl _

/-- One step after another. -/
protected def bind (r : Reader τ ε α) (f : α → Reader τ ε β) : Reader τ ε β where
  run s :=
    match r.run s with
    | .ok (a, rest) => (f a).run rest
    | .error e => .error e
  length_le {s b rest} h := by
    cases hr : r.run s with
    | error e => simp [hr] at h
    | ok p =>
      rw [hr] at h
      exact Nat.le_trans ((f p.1).length_le h) (r.length_le hr)

/-- One reader goes on where the other one stops. -/
instance : Monad (Reader τ ε) where
  pure := Reader.pure
  bind := Reader.bind

/-- A reader that has its result reads nothing. -/
@[simp] theorem run_pure (a : α) (s : List τ) : (pure a : Reader τ ε α).run s = .ok (a, s) := rfl

/-- One reader after another runs on what the first one leaves, if it does not fail. -/
theorem run_bind (r : Reader τ ε α) (f : α → Reader τ ε β) (s : List τ) :
    (r >>= f).run s =
      match r.run s with
      | .ok (a, rest) => (f a).run rest
      | .error e => .error e := rfl

/-- Fails. -/
def fail (e : ε) : Reader τ ε α where
  run _ := .error e
  length_le h := by cases h

/-- Fails in a way that depends on what is left. -/
def failBy (f : List τ → ε) : Reader τ ε α where
  run s := .error (f s)
  length_le h := by cases h

/-- What is left, without reading. -/
def rest : Reader τ ε (List τ) where
  run s := .ok (s, s)
  length_le h := by cases h; exact Nat.le_refl _

/-- Takes some elements away. -/
def skip (n : Nat) : Reader τ ε Unit where
  run s := .ok ((), s.drop n)
  length_le h := by cases h; simp

/-- Takes one element away. -/
def skipOne : Reader τ ε Unit := skip 1

/-- Takes the elements at the front that satisfy `p`. -/
def takeWhile (p : τ → Bool) : Reader τ ε (List τ) where
  run s := .ok (s.takeWhile p, s.dropWhile p)
  length_le h := by
    cases h
    exact (List.dropWhile_sublist p).length_le

/-- Repeats `step` until it gives a result.  A round that takes nothing would never end, so it
fails. -/
def loopFrom [Inhabited ε] (step : σ → Reader τ ε (σ ⊕ α)) (state : σ) (s : List τ) :
    Except ε (α × List τ) :=
  match (step state).run s with
  | .error e => .error e
  | .ok (.inr a, rest) => .ok (a, rest)
  | .ok (.inl state', rest) =>
    if _h : rest.length < s.length then loopFrom step state' rest else .error default
termination_by s.length

/-- A loop leaves no more than there was. -/
theorem loopFrom_length_le [Inhabited ε] (step : σ → Reader τ ε (σ ⊕ α)) (state : σ) (s : List τ)
    {a : α}
    {rest : List τ} (h : loopFrom step state s = .ok (a, rest)) : rest.length ≤ s.length := by
  induction hn : s.length using Nat.strongRecOn generalizing state s with
  | _ n ih =>
    subst hn
    rw [loopFrom] at h
    split at h
    · cases h
    · next hr => cases h; exact (step state).length_le hr
    · split at h
      · next hlt => exact Nat.le_trans (ih _ hlt _ _ h rfl) (Nat.le_of_lt hlt)
      · cases h

/-- Repeats `step` from `state` until it gives a result. -/
def loop [Inhabited ε] (step : σ → Reader τ ε (σ ⊕ α)) (state : σ) : Reader τ ε α where
  run := loopFrom step state
  length_le h := loopFrom_length_le step state _ h

end Reader

end CommandRelay
