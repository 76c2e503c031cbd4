import CommandRelay.Client.Probe
import Mathlib.Logic.Function.Iterate
import Mathlib.Tactic.Common

/-!
# Waiting comes to an end

A client tries an endpoint, looks at the clock if nobody answers, and pauses before it tries again.
Nothing counts the attempts: only the clock ends them, since every pause brings it nearer to the
deadline.  So there is a first attempt, an answered one is the last, and the waiting is given up
only when the clock shows the deadline after an attempt in vain.

## Main definitions

* `Probe.Stage`, `Probe.turn` — the waiting, one attempt after another.
* `Probe.Settled` — what has happened when the waiting is over.
* `Probe.Reading`, `Probe.Reading.plus?` — a clock of limited width, and a time after its reading.

## Main results

* `Probe.settled_waitFrom` — what has happened when the waiting is over.
* `Probe.iterate_turn` — turn by turn, the waiting comes to its end.
* `Probe.attempts_lt` — how many attempts there are.
* `Probe.Reading.plus?_eq_none_iff`, `Probe.Reading.total_of_plus?` — when the deadline can be
  shown, and that it is shown right.
* `Probe.wait_settles` — the waiting is decided rightly, and ends.
-/

namespace CommandRelay.Probe

/-- How many attempts were made. -/
def Outcome.attempts : Outcome → ℕ
  | reached attempts => attempts
  | gaveUp attempts => attempts

/-! ## Turn by turn -/

/-- How far the waiting is. -/
inductive Stage where
  /-- Some attempts were in vain, and there was time for another one. -/
  | trying (attempts : ℕ)
  | over (outcome : Outcome)

/-- One turn: an attempt, and without an answer a look at the clock and a pause. -/
def turn (p : Probe) (c : Clock) (answers : ℕ → Bool) : Stage → Stage
  | .trying n =>
    if answers n then .over (.reached (n + 1))
    else if p.deadline c ≤ c.after n then .over (.gaveUp (n + 1))
    else .trying (n + 1)
  | .over outcome => .over outcome

/-- What has happened when the waiting is over that began after some attempts: those before the last
one were in vain, and there was time after each; the last one was answered, or the time was over
after it. -/
inductive Settled (p : Probe) (c : Clock) (answers : ℕ → Bool) (first : ℕ) : Outcome → Prop where
  | reached {last : ℕ} (hfirst : first ≤ last)
      (hbefore : ∀ n, first ≤ n → n < last → answers n = false ∧ c.after n < p.deadline c)
      (hanswer : answers last = true) : Settled p c answers first (.reached (last + 1))
  | gaveUp {last : ℕ} (hfirst : first ≤ last)
      (hbefore : ∀ n, first ≤ n → n < last → answers n = false ∧ c.after n < p.deadline c)
      (hanswer : answers last = false) (htime : p.deadline c ≤ c.after last) :
      Settled p c answers first (.gaveUp (last + 1))

variable (p : Probe) (c : Clock) (answers : ℕ → Bool)

variable {p c answers} in
/-- One more attempt in vain before the others, with time left after it. -/
lemma Settled.before {n : ℕ} {o : Outcome} (h : Settled p c answers (n + 1) o)
    (hanswer : answers n = false) (htime : c.after n < p.deadline c) : Settled p c answers n o := by
  have hfurther {last : ℕ}
      (hbefore : ∀ m, n + 1 ≤ m → m < last → answers m = false ∧ c.after m < p.deadline c) (m : ℕ)
      (hfrom : n ≤ m) (hto : m < last) : answers m = false ∧ c.after m < p.deadline c := by
    rcases Nat.eq_or_lt_of_le hfrom with rfl | hlater
    · exact ⟨hanswer, htime⟩
    · exact hbefore m hlater hto
  cases h with
  | reached hfirst hbefore hlast => exact .reached (by omega) (hfurther hbefore) hlast
  | gaveUp hfirst hbefore hlast hover => exact .gaveUp (by omega) (hfurther hbefore) hlast hover

/-- **What has happened** when the waiting is over. -/
lemma settled_waitFrom (first : ℕ) : Settled p c answers first (p.waitFrom c answers first) := by
  fun_induction waitFrom p c answers first with
  | case1 n hanswer =>
    exact .reached (Nat.le_refl n) (fun m hfrom hto => absurd hfrom (by omega)) hanswer
  | case2 n hanswer htime =>
    exact .gaveUp (Nat.le_refl n) (fun m hfrom hto => absurd hfrom (by omega))
      (by simpa using hanswer)
      htime
  | case3 n hanswer htime ih => exact ih.before (by simpa using hanswer) (by omega)

/-- **Turn by turn**, the waiting comes to its end, with one turn for each attempt. -/
lemma iterate_turn (first : ℕ) : ∃ turns, (p.waitFrom c answers first).attempts = first + turns ∧
    (p.turn c answers)^[turns] (.trying first) = .over (p.waitFrom c answers first) := by
  fun_induction waitFrom p c answers first with
  | case1 n hanswer => exact ⟨1, rfl, if_pos hanswer⟩
  | case2 n hanswer htime => exact ⟨1, rfl, (if_neg hanswer).trans (if_pos htime)⟩
  | case3 n hanswer htime ih =>
    obtain ⟨turns, hattempts, hover⟩ := ih
    refine ⟨turns + 1, by omega, ?_⟩
    rw [Function.iterate_succ_apply, turn, if_neg hanswer, if_neg htime]
    exact hover

/-! ## The number of attempts -/

/-- Pauses take their time. -/
lemma start_add_le_after (n : ℕ) : c.start + n * interval ≤ c.after n := by
  induction n with
  | zero => simpa using c.start_le
  | succ n ih =>
    have hpause := c.pause_le n
    rw [Nat.succ_mul]
    omega

variable {p c answers}

/-- **The number of attempts** is bounded by the pauses that fit in the time. -/
lemma attempts_lt {o : Outcome} (h : Settled p c answers 0 o) :
    o.attempts < (p.timeout + 49) / 50 + 2 := by
  have hlast {last : ℕ} (hbefore : ∀ n, 0 ≤ n → n < last →
      answers n = false ∧ c.after n < p.deadline c) :
      last + 1 < (p.timeout + 49) / 50 + 2 := by
    cases last with
    | zero => omega
    | succ n =>
      have htime := (hbefore n n.zero_le (by omega)).2
      have hpauses := start_add_le_after c n
      simp only [deadline, interval, millisecond] at htime hpauses
      omega
  cases h with
  | reached _ hbefore _ => exact hlast hbefore
  | gaveUp _ hbefore _ _ => exact hlast hbefore

/-- An attempt is made; one that was answered is the last, and a last one in vain is made when the
time is over. -/
lemma Settled.decided {o : Outcome} (h : Settled p c answers 0 o) :
    1 ≤ o.attempts ∧ (o.isReached = true ↔ ∃ n < o.attempts, answers n = true) ∧
      (∀ n, n + 1 < o.attempts → answers n = false ∧ c.after n < p.deadline c) ∧
      ∀ n, o = .gaveUp (n + 1) → answers n = false ∧ p.deadline c ≤ c.after n := by
  cases h with
  | @reached last _ hbefore hanswer =>
    exact ⟨Nat.succ_pos last, iff_of_true rfl ⟨last, Nat.lt_succ_self last, hanswer⟩,
      fun n hn => hbefore n n.zero_le (Nat.lt_of_succ_lt_succ hn), nofun⟩
  | @gaveUp last _ hbefore hanswer htime =>
    refine ⟨Nat.succ_pos last, iff_of_false nofun ?_,
      fun n hn => hbefore n n.zero_le (Nat.lt_of_succ_lt_succ hn), ?_⟩
    · rintro ⟨n, hn, hanswered⟩
      rcases Nat.lt_succ_iff_lt_or_eq.1 hn with hearlier | rfl
      · rw [(hbefore n n.zero_le hearlier).1] at hanswered
        cases hanswered
      · rw [hanswer] at hanswered
        cases hanswered
    · rintro n hn
      obtain rfl := Nat.succ.inj (Outcome.gaveUp.inj hn)
      exact ⟨hanswer, htime⟩

/-! ## Deadlines that a clock can show -/

/-- The nanoseconds of a second. -/
def second : ℕ := 1000000000

/-- What a clock shows that counts seconds in 64 signed bits, up to 2⁶³ - 1, and nanoseconds beside
them. -/
structure Reading where
  seconds : Int
  nanoseconds : ℕ
  seconds_range : -9223372036854775808 ≤ seconds ∧ seconds ≤ 9223372036854775807
  nanoseconds_lt : nanoseconds < second

namespace Reading

/-- A reading in nanoseconds. -/
def total (r : Reading) : Int := r.seconds * second + r.nanoseconds

/-- What the clock shows some milliseconds after a reading, if it can show that: the seconds are
added first, and one more may be carried over from the nanoseconds. -/
def plus? (r : Reading) (milliseconds : ℕ) : Option Reading :=
  let seconds : Int := r.seconds + (milliseconds / 1000 : ℕ)
  let nanoseconds := r.nanoseconds + milliseconds % 1000 * millisecond
  if hseconds : seconds ≤ 9223372036854775807 then
    if hnanoseconds : nanoseconds < second then
      some ⟨seconds, nanoseconds, by have := r.seconds_range; omega, hnanoseconds⟩
    else if hcarry : seconds + 1 ≤ 9223372036854775807 then
      some ⟨seconds + 1, nanoseconds - second, by have := r.seconds_range; omega, by
        have := r.nanoseconds_lt
        simp only [nanoseconds, second, millisecond] at this ⊢
        omega⟩
    else none
  else none

variable {r d : Reading} {milliseconds : ℕ}

/-- **What the clock shows later** is as much later. -/
lemma total_of_plus? (h : r.plus? milliseconds = some d) :
    d.total = r.total + (milliseconds * millisecond : ℕ) := by
  unfold plus? at h
  dsimp only at h
  split_ifs at h with hseconds hnanoseconds hcarry
  · obtain rfl := Option.some.inj h
    simp only [total, second, millisecond]
    omega
  · obtain rfl := Option.some.inj h
    simp only [total, second, millisecond] at hnanoseconds ⊢
    omega

/-- The clock cannot show a later time just if that is beyond all that it can show. -/
lemma plus?_eq_none_iff :
    r.plus? milliseconds = none ↔
      9223372036854775808 * (second : Int) ≤ r.total + (milliseconds * millisecond : ℕ) := by
  have hlt : r.nanoseconds < 1000000000 := r.nanoseconds_lt
  unfold plus?
  dsimp only
  split_ifs with hseconds hnanoseconds hcarry
  · simp only [total, second, millisecond] at hnanoseconds ⊢
    refine iff_of_false nofun ?_
    omega
  · simp only [total, second, millisecond] at hnanoseconds ⊢
    refine iff_of_false nofun ?_
    omega
  · simp only [total, second, millisecond] at hnanoseconds ⊢
    refine iff_of_true trivial ?_
    omega
  · simp only [total, second, millisecond]
    refine iff_of_true trivial ?_
    omega

end Reading

/-! ## The whole waiting -/

/-- **The waiting is decided rightly, and ends.**  Whatever the time to wait, the clock and the
answers, turn by turn it comes to its end, after at least one attempt and at most one more than the
pauses that fit in the time, rounded up.  It succeeds just if an attempt was answered, and that was
the last one; it is given up only when the clock showed the deadline after an attempt in vain.  A
clock of 64 bits can show the deadline unless it is beyond all that the clock can show, and so it
can whenever the clock has counted at most 9 · 10¹⁸ seconds, however long the time to wait.

**Proof sketch.** The waiting is `Settled`, by induction on its turns, and this says all of the
attempts; counting turns is `iterate_turn`, and each turn but the last one uses up a pause, which
bounds them.  A clock that has counted at most 9 · 10¹⁸ seconds can show the deadline, since 64 bits
of milliseconds are far less than what is left. -/
theorem wait_settles (p : Probe) (c : Clock) (answers : ℕ → Bool) :
    let o := p.wait c answers
    (p.turn c answers)^[o.attempts] (.trying 0) = .over o ∧
      1 ≤ o.attempts ∧ o.attempts < (p.timeout + 49) / 50 + 2 ∧
      (o.isReached = true ↔ ∃ n < o.attempts, answers n = true) ∧
      (∀ n, n + 1 < o.attempts → answers n = false ∧ c.after n < p.deadline c) ∧
      (∀ n, o = .gaveUp (n + 1) → answers n = false ∧ p.deadline c ≤ c.after n) ∧
      ∀ now : Reading, now.total = c.start →
        (now.plus? p.timeout = none ↔ 9223372036854775808 * (second : Int) ≤ p.deadline c) ∧
        (p.timeout ≤ 9223372036854775807 → now.seconds ≤ 9000000000000000000 →
          ∃ shown, now.plus? p.timeout = some shown ∧ shown.total = p.deadline c) := by
  intro o
  have hsettled : Settled p c answers 0 o := settled_waitFrom p c answers 0
  obtain ⟨turns, hattempts, hover⟩ := iterate_turn p c answers 0
  rw [Nat.zero_add] at hattempts
  have hturns : (p.turn c answers)^[o.attempts] (.trying 0) = .over o := by
    rw [show o.attempts = turns from hattempts]
    exact hover
  obtain ⟨hone, hreached, hbefore, hgaveUp⟩ := hsettled.decided
  refine ⟨hturns, hone, attempts_lt hsettled, hreached, hbefore, hgaveUp, fun now hnow => ?_⟩
  have hdeadline : (p.deadline c : Int) = now.total + (p.timeout * millisecond : ℕ) := by
    rw [hnow, deadline]
    omega
  refine ⟨by rw [hdeadline]; exact Reading.plus?_eq_none_iff, fun htimeout hseconds => ?_⟩
  have hshown : now.plus? p.timeout ≠ none := by
    rw [ne_eq, Reading.plus?_eq_none_iff, Reading.total]
    have hlt : now.nanoseconds < 1000000000 := now.nanoseconds_lt
    simp only [second, millisecond]
    omega
  obtain ⟨shown, hshown⟩ := Option.ne_none_iff_exists'.1 hshown
  exact ⟨shown, hshown, by rw [hdeadline, Reading.total_of_plus? hshown]⟩

/-- Sixty milliseconds in which nobody answers, and the longest time to wait, on a clock that can
show its deadline. -/
theorem wait_settles_inVain :
    let p : Probe := ⟨60⟩
    let longest : Probe := ⟨9223372036854775807⟩
    let now : Reading := ⟨0, 0, by decide, by decide⟩
    p.wait .steady (fun _ => false) = .gaveUp 3 ∧
      Clock.steady.after 1 < p.deadline .steady ∧ p.deadline .steady ≤ Clock.steady.after 2 ∧
      now.total = Clock.steady.start ∧ longest.timeout ≤ 9223372036854775807 ∧
      now.seconds ≤ 9000000000000000000 ∧
      ∃ shown, now.plus? longest.timeout = some shown ∧ shown.total = longest.deadline .steady := by
  intro p longest now
  have hwait : p.wait .steady (fun _ => false) = .gaveUp 3 := by
    rw [wait, waitFrom, if_neg (by decide), if_neg (by decide), waitFrom, if_neg (by decide),
      if_neg (by decide), waitFrom, if_neg (by decide), if_pos (by decide)]
  obtain ⟨-, -, -, -, hbefore, hgaveUp, -⟩ := wait_settles p .steady (fun _ => false)
  obtain ⟨-, -, -, -, -, -, hclock⟩ := wait_settles longest .steady (fun _ => false)
  have htwo : 1 + 1 < (p.wait .steady (fun _ => false)).attempts := by rw [hwait]; decide
  exact ⟨hwait, (hbefore 1 htwo).2, (hgaveUp 2 hwait).2, by decide, by decide, by decide,
    (hclock now (by decide)).2 (by decide) (by decide)⟩

end CommandRelay.Probe
