import CommandRelay.Proofs.Client.Restoration

/-!
# Signals that come while the local terminal is raw

A session catches signals from its last opening step but one until the channel ends.  In that time
a signal is passed on; while the connection is being given up it does nothing.  Before that time a
signal kills the program, and the terminal may be raw already.

## Main definitions

* `Client.Session.Watched` — what always holds of a session's care for signals.

## Main results

* `Client.Session.Watched.turn` — every turn keeps it.
* `Client.Session.killed_of_runAt` — only a signal that comes before signals are caught kills.
* `Client.Session.raw_signals` — what becomes of a signal while the terminal is raw.
* `Client.Session.killed_raw` — a run that is killed with a raw terminal.
-/

namespace CommandRelay.Client

open Terminal (Pty)

/-- Whether a session in this phase opens or passes things on. -/
def Phase.IsUnderWay (p : Phase) : Prop := p = .running ∨ ∃ steps, p = .opening steps

/-- No session that is over is under way. -/
lemma Phase.IsOver.not_isUnderWay {p : Phase} (h : p.IsOver) : ¬ p.IsUnderWay := by
  rcases h with ⟨code, rfl⟩ | ⟨cause, rfl⟩ <;> simp [IsUnderWay]

namespace Session

/-! ## Care for signals -/

/-- What always holds of a session's care for signals. -/
structure Watched (s : Session) : Prop where
  /-- Until the channel ends, signals are deadly or passed on, and one step makes the difference. -/
  caught : s.phase.IsUnderWay → s.remaining.count .catchSignals ≤ 1 ∧
    s.signals = if .catchSignals ∈ s.remaining then .deadly else .forwarded
  leaving : s.phase = .leaving → s.signals = .ignored

/-- Catching signals is one step of a session. -/
lemma count_catchSignals (p : Plan) (terminals : Streams) :
    (openings p terminals).count .catchSignals = 1 := by
  rw [count_openings (by simp)]
  obtain ⟨stdin, stdout, stderr⟩ := terminals
  cases stdin <;> cases stdout <;> cases stderr <;> rfl

/-- In a new session signals are yet to be caught, exactly once. -/
lemma watched_ofPlan (p : Plan) (terminals : Streams) : (ofPlan p terminals).Watched where
  caught _ := by
    have hmem : Opening.catchSignals ∈ openings p terminals :=
      List.count_pos_iff.1 (by rw [count_catchSignals]; exact Nat.one_pos)
    show (openings p terminals).count .catchSignals ≤ 1 ∧
      SignalCare.deadly = if .catchSignals ∈ openings p terminals then .deadly else .forwarded
    rw [count_catchSignals, if_pos hmem]
    exact ⟨Nat.le_refl 1, rfl⟩
  leaving h := by cases h

namespace Watched

variable {s : Session} {t : Pty}

/-- A session in which an opening step was taken. -/
lemma perform (h : s.Watched) {o : Opening} {rest : List Opening}
    (hphase : s.phase = .opening (o :: rest)) :
    Watched { (s.perform t o).1 with phase := phaseOf rest } := by
  have hremaining : s.remaining = o :: rest := by simp [remaining, hphase]
  have hnext : remaining { (s.perform t o).1 with phase := phaseOf rest } = rest :=
    remaining_phaseOf rfl
  obtain ⟨hcount, hsignals⟩ := h.caught (.inr ⟨_, hphase⟩)
  rw [hremaining] at hcount hsignals
  refine ⟨fun _ => ?_, fun hleaving => by cases rest <;> cases hleaving⟩
  rw [hnext]
  show rest.count .catchSignals ≤ 1 ∧ (s.perform t o).1.signals = _
  by_cases hcatch : o = .catchSignals
  · subst hcatch
    rw [List.count_cons_self] at hcount
    have hnone : Opening.catchSignals ∉ rest := List.count_eq_zero.1 (by omega)
    rw [if_neg hnone]
    exact ⟨by omega, rfl⟩
  · have hkept : (s.perform t o).1.signals = s.signals := by
      cases o <;> first | rfl | exact absurd rfl hcatch
    rw [List.count_cons_of_ne hcatch] at hcount
    rw [hkept, hsignals]
    have hmem : Opening.catchSignals ∈ o :: rest ↔ Opening.catchSignals ∈ rest := by
      simp [Ne.symm hcatch]
    exact ⟨hcount, by simp only [hmem]⟩

/-- **Every turn** keeps what always holds. -/
lemma turn (h : s.Watched) {e : Event} {r : Session × List Effect} (hturn : Turn t s e r) :
    r.1.Watched := by
  cases hturn with
  | perform o rest hphase => exact h.perform hphase
  | finish e last hlast =>
    refine ⟨fun hway => absurd hway hlast.not_isUnderWay, fun hleaving => ?_⟩
    have hleaving' : last = .leaving := hleaving
    rcases hlast with ⟨code, rfl⟩ | ⟨cause, rfl⟩ <;> cases hleaving'
  | kill n => exact ⟨fun hway => by simp [Phase.IsUnderWay] at hway,
      fun hleaving => by cases hleaving⟩
  | leave => exact ⟨fun hway => by simp [leave, Phase.IsUnderWay] at hway, fun _ => rfl⟩
  | quiet e r hsame =>
    obtain ⟨hphase, -, -, hsignals, hremaining⟩ := fields_of_custody hsame
    exact ⟨by rw [hphase, hremaining, hsignals]; exact h.caught,
      by rw [hphase, hsignals]; exact h.leaving⟩

end Watched

/-! ## Runs -/

/-- The care for signals is what it should be in every run. -/
lemma watched_runAt {s : Session} (h : s.Watched) (t : Pty) (moments : List Moment) :
    (s.runAt t moments).1.Watched := by
  induction moments generalizing s t with
  | nil => exact h
  | cons moment moments ih =>
    exact ih (h.turn (Session.turn (t.resize moment.1) s moment.2)) _

/-- **Only a signal that comes before signals are caught kills**, and it does not if it says that a
pipe is broken.

**Proof sketch.** Induction on the moments.  If the first event kills, it is a signal during the
opening that finds signals deadly, and then they are still to be caught, since a session that has
caught them forwards them.  Otherwise the session is not yet killed after it, and the rest of the
run has the signal. -/
lemma killed_of_runAt {s : Session} (h : s.Watched) {t : Pty} {moments : List Moment} {n : Signal}
    (hkilled : (s.runAt t moments).1.phase = .killed n) :
    s.phase = .killed n ∨ ∃ before size after, moments = before ++ (size, .signal n) :: after ∧
      n ≠ .pipe ∧ .catchSignals ∈ (s.runAt t before).1.remaining := by
  induction moments generalizing s t with
  | nil => exact .inl hkilled
  | cons moment moments ih =>
    obtain ⟨size, e⟩ := moment
    have hturn := Session.turn (t.resize size) s e
    rcases ih (h.turn hturn) hkilled with hnow | ⟨before, size', after, rfl, hpipe, hmem⟩
    · -- the first event kills: it can only be a signal
      generalize hr : s.step (t.resize size) e = r at hturn hnow
      cases hturn with
      | perform o rest => cases rest <;> cases hnow
      | finish e last hlast =>
        have hlast' : last = .killed n := hnow
        rcases hlast with ⟨code, rfl⟩ | ⟨cause, rfl⟩ <;> cases hlast'
      | kill n' hopening hpipe hdeadly =>
        cases hnow
        refine .inr ⟨[], size, moments, rfl, hpipe, ?_⟩
        show Opening.catchSignals ∈ s.remaining
        by_contra hmem
        obtain ⟨-, hsignals⟩ := h.caught (.inr hopening)
        rw [if_neg hmem, hdeadly] at hsignals
        cases hsignals
      | leave => cases hnow
      | quiet e r hsame =>
        have hphase : r.1.phase = s.phase := congrArg Prod.fst hsame
        exact .inl (hphase ▸ hnow)
    · exact .inr ⟨(size, e) :: before, size', after, rfl, hpipe, hmem⟩

/-! ## Signals and the raw terminal -/

/-- Once signals are caught, a signal is passed on and nothing else happens. -/
lemma step_signal_of_caught {s : Session} (h : s.Watched) (hway : s.phase.IsUnderWay)
    (hcaught : .catchSignals ∉ s.remaining) (t : Pty) (n : Signal) :
    s.step t (.signal n) = (s, [.send (.signal (.ofSignal n))]) := by
  obtain ⟨-, hsignals⟩ := h.caught hway
  rw [if_neg hcaught] at hsignals
  rcases hway with hrunning | ⟨steps, hopening⟩
  · simp [step, hrunning, pass]
  · simp [step, hopening, endure, hsignals]

/-- **Signals that come while the local terminal is raw.** From the step on in which signals are
caught, a signal is passed on until the channel is left, and does nothing from then on; either way
the session lives on, and the terminal gets its attributes back when it is over.  A session is
killed only by a signal that comes before that step, when the terminal may be raw already.

**Proof sketch.** One step makes signals harmless, and it is taken once; no turn makes them deadly
again. -/
theorem raw_signals (p : Plan) (terminals : Streams) (t : Pty) (moments : List Moment) :
    let s := ((ofPlan p terminals).runAt t moments).1
    (s.isRaw → .catchSignals ∉ s.remaining → (∃ n, s.phase = .killed n) ∨
      (s.phase ≠ .leaving ∧ ∀ t n, s.step t (.signal n) = (s, [.send (.signal (.ofSignal n))])) ∨
      (s.phase = .leaving ∧ ∀ t n, s.step t (.signal n) = (s, []))) ∧
    ∀ n, s.phase = .killed n → ∃ before size after,
      moments = before ++ (size, .signal n) :: after ∧ n ≠ .pipe ∧
        .catchSignals ∈ ((ofPlan p terminals).runAt t before).1.remaining := by
  intro s
  have hwatched : s.Watched := watched_runAt (watched_ofPlan p terminals) t moments
  obtain ⟨hguarded, -⟩ := guarded_runAt (guarded_ofPlan p terminals t.attributes) moments
  refine ⟨fun hraw hcaught => ?_, fun n hkilled => ?_⟩
  · have hopen : ¬ s.phase.IsOver := by
      intro hover
      have hnone : s.saved = none := hguarded.atEnd hover
      simp [isRaw, hnone] at hraw
    cases hphase : s.phase with
    | opening steps =>
      exact .inr (.inl ⟨by simp, step_signal_of_caught hwatched (.inr ⟨steps, hphase⟩) hcaught⟩)
    | running =>
      exact .inr (.inl ⟨by simp, step_signal_of_caught hwatched (.inl hphase) hcaught⟩)
    | leaving => exact .inr (.inr ⟨rfl, fun t n => by simp [step, hphase]⟩)
    | killed n => exact .inl ⟨n, rfl⟩
    | ended code => exact absurd (.inl ⟨code, hphase⟩) hopen
    | failed cause => exact absurd (.inr ⟨cause, hphase⟩) hopen
  · exact (killed_of_runAt (watched_ofPlan p terminals) hkilled).resolve_left (by simp [ofPlan])

/-- A request to terminate that comes when a raw session is running is passed on, and the session
runs on. -/
theorem raw_signals_running :
    let p : Plan := ⟨default, .empty, {}, none⟩
    let t : Pty := ⟨⟨80, 24, 0, 0⟩, Pty.freshAttributes⟩
    let opened : List Moment := (successes (openings p .all)).map fun e => (t.size, e)
    let s := ((ofPlan p .all).runAt t opened).1
    s.isRaw ∧ .catchSignals ∉ s.remaining ∧ s.phase = .running ∧
      s.step t (.signal .term) = (s, [.send (.signal (.ofSignal .term))]) := by
  intro p t opened s
  have hraw : s.isRaw := by decide
  have hcaught : .catchSignals ∉ s.remaining := by decide
  have hrunning : s.phase = .running := by decide
  refine ⟨hraw, hcaught, hrunning, ?_⟩
  rcases (raw_signals p .all t opened).1 hraw hcaught
    with ⟨n, hkilled⟩ | ⟨-, hpassed⟩ | ⟨hleaving, -⟩
  · cases hrunning.symm.trans hkilled
  · exact hpassed t .term
  · cases hrunning.symm.trans hleaving

/-- A request to terminate that comes between raw mode and the step in which signals are caught
kills the program, and the terminal stays raw. -/
theorem killed_raw :
    let p : Plan := ⟨default, .empty, {}, none⟩
    let t : Pty := ⟨⟨80, 24, 0, 0⟩, Pty.freshAttributes⟩
    let opened : List Moment := List.replicate 8 (t.size, .opened)
    let r := (ofPlan p .all).runAt t opened
    let r' := (ofPlan p .all).runAt t (opened ++ [(t.size, .signal .term)])
    r.1.isRaw ∧ r.1.signals ≠ .forwarded ∧
      r'.1.phase = .killed .term ∧ r'.2.1.attributes.modelled ≠ t.attributes.modelled := by
  decide

end Session

end CommandRelay.Client
