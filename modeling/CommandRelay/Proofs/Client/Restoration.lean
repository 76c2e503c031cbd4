import CommandRelay.Proofs.Client.Opening

/-!
# The local terminal is left as it was

Whatever happens to a session, and wherever it fails, the local terminal has its attributes again
when the session is over.  It is changed only if both output streams are terminals.

What an event can do to the terminal depends on a few things only: the phase, the saved attributes
and what becomes of signals.  `Session.turn` says once what an event can do to these, and what must
hold of the terminal is kept by each of these turns.

## Main definitions

* `Client.Session.Turn` — what an event can do to a session.
* `Client.Moment`, `Client.Session.runAt` — a run during which others resize the local terminal.
* `Client.Session.Guarded` — what always holds of a session and the attributes of the terminal.

## Main results

* `Client.Session.turn` — an event does nothing else.
* `Client.Session.Guarded.turn`, `guarded_runAt` — a turn keeps what always holds, and so does a
  run.
* `Client.Session.restored` — the local terminal is left as it was.
-/

namespace CommandRelay

open Terminal (Pty)

namespace Client

/-! ## Turns -/

/-- Whether a session in this phase has come to its end by itself. -/
def Phase.IsOver (p : Phase) : Prop := (∃ code, p = .ended code) ∨ ∃ cause, p = .failed cause

namespace Session

/-- A session that has a result is over. -/
lemma isOver_of_result {s : Session} (h : s.result?.isSome) : s.phase.IsOver := by
  cases hphase : s.phase with
  | ended code => exact .inl ⟨code, rfl⟩
  | failed cause => exact .inr ⟨cause, rfl⟩
  | _ => simp [result?, hphase] at h

/-- The steps that remain on the way to a running command. -/
def remaining (s : Session) : List Opening :=
  match s.phase with
  | .opening steps => steps
  | _ => []

/-- Whether steps remain or not, the session is not over. -/
lemma not_isOver_phaseOf (steps : List Opening) : ¬ (phaseOf steps).IsOver := by
  cases steps <;> simp [phaseOf, Phase.IsOver]

/-- The steps that remain can be read off the phase. -/
lemma remaining_phaseOf {s : Session} {steps : List Opening} (h : s.phase = phaseOf steps) :
    s.remaining = steps := by
  cases steps <;> simp [remaining, h, phaseOf]

/-- What a session holds of the local terminal and of signals, and how far it is. -/
def custody (s : Session) : Phase × Streams × Option Terminal.Attributes × SignalCare :=
  (s.phase, s.terminals, s.saved, s.signals)

/-- Sessions of the same custody agree in each part of it. -/
lemma fields_of_custody {s s' : Session} (h : s'.custody = s.custody) :
    s'.phase = s.phase ∧ s'.terminals = s.terminals ∧ s'.saved = s.saved ∧
      s'.signals = s.signals ∧ s'.remaining = s.remaining := by
  obtain ⟨hphase, hterminals, hsaved, hsignals⟩ : s'.phase = s.phase ∧
      s'.terminals = s.terminals ∧ s'.saved = s.saved ∧ s'.signals = s.signals := by
    simpa [custody] using h
  exact ⟨hphase, hterminals, hsaved, hsignals, by rw [remaining, remaining, hphase]⟩

/-- What an event can do to a session, as far as its custody goes. -/
inductive Turn (t : Pty) (s : Session) : Event → Session × List Effect → Prop
  /-- The next opening step is taken. -/
  | perform (o : Opening) (rest : List Opening) (h : s.phase = .opening (o :: rest)) :
    Turn t s .opened ({ (s.perform t o).1 with phase := phaseOf rest }, (s.perform t o).2)
  /-- The session comes to its end. -/
  | finish (e : Event) (last : Phase) (hlast : last.IsOver) : Turn t s e (s.finish last)
  /-- A signal kills the program. -/
  | kill (n : Signal) (hopening : ∃ steps, s.phase = .opening steps) (hpipe : n ≠ .pipe)
    (hdeadly : s.signals = .deadly) : Turn t s (.signal n) ({ s with phase := .killed n }, [])
  /-- The channel is left. -/
  | leave (e : Event) (h : s.phase = .running) : Turn t s e s.leave
  /-- Everything in custody stays. -/
  | quiet (e : Event) (r : Session × List Effect) (hsame : r.1.custody = s.custody)
    (hplain : ∀ a, Effect.setAttributes a ∉ r.2) : Turn t s e r

/-- Effects that set no attributes leave the local terminal alone. -/
lemma foldl_applyTo_of_plain {effects : List Effect}
    (h : ∀ a, Effect.setAttributes a ∉ effects) (t : Pty) :
    effects.foldl Effect.applyTo t = t := by
  induction effects generalizing t with
  | nil => rfl
  | cons effect effects ih =>
    have hfirst : effect.applyTo t = t := by
      cases effect with
      | setAttributes a => exact absurd List.mem_cons_self (h a)
      | _ => rfl
    rw [List.foldl_cons, hfirst]
    exact ih (fun a ha => h a (List.mem_cons_of_mem _ ha)) t

/-- Nothing happens. -/
lemma Turn.nothing (t : Pty) (s : Session) (e : Event) : Turn t s e (s, []) :=
  .quiet e _ rfl (by simp)

/-- What is received while things are passed on is a turn. -/
lemma turn_receive {s : Session} (h : s.phase = .running) (t : Pty) (m : AgentMessage) :
    Turn t s (.received m) (s.receive m) := by
  cases m with
  | close => exact .leave _ h
  | reply accepted =>
    cases accepted with
    | true => exact .quiet _ _ rfl (by simp [receive])
    | false =>
      rw [receive]
      split_ifs
      · exact .nothing t s _
      · exact .finish _ _ (.inr ⟨_, rfl⟩)
  | data | errorData | exitStatus | exitSignal | eof => exact .quiet _ _ rfl (by simp [receive])

/-- Every event while things are passed on is a turn. -/
lemma turn_pass {s : Session} (h : s.phase = .running) (t : Pty) (e : Event) :
    Turn t s e (s.pass t e) := by
  cases e with
  | received m => exact turn_receive h t m
  | unwritable cause => exact .finish _ _ (.inr ⟨_, rfl⟩)
  | lost => exact .leave _ h
  | signal | resized =>
    refine .quiet _ _ rfl fun a => ?_
    simp only [pass]
    try split_ifs
    all_goals simp
  | input | inputEnded =>
    simp only [pass]
    split_ifs <;> exact .quiet _ _ rfl (by simp)
  | opened | failed | disconnected => exact .nothing t s _

/-- A signal during the opening is a turn. -/
lemma turn_endure {s : Session} (h : ∃ steps, s.phase = .opening steps) (t : Pty) (n : Signal) :
    Turn t s (.signal n) (s.endure n) := by
  cases hcare : s.signals with
  | deadly =>
    by_cases hpipe : n = .pipe
    · have hendure : s.endure n = (s, []) := by simp [endure, hcare, hpipe]
      exact hendure ▸ .nothing t s _
    · have hendure : s.endure n = ({ s with phase := .killed n }, []) := by
        simp [endure, hcare, hpipe]
      exact hendure ▸ .kill n h hpipe hcare
  | forwarded => exact .quiet _ _ (by simp [endure, hcare]) (by simp [endure, hcare])
  | ignored => exact .quiet _ _ (by simp [endure, hcare]) (by simp [endure, hcare])

/-- **What an event can do** to a session.

**Proof sketch.** By cases of the phase, and before things are passed on of the event as well.  In
each case the step is known from the definition, and one constructor of `Turn` describes it; all
that does nothing is quiet. -/
theorem turn (t : Pty) (s : Session) (e : Event) : Turn t s e (s.step t e) := by
  cases hphase : s.phase with
  | opening steps =>
    cases e with
    | opened =>
      cases steps with
      | nil =>
        have hstep : s.step t .opened = (s, []) := by simp [step, hphase]
        exact hstep ▸ .nothing t s _
      | cons o rest =>
        have hstep : s.step t .opened =
            ({ (s.perform t o).1 with phase := phaseOf rest }, (s.perform t o).2) :=
          step_opened hphase t
        exact hstep ▸ .perform o rest hphase
    | failed cause =>
      have hstep : s.step t (.failed cause) = s.finish (.failed cause) := by simp [step, hphase]
      exact hstep ▸ .finish _ _ (.inr ⟨_, rfl⟩)
    | signal n =>
      have hstep : s.step t (.signal n) = s.endure n := by simp [step, hphase]
      exact hstep ▸ turn_endure ⟨steps, hphase⟩ t n
    | _ =>
      refine .quiet _ _ ?_ ?_ <;> simp [step, hphase]
  | running =>
    have hstep : s.step t e = s.pass t e := by simp [step, hphase]
    exact hstep ▸ turn_pass hphase t e
  | leaving =>
    cases e with
    | disconnected =>
      have hstep : s.step t .disconnected = s.finish (.ended s.report.code) := by
        simp [step, hphase]
      exact hstep ▸ .finish _ _ (.inl ⟨_, rfl⟩)
    | _ => refine .quiet _ _ ?_ ?_ <;> simp [step, hphase]
  | ended | failed | killed =>
    refine .quiet _ _ ?_ ?_ <;> simp [step, hphase]

/-! ## What always holds -/

/-- What always holds of a session and the attributes `now` of the local terminal, where these were
`start` before the session. -/
structure Guarded (terminals : Streams) (start now : Terminal.Attributes) (s : Session) : Prop where
  same : s.terminals = terminals
  /-- With nothing to go back to, the terminal is as it was. -/
  plain : s.saved = none → now.modelled = start.modelled
  /-- With something to go back to, this is how the terminal was, and the terminal is raw. -/
  raw : ∀ a, s.saved = some a →
    a = start.modelled ∧ now = a.makeRaw ∧ terminals.wantsRawMode = true
  /-- Raw mode is entered once. -/
  once : s.remaining.count .enterRaw + s.saved.isSome.toNat ≤ 1
  asked : .enterRaw ∈ s.remaining → terminals.wantsRawMode = true
  atEnd : s.phase.IsOver → s.saved = none

/-- What was read of a terminal has lost what is not modelled already. -/
lemma modelled_modelled (a : Terminal.Attributes) : a.modelled.modelled = a.modelled := by
  simp [Terminal.Attributes.modelled, UInt32.and_assoc]

/-- How often a step is taken that sends no variable: that does not depend on the task. -/
lemma count_openings {o : Opening} (h : ∀ name value, o ≠ .sendVariable name value) (p : Plan)
    (terminals : Streams) : (openings p terminals).count o =
      (approach ++ terminalOpenings terminals ++
        [Opening.sendMetadata, .start, .catchSignals, .readInput]).count o := by
  have hvariables : (p.env.entries.map fun e => Opening.sendVariable e.1 e.2).count o = 0 := by
    refine List.count_eq_zero.2 fun hmem => ?_
    obtain ⟨e, -, he⟩ := List.mem_map.1 hmem
    exact h e.1 e.2 he.symm
  simp only [openings, approach, List.count_append, hvariables, Nat.add_zero]

/-- Raw mode is a step of a session if both output streams are terminals, and one step then. -/
lemma count_enterRaw (p : Plan) (terminals : Streams) :
    (openings p terminals).count .enterRaw = terminals.wantsRawMode.toNat := by
  rw [count_openings (by simp)]
  obtain ⟨stdin, stdout, stderr⟩ := terminals
  cases stdin <;> cases stdout <;> cases stderr <;> rfl

/-- It holds before a session opens. -/
lemma guarded_ofPlan (p : Plan) (terminals : Streams) (start : Terminal.Attributes) :
    Guarded terminals start start (ofPlan p terminals) where
  same := rfl
  plain _ := rfl
  raw a h := by simp [ofPlan] at h
  once := by
    show (openings p terminals).count .enterRaw + 0 ≤ 1
    rw [count_enterRaw]
    exact Bool.toNat_le _
  asked h := by
    have hcount : 0 < (openings p terminals).count .enterRaw := List.count_pos_iff.2 h
    rw [count_enterRaw] at hcount
    simpa using Nat.ne_of_gt hcount
  atEnd h := by simp [ofPlan, Phase.IsOver] at h

namespace Guarded

variable {terminals : Streams} {start : Terminal.Attributes} {t : Pty} {s : Session}

/-- It is about what a session has in custody. -/
lemma of_custody {now : Terminal.Attributes} (h : Guarded terminals start now s) {s' : Session}
    (hsame : s'.custody = s.custody) : Guarded terminals start now s' := by
  obtain ⟨hphase, hterminals, hsaved, -, hremaining⟩ := fields_of_custody hsame
  exact {
    same := hterminals.trans h.same
    plain := by rw [hsaved]; exact h.plain
    raw := by rw [hsaved]; exact h.raw
    once := by rw [hremaining, hsaved]; exact h.once
    asked := by rw [hremaining]; exact h.asked
    atEnd := by rw [hphase, hsaved]; exact h.atEnd }

/-- A session may come to another phase in which no step remains and which is not its end. -/
lemma of_phase {now : Terminal.Attributes} (h : Guarded terminals start now s) {s' : Session}
    (hterminals : s'.terminals = s.terminals) (hsaved : s'.saved = s.saved)
    (hremaining : s'.remaining = []) (hover : ¬ s'.phase.IsOver) :
    Guarded terminals start now s' where
  same := hterminals.trans h.same
  plain := by rw [hsaved]; exact h.plain
  raw := by rw [hsaved]; exact h.raw
  once := by
    rw [hremaining, hsaved]
    exact Nat.le_trans (Nat.add_le_add_right (Nat.zero_le _) _) h.once
  asked := by simp [hremaining]
  atEnd hends := absurd hends hover

/-- The end of a session gives the terminal its attributes back. -/
lemma finish (h : Guarded terminals start t.attributes s) {last : Phase} (hlast : last.IsOver) :
    Guarded terminals start ((s.finish last).2.foldl Effect.applyTo t).attributes
      (s.finish last).1 where
  same := h.same
  plain _ := by
    show ((s.saved.toList.map Effect.setAttributes).foldl Effect.applyTo t).attributes.modelled = _
    cases hsaved : s.saved with
    | none => exact h.plain hsaved
    | some a =>
      obtain ⟨rfl, -⟩ := h.raw a hsaved
      exact modelled_modelled start
  raw a ha := by cases ha
  once := by
    have hremaining : (s.finish last).1.remaining = [] := by
      rcases hlast with ⟨code, rfl⟩ | ⟨cause, rfl⟩ <;> rfl
    rw [hremaining]
    exact Nat.zero_le _
  asked hmem := by
    rcases hlast with ⟨code, rfl⟩ | ⟨cause, rfl⟩ <;> cases hmem
  atEnd _ := rfl

/-- Raw mode saves the attributes of the terminal that it changes. -/
lemma enterRaw (h : Guarded terminals start t.attributes s) {rest : List Opening}
    (hphase : s.phase = .opening (.enterRaw :: rest)) :
    Guarded terminals start ((s.perform t .enterRaw).2.foldl Effect.applyTo t).attributes
      { (s.perform t .enterRaw).1 with phase := phaseOf rest } := by
  have hremaining : s.remaining = .enterRaw :: rest := by simp [remaining, hphase]
  have hnext : remaining { (s.perform t .enterRaw).1 with phase := phaseOf rest } = rest :=
    remaining_phaseOf rfl
  have honce := h.once
  rw [hremaining, List.count_cons_self] at honce
  -- the step is taken once only, so nothing has been saved and it does not come again
  have hnone : s.saved = none := by
    cases hsaved : s.saved with
    | none => rfl
    | some a => simp [hsaved] at honce
  have hrest : rest.count .enterRaw = 0 := by omega
  exact {
    same := h.same
    plain := fun hsaved => by simp [perform] at hsaved
    raw := fun a ha => by
      obtain rfl : t.attributes.modelled = a := Option.some.inj ha
      exact ⟨h.plain hnone, rfl, h.asked (by simp [hremaining])⟩
    once := by
      rw [hnext, hrest]
      simp [perform]
    asked := fun hmem => by
      rw [hnext] at hmem
      exact absurd hmem (List.count_eq_zero.1 hrest)
    atEnd := fun hends => absurd hends (not_isOver_phaseOf rest) }

/-- Opening steps keep what always holds.

**Proof sketch.** Entering raw mode is a case of its own.  All other steps leave the terminal and
what was saved alone, and take themselves off the steps that remain, so that entering raw mode is
still to come at most once. -/
lemma perform (h : Guarded terminals start t.attributes s) {o : Opening} {rest : List Opening}
    (hphase : s.phase = .opening (o :: rest)) :
    Guarded terminals start ((s.perform t o).2.foldl Effect.applyTo t).attributes
      { (s.perform t o).1 with phase := phaseOf rest } := by
  by_cases hraw : o = .enterRaw
  · subst hraw
    exact h.enterRaw hphase
  have hremaining : s.remaining = o :: rest := by simp [remaining, hphase]
  have hnext : remaining { (s.perform t o).1 with phase := phaseOf rest } = rest :=
    remaining_phaseOf rfl
  have hsaved : (s.perform t o).1.saved = s.saved := by
    cases o <;> first | rfl | exact absurd rfl hraw
  have hterminals : (s.perform t o).1.terminals = s.terminals :=
    congrArg (fun c : Plan × Streams × Bool × ExitReport × Bool => c.2.1) (heard_perform s t o)
  have honce := h.once
  rw [hremaining, List.count_cons_of_ne hraw] at honce
  rw [applyTo_perform hraw]
  exact {
    same := hterminals.trans h.same
    plain := fun hnone => h.plain (hsaved ▸ hnone)
    raw := fun a ha => h.raw a (hsaved ▸ ha)
    once := by
      rw [hnext]
      show rest.count .enterRaw + (s.perform t o).1.saved.isSome.toNat ≤ 1
      rw [hsaved]
      exact honce
    asked := fun hmem => by
      rw [hnext] at hmem
      exact h.asked (by rw [hremaining]; exact List.mem_cons_of_mem _ hmem)
    atEnd := fun hends => absurd hends (not_isOver_phaseOf rest) }

/-- **Each turn** keeps what always holds. -/
lemma turn (h : Guarded terminals start t.attributes s) {e : Event} {r : Session × List Effect}
    (hturn : Turn t s e r) :
    Guarded terminals start (r.2.foldl Effect.applyTo t).attributes r.1 := by
  cases hturn with
  | perform o rest hphase => exact h.perform hphase
  | finish e last hlast => exact h.finish hlast
  | kill n => exact h.of_phase rfl rfl rfl (by simp [Phase.IsOver])
  | leave => exact h.of_phase rfl rfl rfl (by simp [leave, Phase.IsOver])
  | quiet e r hsame hplain =>
    rw [foldl_applyTo_of_plain hplain]
    exact h.of_custody hsame

/-- The terminal is changed only where raw mode makes sense. -/
lemma wantsRawMode_of_turn (h : Guarded terminals start t.attributes s) {e : Event}
    {r : Session × List Effect} (hturn : Turn t s e r) {a : Terminal.Attributes}
    (ha : .setAttributes a ∈ r.2) : terminals.wantsRawMode = true := by
  cases hturn with
  | perform o rest hphase =>
    by_cases hraw : o = .enterRaw
    · exact h.asked (by simp [remaining, hphase, hraw])
    · cases o <;> simp [Session.perform, Opening.message?] at ha hraw
  | finish e last hlast =>
    obtain ⟨a', ha', -⟩ := List.mem_map.1 ha
    exact (h.raw a' (Option.mem_toList.1 ha')).2.2
  | kill n => cases ha
  | leave => simp [leave] at ha
  | quiet e r hsame hplain => exact absurd ha (hplain a)

end Guarded

/-! ## Whole runs -/

end Session

/-- An event, and the geometry that the local terminal has by then. -/
abbrev Moment := Terminal.Size × Event

namespace Session

/-- What events do one after another to a session and to the local terminal, whose geometry others
change meanwhile. -/
def runAt (s : Session) (t : Pty) : List Moment → Session × Pty × List Effect
  | [] => (s, t, [])
  | (size, e) :: moments =>
    let (s, now) := s.step (t.resize size) e
    let (s, t, later) := s.runAt (now.foldl Effect.applyTo (t.resize size)) moments
    (s, t, now ++ later)

/-- **A run** keeps what always holds, and changes the terminal only where raw mode makes sense. -/
lemma guarded_runAt {terminals : Streams} {start : Terminal.Attributes} {s : Session} {t : Pty}
    (h : Guarded terminals start t.attributes s) (moments : List Moment) :
    Guarded terminals start (s.runAt t moments).2.1.attributes (s.runAt t moments).1 ∧
      ∀ a, Effect.setAttributes a ∈ (s.runAt t moments).2.2 → terminals.wantsRawMode = true := by
  induction moments generalizing s t with
  | nil => exact ⟨h, fun a ha => by cases ha⟩
  | cons moment moments ih =>
    obtain ⟨size, e⟩ := moment
    have hsized : Guarded terminals start (t.resize size).attributes s := h
    have hturn := Session.turn (t.resize size) s e
    obtain ⟨hlater, heffects⟩ := ih (hsized.turn hturn)
    refine ⟨hlater, fun a ha => ?_⟩
    rcases List.mem_append.1 ha with ha | ha
    · exact hsized.wantsRawMode_of_turn hturn ha
    · exact heffects a ha

/-- **The local terminal is left as it was.** For every task, every set of terminals and every run,
in which opening steps succeed and fail, messages, signals, input and changes of geometry come in
any order, and output cannot be written or the channel is lost at any time: when the session is
over, the local terminal has the attributes that it had before, as far as these are modelled, and
the terminal is changed only if the output and the error output are both terminals.

**Proof sketch.** At every moment either nothing is saved and the terminal is as it was, or what it
was is saved.  Raw mode is one step and saves the attributes that it changes, and every end gives
them back. -/
theorem restored (p : Plan) (terminals : Streams) (t : Pty) (moments : List Moment) :
    let r := (ofPlan p terminals).runAt t moments
    (r.1.result?.isSome → r.2.1.attributes.modelled = t.attributes.modelled) ∧
      (r.1.isRaw → terminals.stdout = true ∧ terminals.stderr = true) ∧
      ∀ a, Effect.setAttributes a ∈ r.2.2 → terminals.stdout = true ∧ terminals.stderr = true := by
  intro r
  obtain ⟨hguarded, heffects⟩ := guarded_runAt (guarded_ofPlan p terminals t.attributes) moments
  have hboth : terminals.wantsRawMode = true → terminals.stdout = true ∧ terminals.stderr = true :=
    fun h => by simpa [Streams.wantsRawMode] using h
  refine ⟨fun hresult => hguarded.plain (hguarded.atEnd (isOver_of_result hresult)), ?_, ?_⟩
  · intro hraw
    obtain ⟨a, ha⟩ := Option.isSome_iff_exists.1 hraw
    exact hboth (hguarded.raw a ha).2.2
  · intro a ha
    exact hboth (heffects a ha)

/-- A terminal that is raw when the agent refuses the command is not raw afterwards, although it was
resized meanwhile. -/
theorem restored_refused :
    let p : Plan := ⟨default, .empty, {}, none⟩
    let t : Pty := ⟨⟨80, 24, 0, 0⟩, Pty.freshAttributes⟩
    let opening : List Moment := (successes (openings p .all)).map fun e => (t.size, e)
    let refused : List Moment := opening ++ [(⟨132, 24, 0, 0⟩, .received (.reply false))]
    let r := (ofPlan p .all).runAt t opening
    let r' := (ofPlan p .all).runAt t refused
    r.1.isRaw ∧ r.2.1.attributes ≠ t.attributes ∧
      r'.1.phase = .failed .refused ∧ r'.2.1.attributes.modelled = t.attributes.modelled := by
  intro p t opening refused r r'
  refine ⟨by decide, by decide, by decide, ?_⟩
  exact (restored p .all t refused).1 (by decide)

end Session

end Client

end CommandRelay
