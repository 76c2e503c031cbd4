import CommandRelay.Client.Session
import Mathlib.Data.List.Basic
import Mathlib.Tactic.Common

/-!
# How a session opens

A session whose opening steps all succeed sends what its steps are to send, in their order, and
comes to the loop that passes things on.  It has not heard anything of the agent by then.

## Main definitions

* `Client.sent` — the messages among some effects.
* `Client.Session.afterOpening` — a session all of whose opening steps have succeeded.
* `Client.Session.heard` — what no opening step changes.

## Main results

* `Client.Session.run_append` — running some events and then others.
* `Client.Session.run_opened` — a stretch of opening steps.
* `Client.Session.afterOpening_spec` — the whole opening: its messages, and the state after it.
-/

namespace CommandRelay.Client

open Terminal (Pty)

/-- The messages among some effects. -/
def sent (effects : List Effect) : List ClientMessage :=
  effects.filterMap fun
    | .send m => some m
    | _ => none

/-- Effects one after another send what each of them does. -/
@[simp] lemma sent_append (a b : List Effect) : sent (a ++ b) = sent a ++ sent b :=
  List.filterMap_append

namespace Session

/-! ## Runs -/

/-- A run handles its first event, on a terminal as the effects leave it, and then the others. -/
lemma run_cons (s : Session) (t : Pty) (e : Event) (events : List Event) :
    s.run t (e :: events) =
      (((s.step t e).1.run ((s.step t e).2.foldl Effect.applyTo t) events).1,
        ((s.step t e).1.run ((s.step t e).2.foldl Effect.applyTo t) events).2.1,
        (s.step t e).2 ++
          ((s.step t e).1.run ((s.step t e).2.foldl Effect.applyTo t) events).2.2) := rfl

/-- A run of some events and then others is a run of all. -/
lemma run_append (s : Session) (t : Pty) (a b : List Event) :
    s.run t (a ++ b) =
      (((s.run t a).1.run (s.run t a).2.1 b).1, ((s.run t a).1.run (s.run t a).2.1 b).2.1,
        (s.run t a).2.2 ++ ((s.run t a).1.run (s.run t a).2.1 b).2.2) := by
  induction a generalizing s t with
  | nil => rfl
  | cons e a ih =>
    rw [List.cons_append, run_cons, ih, run_cons, List.append_assoc]

/-! ## One opening step -/

/-- What no opening step changes: the task, and what has been heard of the agent. -/
def heard (s : Session) : Plan × Streams × Bool × ExitReport × Bool :=
  (s.plan, s.terminals, s.started, s.report, s.inputOpen)

/-- A session with steps before it takes the next one when that succeeds. -/
lemma step_opened {s : Session} {o : Opening} {rest : List Opening}
    (h : s.phase = phaseOf (o :: rest)) (t : Pty) :
    s.step t .opened = ({ (s.perform t o).1 with phase := phaseOf rest }, (s.perform t o).2) := by
  have h' : s.phase = .opening (o :: rest) := h
  simp [step, h']

/-- An opening step leaves alone what has been heard. -/
lemma heard_perform (s : Session) (t : Pty) (o : Opening) :
    (s.perform t o).1.heard = s.heard := by
  cases o <;> rfl

/-- A step sends what is to be sent in it, and nothing else. -/
lemma sent_perform (s : Session) (t : Pty) (o : Opening) :
    sent (s.perform t o).2 = (o.message? s.plan s.seen).toList := by
  cases o <;> rfl

/-- Only the look at the local terminal changes what was seen of it. -/
lemma seen_perform {s : Session} {o : Opening} (h : o ≠ .readTerminal) (t : Pty) :
    (s.perform t o).1.seen = s.seen := by
  cases o <;> first | rfl | exact absurd rfl h

/-- Only raw mode changes the local terminal. -/
lemma applyTo_perform {o : Opening} (h : o ≠ .enterRaw) (s : Session) (t : Pty) :
    (s.perform t o).2.foldl Effect.applyTo t = t := by
  cases o <;> first | rfl | exact absurd rfl h

/-! ## A stretch of steps -/

/-- The events of steps that all succeed. -/
def successes (steps : List Opening) : List Event := steps.map fun _ => .opened

/-- **A stretch of steps** without a look at the local terminal sends what its steps are to send.

**Proof sketch.** Induction on the steps.  None of them changes the plan or what was seen of the
terminal, and these decide what a step sends. -/
lemma run_opened (steps rest : List Opening) (s : Session) (t : Pty)
    (h : s.phase = phaseOf (steps ++ rest)) (hread : Opening.readTerminal ∉ steps) :
    (s.run t (successes steps)).1.phase = phaseOf rest ∧
      (s.run t (successes steps)).1.heard = s.heard ∧
      (s.run t (successes steps)).1.seen = s.seen ∧
      (Opening.enterRaw ∉ steps → (s.run t (successes steps)).2.1 = t) ∧
      sent (s.run t (successes steps)).2.2 = steps.filterMap (·.message? s.plan s.seen) := by
  induction steps generalizing s t with
  | nil => exact ⟨h, rfl, rfl, fun _ => rfl, rfl⟩
  | cons o steps ih =>
    rw [List.mem_cons, not_or] at hread
    set s' : Session := { (s.perform t o).1 with phase := phaseOf (steps ++ rest) } with hs'
    have hstep : s.step t .opened = (s', (s.perform t o).2) := step_opened h t
    have hheard : s'.heard = s.heard := heard_perform s t o
    have hseen : s'.seen = s.seen := seen_perform (Ne.symm hread.1) t
    have hplan : s'.plan = s.plan := congrArg Prod.fst hheard
    obtain ⟨ihphase, ihheard, ihseen, ihterminal, ihsent⟩ :=
      ih s' ((s.perform t o).2.foldl Effect.applyTo t) rfl hread.2
    have hrun : s.run t (successes (o :: steps)) =
        ((s'.run ((s.perform t o).2.foldl Effect.applyTo t) (successes steps)).1,
          (s'.run ((s.perform t o).2.foldl Effect.applyTo t) (successes steps)).2.1,
          (s.perform t o).2 ++
            (s'.run ((s.perform t o).2.foldl Effect.applyTo t) (successes steps)).2.2) := by
      show s.run t (.opened :: successes steps) = _
      rw [run_cons, hstep]
    rw [hrun]
    refine ⟨ihphase, ihheard.trans hheard, ihseen.trans hseen, ?_, ?_⟩
    · intro hraw
      rw [List.mem_cons, not_or] at hraw
      exact (ihterminal hraw.2).trans (applyTo_perform (Ne.symm hraw.1) s t)
    · rw [sent_append, sent_perform, ihsent, hplan, hseen, List.filterMap_cons]
      cases o.message? s.plan s.seen <;> rfl

/-- The look at the local terminal, which sends nothing. -/
lemma run_readTerminal {s : Session} {rest : List Opening}
    (h : s.phase = phaseOf (.readTerminal :: rest)) (t : Pty) (events : List Event) :
    s.run t (.opened :: events) = { s with seen := t, phase := phaseOf rest }.run t events := by
  rw [run_cons, step_opened h]
  rfl

/-! ## The whole opening -/

/-- The steps before anything has to do with the terminal or the command. -/
def approach : List Opening := [.probe, .connect, .greet, .authenticate, .openChannel]

/-- The steps that ask for a terminal like the local one and for the command. -/
def requests (p : Plan) (terminals : Streams) : List Opening :=
  [Opening.requestTerminal] ++ (if terminals.wantsRawMode then [Opening.enterRaw] else []) ++
    (p.env.entries.map fun e => Opening.sendVariable e.1 e.2) ++
    [.sendMetadata, .start, .catchSignals, .readInput]

/-- A session all of whose opening steps have succeeded, with the local terminal and what was
done, where the local terminal was as given. -/
def afterOpening (p : Plan) (terminals : Streams) (t : Pty) : Session × Pty × List Effect :=
  (ofPlan p terminals).run t (successes (openings p terminals))

/-- What a step sends depends on the local terminal only where one like it is requested. -/
lemma message?_congr {o : Opening} (h : o ≠ .requestTerminal) (p : Plan) (seen seen' : Pty) :
    o.message? p seen = o.message? p seen' := by
  cases o <;> first | rfl | exact absurd rfl h

/-- With a terminal there is the approach, a look at the terminal, and then the requests. -/
lemma openings_of_any {p : Plan} {terminals : Streams} (h : terminals.any = true) :
    openings p terminals = approach ++ .readTerminal :: requests p terminals := by
  simp [openings, terminalOpenings, h, approach, requests]

/-- Without a terminal here, no step looks at one or asks for one. -/
lemma terminal_notMem_openings {p : Plan} {terminals : Streams} (h : terminals.any = false) :
    Opening.readTerminal ∉ openings p terminals ∧
      Opening.requestTerminal ∉ openings p terminals := by
  constructor <;> simp [openings, terminalOpenings, h]

/-- **The whole opening.** A session whose opening steps have all succeeded passes things on, it has
heard nothing of the agent, and it has sent what its steps are to send, where the terminal that it
asks for is like the local one.

**Proof sketch.** Without a terminal here the opening is one stretch of steps.  With one, it is a
stretch, the look at the terminal, and a stretch; what the first one sends does not depend on what
was seen, and the second one starts with the terminal as it was. -/
theorem afterOpening_spec (p : Plan) (terminals : Streams) (t : Pty) :
    (afterOpening p terminals t).1.phase = .running ∧
      (afterOpening p terminals t).1.heard = (p, terminals, false, {}, true) ∧
      sent (afterOpening p terminals t).2.2 =
        (openings p terminals).filterMap (·.message? p t) := by
  cases hany : terminals.any with
  | false =>
    obtain ⟨hread, hrequest⟩ := terminal_notMem_openings (p := p) hany
    obtain ⟨hphase, hheard, -, -, hsent⟩ := run_opened (openings p terminals) []
      (ofPlan p terminals) t (by simp [ofPlan, openings, phaseOf]) hread
    refine ⟨hphase, hheard, hsent.trans (List.filterMap_congr ?_)⟩
    intro o ho
    exact message?_congr (fun h => hrequest (h ▸ ho)) _ _ _
  | true =>
    -- the stretch before the look at the terminal
    have hfirst : (ofPlan p terminals).phase =
        phaseOf (approach ++ .readTerminal :: requests p terminals) := by
      rw [← openings_of_any hany]
      simp [ofPlan, openings, phaseOf]
    obtain ⟨hphase, hheard, -, hterminal, hsent⟩ := run_opened approach
      (.readTerminal :: requests p terminals) (ofPlan p terminals) t hfirst (by simp [approach])
    set r := (ofPlan p terminals).run t (successes approach) with hr
    -- the stretch behind it, with what was seen
    set s : Session := { r.1 with seen := t, phase := phaseOf (requests p terminals) } with hs
    have hplan : s.plan = p := congrArg Prod.fst hheard
    obtain ⟨hphase', hheard', -, -, hsent'⟩ := run_opened (requests p terminals) [] s t
      (by simp [hs]) (by simp [requests])
    have hrun : afterOpening p terminals t =
        ((s.run t (successes (requests p terminals))).1,
          (s.run t (successes (requests p terminals))).2.1,
          r.2.2 ++ (s.run t (successes (requests p terminals))).2.2) := by
      have hsplit : successes (openings p terminals) = successes approach ++
          .opened :: successes (requests p terminals) := by
        simp [openings_of_any hany, successes]
      rw [afterOpening, hsplit, run_append, ← hr, hterminal (by simp [approach]),
        run_readTerminal hphase]
    rw [hrun]
    refine ⟨hphase', hheard'.trans hheard, ?_⟩
    rw [sent_append, hsent, hsent', openings_of_any hany, List.filterMap_append, hplan]
    rfl

end Session

end CommandRelay.Client
