import CommandRelay.Client.Reader
import CommandRelay.Proofs.Client.Opening

/-!
# Input crosses in order and once

A thread reads the local input in pieces and queues them, and the session passes them on between
everything else that happens to it.  However the two take turns and whatever else happens, what the
channel takes is the beginning of the input, piece by piece.  The end of the input is sent once and
last, after all of it, and nothing is tried after a piece that was refused.

What a session tries to do with input is one row of attempts.  While the session looks at the queue,
all of them were taken, and what they carried, what is queued, what the thread holds and what it has
not read make up the input.  The first attempt of another kind makes the session look away for good.

## Main definitions

* `Client.passed` — the input that the channel has taken.
* `Client.Feed.Orderly` — what always holds of a session and the thread that reads its input.
* `Client.Feed.AtRest`, `Client.Feed.work` — no move of input is left, and a bound on these moves.

## Main results

* `Client.Session.step_other` — events of other kinds leave input alone.
* `Client.Feed.Orderly.step`, `Client.Feed.orderly_run` — a move keeps what always holds, and so
  does a run.
* `Client.Feed.ended_of_atRest` — a session that runs until nothing is left has sent the end.
* `Client.Feed.input_crosses` — input crosses in order and once.
-/

namespace CommandRelay

/-- Whether a message carries input or its end. -/
def ClientMessage.isInput : ClientMessage → Bool
  | .data _ | .eof => true
  | _ => false

/-- The input that a message carries. -/
def ClientMessage.input : ClientMessage → List UInt8
  | .data bytes => bytes
  | _ => []

namespace Client

open Terminal (Pty)

/-! ## Attempts -/

/-- The message by which an attempt reaches the agent. -/
def Attempt.message? : Attempt → Option ClientMessage
  | accepted bytes => some (.data bytes)
  | refused _ => none
  | ended => some .eof

/-- Whether the channel took a piece in an attempt. -/
def Attempt.isAccepted : Attempt → Bool
  | accepted _ => true
  | _ => false

/-- The input that the channel has taken in some attempts. -/
def passed (attempts : List Attempt) : List UInt8 :=
  attempts.flatMap fun
    | .accepted bytes => bytes
    | _ => []

/-- No attempts pass any input. -/
@[simp] lemma passed_nil : passed [] = [] := rfl

/-- Attempts one after another pass what each of them does. -/
@[simp] lemma passed_append (a b : List Attempt) : passed (a ++ b) = passed a ++ passed b :=
  List.flatMap_append

/-- A piece that the channel took has passed. -/
@[simp] lemma passed_accepted (bytes : List UInt8) : passed [.accepted bytes] = bytes := by
  simp [passed]

/-- What attempts carry is what their messages carry. -/
lemma input_messages (attempts : List Attempt) :
    (attempts.filterMap Attempt.message?).flatMap ClientMessage.input = passed attempts := by
  induction attempts with
  | nil => rfl
  | cons a attempts ih =>
    rw [passed, List.flatMap_cons, ← passed, ← ih]
    cases a <;> rfl

/-- The messages about input among some effects. -/
def inputs (effects : List Effect) : List ClientMessage :=
  (sent effects).filter ClientMessage.isInput

/-- Effects one after another have the input messages of each of them. -/
@[simp] lemma inputs_append (a b : List Effect) : inputs (a ++ b) = inputs a ++ inputs b := by
  simp [inputs]

/-! ## What a session does with input -/

namespace Session

/-- Opening steps leave input alone. -/
lemma inputs_perform (s : Session) (t : Pty) (o : Opening) :
    inputs (s.perform t o).2 = [] ∧ (s.perform t o).1.inputOpen = s.inputOpen := by
  refine ⟨?_, congrArg (fun c : Plan × Streams × Bool × ExitReport × Bool => c.2.2.2.2)
    (heard_perform s t o)⟩
  rw [inputs, sent_perform]
  cases o with
  | start =>
    simp only [Opening.message?, Plan.startRequest]
    split <;> rfl
  | _ => rfl

/-- The end of a session sends nothing. -/
lemma inputs_finish (s : Session) (last : Phase) :
    inputs (s.finish last).2 = [] ∧ (s.finish last).1.inputOpen = s.inputOpen := by
  refine ⟨?_, rfl⟩
  show inputs (s.saved.toList.map Effect.setAttributes) = []
  cases s.saved <;> rfl

/-- What is received sends no input and leaves it as open as it was. -/
lemma inputs_receive (s : Session) (m : AgentMessage) :
    inputs (s.receive m).2 = [] ∧ (s.receive m).1.inputOpen = s.inputOpen := by
  cases m with
  | reply accepted =>
    cases accepted with
    | true => exact ⟨rfl, rfl⟩
    | false =>
      rw [receive]
      split_ifs
      · exact ⟨rfl, rfl⟩
      · exact s.inputs_finish _
  | _ => exact ⟨rfl, rfl⟩

/-- So does every event that is no input while things are passed on. -/
lemma inputs_pass {e : Event} (h : e.isInput = false) (s : Session) (t : Pty) :
    inputs (s.pass t e).2 = [] ∧ (s.pass t e).1.inputOpen = s.inputOpen := by
  cases e with
  | received m => exact s.inputs_receive m
  | unwritable cause => exact s.inputs_finish _
  | resized =>
    refine ⟨?_, rfl⟩
    simp only [pass]
    split_ifs <;> rfl
  | input | inputEnded => cases h
  | _ => exact ⟨rfl, rfl⟩

/-- So does a signal before that. -/
lemma inputs_endure (s : Session) (n : Signal) :
    inputs (s.endure n).2 = [] ∧ (s.endure n).1.inputOpen = s.inputOpen := by
  unfold endure
  split
  · split_ifs <;> exact ⟨rfl, rfl⟩
  · exact ⟨rfl, rfl⟩
  · exact ⟨rfl, rfl⟩

/-- **Events of other kinds** leave input alone. -/
lemma step_other {e : Event} (h : e.isInput = false) (s : Session) (t : Pty) :
    inputs (s.step t e).2 = [] ∧ (s.step t e).1.inputOpen = s.inputOpen := by
  unfold step
  split
  · exact s.inputs_perform t _
  · exact s.inputs_finish _
  · exact s.inputs_endure _
  · exact inputs_pass h s t
  · exact s.inputs_finish _
  · exact ⟨rfl, rfl⟩

/-- Nothing brings a session that has dropped the queue back to it. -/
lemma holdsQueue_of_step {s : Session} {t : Pty} {e : Event}
    (h : (s.step t e).1.phase.holdsQueue = true) : s.phase.holdsQueue = true := by
  cases hphase : s.phase with
  | opening | running | leaving => rfl
  | ended | failed | killed => simp [step, hphase, Phase.holdsQueue] at h

/-- A piece of input is sent if the channel takes it; if not, the session looks away. -/
lemma step_input {s : Session} (hphase : s.phase = .running) (hopen : s.inputOpen = true) (t : Pty)
    (bytes : List UInt8) (taken : Bool) :
    s.step t (.input bytes taken) =
      if taken then (s, [.send (.data bytes)]) else ({ s with inputOpen := false }, []) := by
  simp [step, hphase, pass, hopen]

/-- The end of the input is sent, and the session looks away. -/
lemma step_inputEnded {s : Session} (hphase : s.phase = .running) (hopen : s.inputOpen = true)
    (t : Pty) : s.step t .inputEnded = ({ s with inputOpen := false }, [.send .eof]) := by
  simp [step, hphase, pass, hopen]

end Session

/-! ## Moves -/

namespace Feed

/-- Input is taken while the session runs and the input is open. -/
lemma isOpen_eq_true {f : Feed} :
    f.isOpen = true ↔ f.session.phase = .running ∧ f.session.inputOpen = true := by
  simp [isOpen]

/-- The moves that are possible, each with what makes it possible and what it leads to. -/
inductive Step (f : Feed) : Move → Feed → Prop where
  /-- The thread reads a piece. -/
  | read (size : Nat) (hstopped : f.reader.stopped = false) (hhand : f.reader.hand = [])
      (hpos : 0 < size) (hsize : size ≤ f.reader.unread.length) :
      Step f (.reader (.read size)) { f with reader := { f.reader with
        hand := f.reader.unread.take size, unread := f.reader.unread.drop size } }
  | interrupted : Step f (.reader .interrupted) f
  /-- The thread puts a piece in the queue. -/
  | push (hhand : f.reader.hand ≠ []) :
      Step f (.reader .push) { f with reader := { f.reader with
        queue := f.reader.queue ++ [f.reader.hand], hand := [] } }
  /-- The thread finds that nobody holds the queue any more. -/
  | drop (hhand : f.reader.hand ≠ []) (hheld : f.session.phase.holdsQueue = false) :
      Step f (.reader .push) { f with reader := { f.reader with hand := [], stopped := true } }
  | finish (hstopped : f.reader.stopped = false) (hhand : f.reader.hand = [])
      (hunread : f.reader.unread = []) :
      Step f (.reader .finish) { f with reader := { f.reader with stopped := true } }
  | fail (hstopped : f.reader.stopped = false) (hhand : f.reader.hand = []) :
      Step f (.reader .fail) { f with reader := { f.reader with stopped := true } }
  /-- The session passes a piece on. -/
  | pass (t : Pty) (piece : List UInt8) (queue : List (List UInt8)) (hopen : f.isOpen = true)
      (hqueue : f.reader.queue = piece :: queue) :
      Step f (.take t true) { f with
        reader := { f.reader with queue }
        attempts := f.attempts ++ [.accepted piece]
        effects := f.effects ++ [.send (.data piece)] }
  /-- The channel does not take a piece. -/
  | refuse (t : Pty) (piece : List UInt8) (queue : List (List UInt8)) (hopen : f.isOpen = true)
      (hqueue : f.reader.queue = piece :: queue) :
      Step f (.take t false) { f with
        reader := { f.reader with queue }
        session := { f.session with inputOpen := false }
        attempts := f.attempts ++ [.refused piece] }
  /-- The session sends the end of the input. -/
  | close (t : Pty) (hopen : f.isOpen = true) (hqueue : f.reader.queue = [])
      (hstopped : f.reader.stopped = true) :
      Step f (.close t) { f with
        session := { f.session with inputOpen := false }
        attempts := f.attempts ++ [.ended]
        effects := f.effects ++ [.send .eof] }
  | other (t : Pty) (e : Event) (he : e.isInput = false) : Step f (.other t e) (f.happen t e)

/-- **What a move leads to** is one of these steps.

**Proof sketch.** By cases of the move, and of what the thread does in a move of its own.  The
guards that a move has to pass are the hypotheses of its step; where the session takes input or its
end, what it does then is known from `step_input` and `step_inputEnded`. -/
lemma step_of_step? {f g : Feed} {move : Move} (h : f.step? move = some g) : f.Step move g := by
  cases move with
  | reader m =>
    simp only [step?] at h
    split_ifs at h
    obtain ⟨r, hr, rfl⟩ := Option.map_eq_some_iff.1 h
    cases m with
    | read size =>
      simp only [Reader.step?] at hr
      split_ifs at hr with hguard
      cases hr
      obtain ⟨hstopped, hhand, hpos, -, hsize⟩ := hguard
      exact .read size hstopped hhand hpos hsize
    | interrupted =>
      simp only [Reader.step?] at hr
      split_ifs at hr
      cases hr
      exact .interrupted
    | push =>
      simp only [Reader.step?] at hr
      split_ifs at hr with hidle hheld hroom
      · cases hr
        exact .push (not_or.1 hidle).2
      · cases hr
        exact .drop (not_or.1 hidle).2 (by simpa using hheld)
    | finish =>
      simp only [Reader.step?] at hr
      split_ifs at hr with hguard
      cases hr
      exact .finish hguard.1 hguard.2.1 hguard.2.2
    | fail =>
      simp only [Reader.step?] at hr
      split_ifs at hr with hguard
      cases hr
      exact .fail hguard.1 hguard.2
  | take t taken =>
    simp only [step?] at h
    split at h
    · next hopen hqueue =>
      obtain ⟨hphase, hinput⟩ := isOpen_eq_true.1 hopen
      cases h
      cases taken with
      | true =>
        have hstep := Session.step_input hphase hinput t
        simp only [happen, note, hstep, if_true]
        exact .pass t _ _ hopen hqueue
      | false =>
        have hstep := Session.step_input hphase hinput t
        simp only [happen, note, hstep, Bool.false_eq_true, if_false, List.append_nil]
        exact .refuse t _ _ hopen hqueue
    · cases h
  | close t =>
    simp only [step?] at h
    split_ifs at h with hguard
    cases h
    obtain ⟨hopen, hqueue, hstopped⟩ := hguard
    obtain ⟨hphase, hinput⟩ := isOpen_eq_true.1 hopen
    simp only [happen, note, Session.step_inputEnded hphase hinput]
    exact .close t hopen hqueue hstopped
  | other t e =>
    simp only [step?] at h
    split_ifs at h with he
    cases h
    exact .other t e (by simpa using he)

/-- A run is its first move and then the others. -/
lemma run?_cons {f g : Feed} {move : Move} {moves : List Move} :
    f.run? (move :: moves) = some g ↔ ∃ next, f.step? move = some next ∧ next.run? moves = some g :=
  Option.bind_eq_some_iff

/-! ## What always holds -/

/-- What always holds of a session and of the thread that reads its input. -/
structure Orderly (content : List UInt8) (f : Feed) : Prop where
  /-- What is tried is what is sent. -/
  sent : inputs f.effects = f.attempts.filterMap Attempt.message?
  /-- While the session looks at the queue, every piece was taken. -/
  looking : f.session.inputOpen = true → ∀ a ∈ f.attempts, a.isAccepted = true
  /-- What made it look away is what it tried last. -/
  away : f.session.inputOpen = false → ∃ front last, f.attempts = front ++ [last] ∧
    (∀ a ∈ front, a.isAccepted = true) ∧ last.isAccepted = false
  /-- While the session looks at the queue, nothing of the input is lost. -/
  whole : f.session.phase.holdsQueue = true → f.session.inputOpen = true →
    passed f.attempts ++ f.reader.queue.flatten ++ f.reader.hand ++ f.reader.unread = content
  /-- The channel has taken the beginning of the input. -/
  begun : passed f.attempts <+: content
  /-- A thread that has ended holds nothing. -/
  idle : f.reader.stopped = true → f.reader.hand = []
  /-- When the end is sent, all that was read has been taken. -/
  complete : .ended ∈ f.attempts →
    f.reader.stopped = true ∧ passed f.attempts ++ f.reader.unread = content

/-- In the beginning nothing is read and nothing sent. -/
lemma orderly_start (p : Plan) (terminals : Streams) (content : List UInt8) :
    (start p terminals content).Orderly content where
  sent := rfl
  looking _ a ha := by cases ha
  away h := by cases h
  whole _ _ := rfl
  begun := List.nil_prefix
  idle h := by cases h
  complete h := by cases h

namespace Orderly

variable {content : List UInt8} {f : Feed}

/-- A session that looks at the queue has not sent the end of the input. -/
lemma ended_notMem (h : f.Orderly content) (hopen : f.session.inputOpen = true) :
    .ended ∉ f.attempts :=
  fun hmem => by cases h.looking hopen _ hmem

/-- It is about the session's attempts as long as the thread alone moves. -/
lemma of_reader (h : f.Orderly content) {r : Reader}
    (hwhole : f.session.phase.holdsQueue = true →
      r.queue.flatten ++ r.hand ++ r.unread =
        f.reader.queue.flatten ++ f.reader.hand ++ f.reader.unread)
    (hidle : r.stopped = true → r.hand = [])
    (hstopped : f.reader.stopped = true → r.stopped = true ∧ r.unread = f.reader.unread) :
    Orderly content { f with reader := r } where
  sent := h.sent
  looking := h.looking
  away := h.away
  whole hheld hopen := by
    have hsame := h.whole hheld hopen
    simp only [List.append_assoc] at hsame hwhole ⊢
    rw [hwhole hheld]
    exact hsame
  begun := h.begun
  idle := hidle
  complete hended := by
    obtain ⟨hold, hall⟩ := h.complete hended
    obtain ⟨hnew, hunread⟩ := hstopped hold
    exact ⟨hnew, by rw [hunread]; exact hall⟩

/-- The session passes a piece on: it moves from the queue to what was taken. -/
lemma pass (h : f.Orderly content) {piece : List UInt8} {queue : List (List UInt8)}
    (hopen : f.isOpen = true) (hqueue : f.reader.queue = piece :: queue) :
    Orderly content { f with
      reader := { f.reader with queue }
      attempts := f.attempts ++ [.accepted piece]
      effects := f.effects ++ [.send (.data piece)] } := by
  obtain ⟨hphase, hinput⟩ := isOpen_eq_true.1 hopen
  have hwhole := h.whole (by rw [hphase]; rfl) hinput
  rw [hqueue, List.flatten_cons] at hwhole
  exact {
    sent := by
      rw [inputs_append, h.sent, List.filterMap_append]
      rfl
    looking := fun _ a ha => by
      rcases List.mem_append.1 ha with ha | ha
      · exact h.looking hinput a ha
      · rw [List.mem_singleton.1 ha]
        rfl
    away := fun hclosed => absurd hinput (by simp [show f.session.inputOpen = false from hclosed])
    whole := fun _ _ => by simpa using hwhole
    begun := ⟨queue.flatten ++ f.reader.hand ++ f.reader.unread, by simpa using hwhole⟩
    idle := h.idle
    complete := fun hended => by
      rcases List.mem_append.1 hended with hended | hended
      · exact absurd hended (h.ended_notMem hinput)
      · cases List.mem_singleton.1 hended }

/-- The session looks away after a last attempt that no piece was taken in.

**Proof sketch.** The session had looked at all pieces up to the last attempt, which took nothing
and so ends the attempts.  What has passed stays the same.  If the attempt was to end the input, the
queue was empty and the thread had stopped, so that what has passed and what is unread are the whole
content. -/
lemma look_away (h : f.Orderly content) (last : Attempt) (r : Reader) (effects : List Effect)
    (hopen : f.isOpen = true) (hlast : last.isAccepted = false)
    (heffects : inputs effects = last.message?.toList)
    (hkept : r.stopped = f.reader.stopped ∧ r.hand = f.reader.hand ∧ r.unread = f.reader.unread)
    (hended : last = .ended → f.reader.queue = [] ∧ f.reader.stopped = true) :
    Orderly content { f with
      reader := r
      session := { f.session with inputOpen := false }
      attempts := f.attempts ++ [last]
      effects := f.effects ++ effects } := by
  obtain ⟨hphase, hinput⟩ := isOpen_eq_true.1 hopen
  obtain ⟨hstopped, hhand, hunread⟩ := hkept
  have hpassed : passed (f.attempts ++ [last]) = passed f.attempts := by
    cases last with
    | accepted bytes => cases hlast
    | _ => simp [passed]
  exact {
    sent := by
      rw [inputs_append, h.sent, heffects, List.filterMap_append]
      cases last <;> rfl
    looking := fun hnever => by cases hnever
    away := fun _ => ⟨f.attempts, last, rfl, h.looking hinput, hlast⟩
    whole := fun _ hnever => by cases hnever
    begun := by
      rw [hpassed]
      exact h.begun
    idle := by
      rw [hstopped, hhand]
      exact h.idle
    complete := fun hmem => by
      rcases List.mem_append.1 hmem with hmem | hmem
      · exact absurd hmem (h.ended_notMem hinput)
      · obtain ⟨hqueue, hdone⟩ := hended (List.mem_singleton.1 hmem).symm
        have hwhole := h.whole (by rw [hphase]; rfl) hinput
        rw [hqueue, h.idle hdone] at hwhole
        exact ⟨hstopped.trans hdone, by rw [hpassed, hunread]; simpa using hwhole⟩ }

/-- Events of other kinds. -/
lemma happen (h : f.Orderly content) {e : Event} (he : e.isInput = false) (t : Pty) :
    (f.happen t e).Orderly content := by
  obtain ⟨hinputs, hopen⟩ := Session.step_other he f.session t
  exact {
    sent := by
      show inputs (f.effects ++ (f.session.step t e).2) = _
      rw [inputs_append, hinputs, List.append_nil]
      exact h.sent
    looking := fun hlooking => h.looking (hopen.symm.trans hlooking)
    away := fun hclosed => h.away (hopen.symm.trans hclosed)
    whole := fun hheld hlooking =>
      h.whole (Session.holdsQueue_of_step hheld) (hopen.symm.trans hlooking)
    begun := h.begun
    idle := h.idle
    complete := h.complete }

/-- **A move** keeps what always holds. -/
lemma step (h : f.Orderly content) {move : Move} {g : Feed} (hstep : f.Step move g) :
    g.Orderly content := by
  cases hstep with
  | read size hstopped hhand =>
    refine h.of_reader (fun _ => ?_) (fun hnever => ?_) (fun hnever => ?_)
    · simp [hhand]
    · simp [hstopped] at hnever
    · simp [hstopped] at hnever
  | interrupted => exact h
  | push =>
    refine h.of_reader (fun _ => ?_) (fun _ => rfl) (fun hstopped => ⟨hstopped, rfl⟩)
    simp
  | drop hhand hheld =>
    refine h.of_reader (fun hnever => ?_) (fun _ => rfl) (fun _ => ⟨rfl, rfl⟩)
    simp [hheld] at hnever
  | finish hstopped hhand | fail hstopped hhand =>
    exact h.of_reader (fun _ => rfl) (fun _ => hhand) (fun _ => ⟨rfl, rfl⟩)
  | pass t piece queue hopen hqueue => exact h.pass hopen hqueue
  | refuse t piece queue hopen hqueue =>
    have haway := h.look_away (.refused piece) { f.reader with queue } [] hopen rfl rfl
      ⟨rfl, rfl, rfl⟩ (fun hnever => by cases hnever)
    rwa [List.append_nil] at haway
  | close t hopen hqueue hstopped =>
    exact h.look_away .ended f.reader [.send .eof] hopen rfl rfl ⟨rfl, rfl, rfl⟩
      (fun _ => ⟨hqueue, hstopped⟩)
  | other t e he => exact h.happen he t

end Orderly

/-! ## Whole runs -/

/-- What holds at the start and is kept by each of some moves holds after them. -/
lemma run?_induction {motive : Feed → Prop} {moves : List Move}
    (hstep : ∀ move ∈ moves, ∀ f g, motive f → f.Step move g → motive g) {f g : Feed}
    (hstart : motive f) (hrun : f.run? moves = some g) : motive g := by
  induction moves generalizing f with
  | nil => exact Option.some.inj hrun ▸ hstart
  | cons move moves ih =>
    obtain ⟨next, hnext, hrest⟩ := run?_cons.1 hrun
    refine ih (fun m hm => hstep m (List.mem_cons_of_mem _ hm)) ?_ hrest
    exact hstep move List.mem_cons_self f next hstart (step_of_step? hnext)

/-- **A run** keeps what always holds. -/
lemma orderly_run {content : List UInt8} {moves : List Move} {f g : Feed} (h : f.Orderly content)
    (hrun : f.run? moves = some g) : g.Orderly content :=
  run?_induction (fun _ _ _ _ h hstep => h.step hstep) h hrun

/-- What holds besides as long as the input could be read: a thread that has ended has read it to
its end. -/
structure Drained (f : Feed) : Prop where
  atEnd : f.reader.stopped = true → f.session.phase.holdsQueue = true → f.reader.unread = []
  complete : .ended ∈ f.attempts → f.reader.unread = []

/-- In the beginning the thread has not ended. -/
lemma drained_start (p : Plan) (terminals : Streams) (content : List UInt8) :
    (start p terminals content).Drained where
  atEnd h := by cases h
  complete h := by cases h

/-- **A move** other than a failing read keeps this. -/
lemma Drained.step {f g : Feed} {move : Move} (h : f.Drained) (hstep : f.Step move g)
    (hmove : move ≠ .reader .fail) : g.Drained := by
  cases hstep with
  | read size hstopped =>
    refine ⟨fun hnever => by simp [hstopped] at hnever, fun hended => ?_⟩
    show f.reader.unread.drop size = []
    rw [h.complete hended, List.drop_nil]
  | interrupted => exact h
  | push => exact ⟨h.atEnd, h.complete⟩
  | drop hhand hheld => exact ⟨fun _ hnever => by simp [hheld] at hnever, h.complete⟩
  | finish hstopped hhand hunread => exact ⟨fun _ _ => hunread, fun _ => hunread⟩
  | fail => exact absurd rfl hmove
  | pass | refuse => exact ⟨h.atEnd, fun hended => h.complete (by simpa using hended)⟩
  | close t hopen hqueue hstopped =>
    have hunread : f.reader.unread = [] :=
      h.atEnd hstopped (by rw [(isOpen_eq_true.1 hopen).1]; rfl)
    exact ⟨fun _ _ => hunread, fun _ => hunread⟩
  | other t e =>
    exact ⟨fun hstopped hheld => h.atEnd hstopped (Session.holdsQueue_of_step hheld), h.complete⟩

/-! ## The end of the input -/

/-- Whether a move brings input forward. -/
def Move.isInner : Move → Bool
  | .reader (.read _) | .reader .push | .reader .finish | .take .. | .close _ => true
  | _ => false

/-- Nothing brings input forward any more. -/
def AtRest (f : Feed) : Prop := ∀ move : Move, move.isInner = true → f.step? move = none

/-- A bound on the moves that bring input forward.  A byte is read, queued and taken. -/
def work (f : Feed) : Nat :=
  3 * f.reader.unread.length + (if f.reader.hand = [] then 0 else 2) + f.reader.queue.length +
    (if f.reader.stopped then 0 else 1) + (if f.session.inputOpen then 1 else 0)

/-- **Every inner move** does some of the work, so none goes on for ever.

**Proof sketch.** By cases of the step.  The work counts what is unread, in hand and in the queue,
whether the thread goes on and whether the input is open, with weights that make every inner step
lower it; interrupted and failing reads and other events are no inner moves. -/
lemma work_lt {f g : Feed} {move : Move} (hinner : move.isInner = true) (hstep : f.Step move g) :
    g.work < f.work := by
  cases hstep with
  | read size hstopped hhand hpos hsize =>
    have htake : f.reader.unread.take size ≠ [] := by
      rw [← List.length_pos_iff, List.length_take]
      omega
    simp only [work, hhand, htake, List.length_drop, if_true, if_false]
    omega
  | interrupted => cases hinner
  | push hhand =>
    simp only [work, hhand, List.length_append, List.length_singleton, if_true, if_false]
    omega
  | drop hhand =>
    simp only [work, hhand, if_true, if_false]
    split_ifs <;> omega
  | finish hstopped =>
    simp only [work, hstopped, if_true, Bool.false_eq_true, if_false]
    omega
  | fail => cases hinner
  | pass t piece queue hopen hqueue =>
    simp only [work, hqueue, List.length_cons]
    omega
  | refuse t piece queue hopen hqueue =>
    simp only [work, hqueue, List.length_cons, Bool.false_eq_true, if_false]
    split_ifs <;> omega
  | close t hopen =>
    simp only [work, (isOpen_eq_true.1 hopen).2, if_true, Bool.false_eq_true, if_false]
    omega
  | other => cases hinner

/-- **At rest.** A session that still runs when nothing brings input forward looks at the queue no
more.

**Proof sketch.** If it did, the queue would be empty; then the thread would hold nothing, for there
is room; then it would have ended, for it could read or find the end; and then the session could
close. -/
lemma look_away_of_atRest {f : Feed} (hphase : f.session.phase = .running) (hrest : f.AtRest) :
    f.session.inputOpen = false := by
  by_contra hopen
  have hinput : f.session.inputOpen = true := by simpa using hopen
  have hopen : f.isOpen = true := isOpen_eq_true.2 ⟨hphase, hinput⟩
  have hqueue : f.reader.queue = [] := by
    cases hqueue : f.reader.queue with
    | nil => rfl
    | cons piece queue =>
      have htake := hrest (.take default true) rfl
      simp [step?, hopen, hqueue] at htake
  have hreader : ∀ m : Reader.Move, Move.isInner (.reader m) = true →
      f.reader.step? true m = none := by
    intro m hm
    have hmove := hrest (.reader m) hm
    simpa [step?, hphase, Phase.hasReader, Phase.holdsQueue] using hmove
  have hhand : f.reader.stopped = true ∨ f.reader.hand = [] := by
    by_contra hbusy
    have hpush := hreader .push rfl
    simp [Reader.step?, hbusy, hqueue, Reader.capacity] at hpush
  have hstopped : f.reader.stopped = true := by
    by_contra hruns
    have hruns' : f.reader.stopped = false := by simpa using hruns
    have hempty := hhand.resolve_left hruns
    cases hunread : f.reader.unread with
    | nil =>
      have hfinish := hreader .finish rfl
      simp [Reader.step?, hruns', hempty, hunread] at hfinish
    | cons byte rest =>
      have hread := hreader (.read 1) rfl
      simp [Reader.step?, hruns', hempty, hunread, Reader.pieceLimit] at hread
  have hclose := hrest (.close default) rfl
  simp [step?, hopen, hqueue, hstopped] at hclose

/-- A session that runs until nothing is left, all of whose pieces were taken, has sent the end. -/
lemma ended_of_atRest {content : List UInt8} {f : Feed} (h : f.Orderly content)
    (hphase : f.session.phase = .running) (hrest : f.AtRest)
    (htaken : ∀ piece, .refused piece ∉ f.attempts) : .ended ∈ f.attempts := by
  obtain ⟨front, last, hattempts, -, hlast⟩ := h.away (look_away_of_atRest hphase hrest)
  have hmem : last ∈ f.attempts := by simp [hattempts]
  cases last with
  | accepted piece => cases hlast
  | refused piece => exact absurd hmem (htaken piece)
  | ended => exact hmem

/-! ## Input crosses -/

namespace Orderly

variable {content : List UInt8} {f : Feed}

/-- Nothing is tried after an attempt in which no piece was taken. -/
lemma eq_nil_of_not_accepted (h : f.Orderly content) {front rest : List Attempt} {a : Attempt}
    (hattempts : f.attempts = front ++ a :: rest) (ha : a.isAccepted = false) :
    rest = [] ∧ ∀ b ∈ front, b.isAccepted = true := by
  have hmem : a ∈ f.attempts := by simp [hattempts]
  have haway : f.session.inputOpen = false := by
    by_contra hopen
    rw [h.looking (by simpa using hopen) a hmem] at ha
    cases ha
  obtain ⟨front', last, hattempts', hfront', -⟩ := h.away haway
  have hnot : a ∉ front' := fun hmem => by simp [hfront' a hmem] at ha
  obtain ⟨rfl, -, rfl⟩ := (List.append_cons_inj_of_notMem hnot List.not_mem_nil).1
    (hattempts'.symm.trans hattempts)
  exact ⟨rfl, hfront'⟩

/-- Where the end was sent, the attempts are accepted pieces and the end. -/
lemma attempts_of_ended (h : f.Orderly content) (hended : .ended ∈ f.attempts) :
    ∃ front, f.attempts = front ++ [.ended] ∧ ∀ b ∈ front, b.isAccepted = true := by
  obtain ⟨front, rest, hattempts⟩ := List.append_of_mem hended
  obtain ⟨rfl, hfront⟩ := h.eq_nil_of_not_accepted hattempts rfl
  exact ⟨front, hattempts, hfront⟩

end Orderly

/-- How input has crossed after some moves, where it was as given before them. -/
structure Crossed (content : List UInt8) (moves : List Move) (f : Feed) : Prop where
  /-- What the channel has taken are the pieces that it has not refused, and the end. -/
  sent : inputs f.effects = f.attempts.filterMap Attempt.message?
  /-- It is the beginning of the input, in order. -/
  begun : (inputs f.effects).flatMap ClientMessage.input <+: content
  /-- The end is sent once and last, after no piece was refused and, if the input could be read,
  after all of it was taken. -/
  ended : ∀ front rest, inputs f.effects = front ++ .eof :: rest →
    rest = [] ∧ .eof ∉ front ∧ (∀ piece, .refused piece ∉ f.attempts) ∧
      (.reader .fail ∉ moves → front.flatMap ClientMessage.input = content)
  /-- Nothing is tried after a piece that was refused. -/
  refused : ∀ front piece rest, f.attempts = front ++ .refused piece :: rest →
    rest = [] ∧ .eof ∉ inputs f.effects
  /-- A session that runs until nothing brings input forward, with no piece refused, has sent the
  end. -/
  exhausted : f.session.phase = .running → f.AtRest → (∀ piece, .refused piece ∉ f.attempts) →
    .eof ∈ inputs f.effects
  /-- What brings input forward does so a bounded number of times. -/
  bounded : ∀ move g, move.isInner = true → f.step? move = some g → g.work < f.work

/-- The end of input is sent just in an attempt to end it. -/
lemma eof_mem_messages {attempts : List Attempt} :
    .eof ∈ attempts.filterMap Attempt.message? ↔ .ended ∈ attempts := by
  rw [List.mem_filterMap]
  refine ⟨fun ⟨a, ha, heof⟩ => ?_, fun h => ⟨.ended, h, rfl⟩⟩
  cases a with
  | ended => exact ha
  | _ => cases heof

/-- **Input crosses in order and once.** For every input, every way in which the thread cuts it into
pieces and every order in which the thread, the session and everything else that happens to it take
turns, where the channel may refuse any piece: the channel takes the beginning of the input, in
order; the end is sent once and last, after all of the input and after no piece was refused; nothing
is tried after a refused piece; and a session that runs until the input is exhausted, with no piece
refused, has sent the end.

**Proof sketch.** What was taken, what is queued, what the thread holds and what it has not read
make up the input as long as the session looks at the queue.  It looks away at the first attempt in
which no piece is taken, and that attempt is its last one. -/
theorem input_crosses (p : Plan) (terminals : Streams) (content : List UInt8) (moves : List Move)
    (f : Feed) (hrun : (start p terminals content).run? moves = some f) :
    Crossed content moves f := by
  have h : f.Orderly content := orderly_run (orderly_start p terminals content) hrun
  have hinput : (inputs f.effects).flatMap ClientMessage.input = passed f.attempts := by
    rw [h.sent, input_messages]
  refine ⟨h.sent, hinput ▸ h.begun, fun front rest hsplit => ?_, fun front piece rest hsplit => ?_,
    fun hphase hrest htaken => ?_, fun move g hinner hstep => work_lt hinner (step_of_step? hstep)⟩
  · have heof : ClientMessage.eof ∈ inputs f.effects := by simp [hsplit]
    have hended : .ended ∈ f.attempts := eof_mem_messages.1 (h.sent ▸ heof)
    obtain ⟨pieces, hattempts, hpieces⟩ := h.attempts_of_ended hended
    have hnot : ClientMessage.eof ∉ pieces.filterMap Attempt.message? := by
      rw [eof_mem_messages]
      intro hmem
      cases hpieces _ hmem
    have hmessages : pieces.filterMap Attempt.message? ++ [.eof] = front ++ .eof :: rest := by
      rw [← hsplit, h.sent, hattempts, List.filterMap_append]
      rfl
    obtain ⟨rfl, -, rfl⟩ :=
      (List.append_cons_inj_of_notMem hnot List.not_mem_nil).1 hmessages
    refine ⟨rfl, hnot, fun piece hmem => ?_, fun hread => ?_⟩
    · rw [hattempts] at hmem
      rcases List.mem_append.1 hmem with hmem | hmem
      · cases hpieces _ hmem
      · cases List.mem_singleton.1 hmem
    · have hdrained : f.Drained := by
        refine run?_induction (fun move hmove _ _ hkept hstep => hkept.step hstep ?_)
          (drained_start p terminals content) hrun
        rintro rfl
        exact hread hmove
      have hall := (h.complete hended).2
      rw [hdrained.complete hended, List.append_nil, hattempts, passed_append] at hall
      rw [input_messages, ← hall]
      simp [passed]
  · obtain ⟨hlast, hfront⟩ := h.eq_nil_of_not_accepted hsplit rfl
    refine ⟨hlast, fun heof => ?_⟩
    rw [h.sent, eof_mem_messages, hsplit, hlast] at heof
    rcases List.mem_append.1 heof with hmem | hmem
    · cases hfront _ hmem
    · cases List.mem_singleton.1 hmem
  · rw [h.sent, eof_mem_messages]
    exact ended_of_atRest h hphase hrest htaken

/-- Two pieces and the end, between which a signal comes; the first piece is taken while the thread
already holds the second one. -/
theorem input_crosses_twoPieces :
    let p : Plan := ⟨default, .empty, {}, none⟩
    let opening : List Move := (Session.successes (openings p {})).map (.other default)
    let moves : List Move := opening ++
      [.reader (.read 1), .reader .push, .reader (.read 1), .other default (.signal .int),
        .take default true, .reader .push, .reader .interrupted, .reader .finish,
        .take default true, .close default]
    ∃ f, (start p {} [104, 105]).run? moves = some f ∧ Crossed [104, 105] moves f ∧
      inputs f.effects = [.data [104], .data [105], .eof] := by
  intro p opening moves
  obtain ⟨f, hrun⟩ := Option.isSome_iff_exists.1
    (by decide : ((start p {} [104, 105]).run? moves).isSome = true)
  have hinputs : ((start p {} [104, 105]).run? moves).map (fun f => inputs f.effects) =
      some [.data [104], .data [105], .eof] := by decide
  rw [hrun] at hinputs
  exact ⟨f, hrun, input_crosses p {} _ moves f hrun, Option.some.inj hinputs⟩

end Feed

end Client

end CommandRelay
