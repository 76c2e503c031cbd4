import CommandRelay.Proofs.Client.Opening
import CommandRelay.Proofs.Relay.Agent

/-!
# Output on the client's side

Whatever moves were made, the client has received the first messages that the agent sent, has
written the output among them, and goes on until it has received the close.

## Main definitions

* `reportOf` — what some messages say of the end of a session.
* `Flow.ClientSide` — what always holds on the client's side, where some messages were received.

## Main results

* `Client.Session.receive_spec` — what a message does to a session.
* `Flow.ClientSide.step` — every move keeps what holds on the client's side.
-/

namespace CommandRelay

open Agent (Supervision ChildEvent)
open Client (Session Event Effect writtenTo)

/-- What a message adds to what was heard of the end of a session. -/
def ExitReport.hear (r : ExitReport) : AgentMessage → ExitReport
  | .exitStatus code => r.record (.status code)
  | .exitSignal name =>
    r.record (.signal (name.toSignal?.map fun s => (s.number : Int)))
  | .eof => r.record .eof
  | _ => r

/-- What some messages say of the end of a session. -/
def reportOf (ms : List AgentMessage) : ExitReport := ms.foldl ExitReport.hear {}

namespace Client

/-- Changes of the local terminal are no output. -/
lemma writtenTo_setAttributes (toError : Bool) (saved : Option Terminal.Attributes) :
    writtenTo toError (saved.toList.map .setAttributes) = [] := by
  cases saved <;> rfl

namespace Session

/-- **What a message does** to a session, other than a refusal: it is heard, the close is followed,
and output is written. -/
lemma receive_spec (s : Session) {m : AgentMessage} (hm : m ≠ .reply false) :
    (s.receive m).1.report = s.report.hear m ∧
      (s.receive m).1.phase = (if m = .close then .leaving else s.phase) ∧
      ∀ toError, writtenTo toError (s.receive m).2 = m.bytes toError := by
  cases m with
  | reply accepted =>
    cases accepted with
    | true => exact ⟨rfl, rfl, fun _ => rfl⟩
    | false => exact absurd rfl hm
  | data bytes => exact ⟨rfl, rfl, fun e => by cases e <;> simp [receive, writtenTo,
      AgentMessage.bytes]⟩
  | errorData bytes => exact ⟨rfl, rfl, fun e => by cases e <;> simp [receive, writtenTo,
      AgentMessage.bytes]⟩
  | exitStatus | exitSignal | eof | close => exact ⟨rfl, rfl, fun _ => rfl⟩

/-- Passing on what happens on the client's own side writes nothing here and hears nothing. -/
lemma pass_local (s : Session) {e : Event} (he : e.isLocal = true) (t : Terminal.Pty) :
    (s.pass t e).1.report = s.report ∧ (s.pass t e).1.phase = s.phase ∧
      ∀ toError, writtenTo toError (s.pass t e).2 = [] := by
  cases e with
  | signal n => exact ⟨rfl, rfl, fun _ => rfl⟩
  | resized =>
    refine ⟨rfl, rfl, fun _ => ?_⟩
    simp only [pass]
    split_ifs <;> rfl
  | input bytes taken =>
    simp only [pass]
    split_ifs <;> exact ⟨rfl, rfl, fun _ => rfl⟩
  | inputEnded =>
    simp only [pass]
    split_ifs <;> exact ⟨rfl, rfl, fun _ => rfl⟩
  | _ => cases he

/-- What happens on the client's own side while a session passes things on, or after that, leaves
alone how far the session is and what it has heard and written. -/
lemma step_local {s : Session} {e : Event} (he : e.isLocal = true)
    (hphase : s.phase = .running ∨ s.phase = .leaving ∨ ∃ code, s.phase = .ended code)
    (t : Terminal.Pty) :
    (s.step t e).1.report = s.report ∧ (s.step t e).1.phase = s.phase ∧
      ∀ toError, writtenTo toError (s.step t e).2 = [] := by
  rcases hphase with h | hleft
  · have hstep : s.step t e = s.pass t e := by simp [step, h]
    rw [hstep]
    exact pass_local s he t
  · have hstep : s.step t e = (s, []) := by
      rcases hleft with h | ⟨code, h⟩ <;> cases e <;> simp [step, h, Event.isLocal] at he ⊢
    rw [hstep]
    exact ⟨rfl, rfl, fun _ => rfl⟩

/-- A session that has given its connection up ends with the code that it has heard of. -/
lemma step_disconnected {s : Session} (h : s.phase = .leaving) (t : Terminal.Pty) :
    (s.step t .disconnected).1.report = s.report ∧
      (s.step t .disconnected).1.phase = .ended s.report.code ∧
      ∀ toError, writtenTo toError (s.step t .disconnected).2 = [] := by
  have hstep : s.step t .disconnected = s.finish (.ended s.report.code) := by simp [step, h]
  rw [hstep]
  exact ⟨rfl, rfl, fun toError => writtenTo_setAttributes toError s.saved⟩

end Session

end Client

namespace Flow

/-- What always holds on the client's side, where some messages were received. -/
structure ClientSide (received : List AgentMessage) (f : Flow) : Prop where
  /-- Messages arrive in the order in which they were sent. -/
  queue : f.sent = received ++ f.channel
  shown : ∀ toError, f.shown toError = outputOf toError received
  report : f.session.report = reportOf received
  accepted : .reply false ∉ f.sent
  /-- The client goes on until it has received the close. -/
  phase : (f.session.phase = .running ∧ .close ∉ received) ∨
    .close ∈ received ∧ (f.session.phase = .leaving ∨
      f.session.phase = .ended (reportOf received).code)

namespace ClientSide

/-- It holds where a child has just been started for a session that has just opened. -/
lemma start (spec : Launch) (p : Plan) (terminals : Streams) (t : Terminal.Pty) :
    ClientSide [] (Flow.start spec (Session.afterOpening p terminals t).1) := by
  obtain ⟨hphase, hheard, -⟩ := Session.afterOpening_spec p terminals t
  refine ⟨rfl, fun _ => rfl, ?_, by simp [Flow.start], .inl ⟨hphase, by simp⟩⟩
  exact congrArg (fun h : Plan × Streams × Bool × ExitReport × Bool => h.2.2.2.1) hheard

variable {received : List AgentMessage} {f : Flow}

/-- It is about what was sent and received, and about the client. -/
lemma of_eq (h : ClientSide received f) {g : Flow} (hsent : g.sent = f.sent)
    (hchannel : g.channel = f.channel) (hsession : g.session = f.session)
    (hshown : g.shown = f.shown) : ClientSide received g where
  queue := by rw [hsent, hchannel, h.queue]
  shown := hshown ▸ h.shown
  report := hsession ▸ h.report
  accepted := hsent ▸ h.accepted
  phase := hsession ▸ h.phase

/-- The agent tells the client more. -/
lemma of_tell (h : ClientSide received f) (e : ChildEvent) : ClientSide received (f.tell e) where
  queue := by simp [tell, h.queue]
  shown := h.shown
  report := h.report
  accepted hmem := by
    rcases List.mem_append.1 hmem with hmem | hmem
    · exact h.accepted hmem
    · exact Supervision.reply_notMem_step _ _ _ hmem
  phase := h.phase

/-- Something happens to the client that leaves alone what it has heard and written. -/
lemma of_quiet (h : ClientSide received f) {t : Terminal.Pty} {e : Event}
    (hreport : (f.session.step t e).1.report = f.session.report)
    (hphase : (f.session.step t e).1.phase = f.session.phase ∨
      (f.session.phase = .leaving ∧
        (f.session.step t e).1.phase = .ended f.session.report.code))
    (hquiet : ∀ toError, writtenTo toError (f.session.step t e).2 = []) :
    ClientSide received (f.happen t e) where
  queue := h.queue
  shown toError := by simpa [happen, hquiet] using h.shown toError
  report := hreport.trans h.report
  accepted := h.accepted
  phase := by
    show ((f.session.step t e).1.phase = .running ∧ .close ∉ received) ∨
      .close ∈ received ∧ ((f.session.step t e).1.phase = .leaving ∨
        (f.session.step t e).1.phase = .ended (reportOf received).code)
    rcases hphase with hsame | ⟨hleaving, hended⟩
    · rw [hsame]
      exact h.phase
    · rcases h.phase with ⟨hrunning, -⟩ | ⟨hclose, -⟩
      · rw [hleaving] at hrunning
        cases hrunning
      · exact .inr ⟨hclose, .inr (h.report ▸ hended)⟩

/-- The client receives the next message. -/
lemma of_receive (h : ClientSide received f) {m : AgentMessage} {rest : List AgentMessage}
    (hchannel : f.channel = m :: rest) (hphase : f.session.phase = .running) (t : Terminal.Pty) :
    ClientSide (received ++ [m]) (({ f with channel := rest }).happen t (.received m)) := by
  have hm : m ≠ .reply false := by
    rintro rfl
    exact h.accepted (by simp [h.queue, hchannel])
  have hstep : f.session.step t (.received m) = f.session.receive m := by
    simp [Session.step, hphase, Session.pass]
  obtain ⟨hreport, hnext, hwritten⟩ := f.session.receive_spec hm
  have hopen : .close ∉ received := by
    rcases h.phase with ⟨-, hopen⟩ | ⟨-, hleft | hleft⟩
    · exact hopen
    · rw [hphase] at hleft
      cases hleft
    · rw [hphase] at hleft
      cases hleft
  have hnow : (({ f with channel := rest }).happen t (.received m)).session.phase =
      if m = .close then .leaving else .running := by
    show (f.session.step t (.received m)).1.phase = _
    rw [hstep, hnext, hphase]
  refine ⟨by simp [happen, h.queue, hchannel], fun toError => ?_, ?_, h.accepted, ?_⟩
  · simp [happen, hstep, hwritten, h.shown]
  · simp [happen, hstep, hreport, h.report, reportOf]
  · rw [hnow]
    by_cases hclose : m = .close
    · exact .inr ⟨by simp [hclose], .inl (if_pos hclose)⟩
    · refine .inl ⟨if_neg hclose, ?_⟩
      simpa [hopen] using Ne.symm hclose

/-- **Every move** keeps what holds on the client's side, with one more message received or not. -/
lemma step (h : ClientSide received f) {move : Move} {g : Flow} (hstep : f.Step move g) :
    ∃ received', ClientSide received' g := by
  cases hstep with
  | write | echo | close | exit | read => exact ⟨received, h.of_eq rfl rfl rfl rfl⟩
  | pass source =>
    refine ⟨received, of_tell ?_ _⟩
    exact h.of_eq rfl rfl rfl rfl
  | finish source => exact ⟨received, h.of_tell _⟩
  | wait status => exact ⟨received, h.of_tell _⟩
  | receive t m rest hchannel hphase => exact ⟨received ++ [m], h.of_receive hchannel hphase t⟩
  | leave t hphase =>
    obtain ⟨hreport, hended, hquiet⟩ := Session.step_disconnected hphase t
    exact ⟨received, h.of_quiet hreport (.inr ⟨hphase, hended⟩) hquiet⟩
  | local_ t e hlocal =>
    have hphase : f.session.phase = .running ∨ f.session.phase = .leaving ∨
        ∃ code, f.session.phase = .ended code := by
      rcases h.phase with ⟨hrunning, -⟩ | ⟨-, hleaving | hended⟩
      · exact .inl hrunning
      · exact .inr (.inl hleaving)
      · exact .inr (.inr ⟨_, hended⟩)
    obtain ⟨hreport, hsame, hquiet⟩ := Session.step_local hlocal hphase t
    exact ⟨received, h.of_quiet hreport (.inl hsame) hquiet⟩

end ClientSide

end Flow

end CommandRelay
