import CommandRelay.Agent.Window
import CommandRelay.Proofs.Agent.Channels
import CommandRelay.Proofs.Relay.Agent
import Mathlib.Data.List.Infix

/-!
# What is reported on a channel

Each start request that is accepted on a channel gives the channel a reporter: one that says why
nothing was started, or one that looks after the child.  The reporters of a channel know nothing of
each other, and what they say comes in any order between them and the answers to the client.  What
is too long for the client's window is held back with the close, and the channel stays open.

Each reporter reports one end at most.  A child keeps its channel from accepting another start
request, but a start that has failed does not: only a client that asks for no start after a failed
one gets one answer and one end.

## Main definitions

* `Agent.Reporter` — somebody who reports on a channel.
* `Agent.Conversation` — a channel with its reporters and all that was said on it.
* `Agent.Conversation.step`, `Agent.Conversation.run` — what can happen on a channel.
* `Agent.Conversation.Patient` — no start is asked for after one that has failed.

## Main results

* `Agent.Reporter.Sound.said_eq` — what a reporter has said: output, and the end at most once.
* `Agent.Window.output_sendAll` — output is neither lost nor reordered where it has to wait.
* `Agent.Conversation.Kept.step` — what always holds of a channel.
* `Agent.Conversation.one_result` — one start and one end, for a patient client.
* `Agent.Conversation.two_results` — two starts and two ends, for another one.
-/

namespace CommandRelay

/-- Whether a message says something about a command, and is no answer. -/
def AgentMessage.isReport : AgentMessage → Bool
  | .reply _ => false
  | _ => true

/-- Whether a message tells with which code a command has ended. -/
def AgentMessage.isExitStatus : AgentMessage → Bool
  | .exitStatus _ => true
  | _ => false

namespace Agent

/-! ## Reporters -/

/-- Somebody who reports on a channel. -/
structure Reporter where
  /-- The child, if one was started. -/
  supervision : Option Supervision
  /-- What was said so far. -/
  said : List AgentMessage := []
  /-- What is still to be said. -/
  pending : List AgentMessage := []
  deriving DecidableEq

namespace Reporter

/-- Something happens to the child. -/
def happen (e : ChildEvent) (r : Reporter) : Reporter :=
  match r.supervision with
  | some v => { r with supervision := some (v.step e).1, pending := r.pending ++ (v.step e).2 }
  | none => r

/-- What is said next. -/
def next (r : Reporter) : List AgentMessage := r.pending.take 1

/-- The next thing is said. -/
def speak (r : Reporter) : Reporter :=
  { r with said := r.said ++ r.next, pending := r.pending.drop 1 }

/-- What a reporter has to say is output and one end, which comes last. -/
structure Sound (r : Reporter) : Prop where
  story : ∃ body ending, r.said ++ r.pending = body ++ ending ∧
    (∀ m ∈ body, m.isOutput = true) ∧ (ending = [] ∨ ∃ code, ending = farewell code) ∧
    ∀ v, r.supervision = some v →
      (v.reported = false ∧ ending = []) ∨ (v.reported = true ∧ v.sources = [])

end Reporter

namespace Supervision

/-- Once the end was reported, nothing more is. -/
lemma step_of_reported {v : Supervision} (h : v.reported = true) (hsources : v.sources = [])
    (e : ChildEvent) :
    (v.step e).2 = [] ∧ (v.step e).1.reported = true ∧ (v.step e).1.sources = [] := by
  have hreport : ∀ w : Supervision, w.reported = true → w.report = (w, []) := by
    intro w hw
    rw [report]
    cases w.status <;> simp [hw]
  cases e with
  | output source bytes => exact ⟨by simp [step, hsources], h, hsources⟩
  | ended source =>
    rw [step, hreport { v with sources := v.sources.filter (· ≠ source) } h]
    exact ⟨rfl, h, by simp [hsources]⟩
  | exited status =>
    rw [step, hreport { v with status := v.status.or (some status) } h]
    exact ⟨rfl, h, hsources⟩

/-- A report that is due is made, with a code, once the child has ended and so has every source;
until then nothing is said. -/
lemma report_cases {v : Supervision} (h : v.reported = false) :
    (v.report.1.reported = false ∧ ∀ m ∈ v.report.2, m.isOutput = true) ∨
      (v.report.1.reported = true ∧ v.report.1.sources = [] ∧
        ∃ code, v.report.2 = farewell code) := by
  obtain ⟨hstate, hwords⟩ := report_eq h
  cases hstatus : v.status with
  | none =>
    refine .inl ⟨by rw [hstate, hstatus]; rfl, ?_⟩
    rw [hwords, lastWords_of_not (by rw [hstate, hstatus]; rfl)]
    simp
  | some status =>
    cases hempty : v.sources.isEmpty with
    | false =>
      refine .inl ⟨by rw [hstate, hempty, Bool.and_false], ?_⟩
      rw [hwords, lastWords_of_not (by rw [hstate, hempty, Bool.and_false])]
      simp
    | true =>
      refine .inr ⟨by rw [hstate, hstatus, hempty]; rfl, ?_, WaitStatus.exitCode status, ?_⟩
      · rw [hstate]
        exact List.isEmpty_iff.1 hempty
      · rw [hwords, hstate, lastWords, hstatus, hempty]
        rfl

/-- Before that, output is passed on, or the end is reported. -/
lemma step_of_not_reported {v : Supervision} (h : v.reported = false) (e : ChildEvent) :
    ((v.step e).1.reported = false ∧ ∀ m ∈ (v.step e).2, m.isOutput = true) ∨
      ((v.step e).1.reported = true ∧ (v.step e).1.sources = [] ∧
        ∃ code, (v.step e).2 = farewell code) := by
  cases e with
  | output source bytes =>
    refine .inl ⟨h, fun m hm => ?_⟩
    simp only [step] at hm
    split_ifs at hm
    · rw [List.mem_singleton.1 hm, Source.message]
      split_ifs <;> rfl
    · cases hm
  | ended source => exact report_cases h
  | exited status => exact report_cases h

end Supervision

namespace Reporter

/-- A start that has failed is reported. -/
lemma sound_refusal (reason : String) :
    Sound { supervision := none, pending := refusal reason } where
  story := ⟨[_], farewell 1, rfl, by simp [AgentMessage.isOutput], .inr ⟨1, rfl⟩,
    fun v hv => by cases hv⟩

/-- A child that has just been started is looked after. -/
lemma sound_ofStreams (s : Streams) : Sound { supervision := some (.ofStreams s) } where
  story := ⟨[], [], rfl, by simp, .inl rfl, fun v hv => by cases hv; exact .inl ⟨rfl, rfl⟩⟩

namespace Sound

variable {r : Reporter}

/-- What a reporter says next was pending before, and is said after that. -/
lemma speak (h : r.Sound) : r.speak.Sound where
  story := by
    obtain ⟨body, ending, hsaid, hrest⟩ := h.story
    refine ⟨body, ending, ?_, hrest⟩
    rw [← hsaid, Reporter.speak, next, List.append_assoc, List.take_append_drop]

/-- Whatever happens to a child, its story goes on or ends. -/
lemma happen (h : r.Sound) (e : ChildEvent) : (r.happen e).Sound where
  story := by
    obtain ⟨body, ending, hsaid, hbody, hending, hchild⟩ := h.story
    cases hv : r.supervision with
    | none =>
      have hsame : r.happen e = r := by simp [Reporter.happen, hv]
      rw [hsame]
      exact ⟨body, ending, hsaid, hbody, hending, hchild⟩
    | some v =>
      have hnow : r.happen e =
          { r with supervision := some (v.step e).1, pending := r.pending ++ (v.step e).2 } := by
        simp [Reporter.happen, hv]
      rw [hnow]
      rcases hchild v hv with ⟨hopen, rfl⟩ | ⟨hreported, hsources⟩
      · rw [List.append_nil] at hsaid
        rcases v.step_of_not_reported hopen e with ⟨hstill, houtput⟩ | ⟨hover, hempty, code, hend⟩
        · refine ⟨body ++ (v.step e).2, [], by simp [← hsaid], ?_, .inl rfl, ?_⟩
          · exact fun m hm => (List.mem_append.1 hm).elim (hbody m) (houtput m)
          · rintro _ ⟨⟩
            exact .inl ⟨hstill, rfl⟩
        · refine ⟨body, farewell code, by simp [← hsaid, hend], hbody, .inr ⟨code, rfl⟩, ?_⟩
          rintro _ ⟨⟩
          exact .inr ⟨hover, hempty⟩
      · obtain ⟨hquiet, hover, hempty⟩ := v.step_of_reported hreported hsources e
        refine ⟨body, ending, by simp [hquiet, hsaid], hbody, hending, ?_⟩
        rintro _ ⟨⟩
        exact .inr ⟨hover, hempty⟩

/-- **What a reporter has said** is output, and then the end as far as it was said. -/
lemma said_eq (h : r.Sound) : ∃ body last code, r.said = body ++ last ∧
    (∀ m ∈ body, m.isOutput = true) ∧ last <+: farewell code := by
  obtain ⟨body, ending, hsaid, hbody, hending, -⟩ := h.story
  have hprefix : ∃ code, ending <+: farewell code := by
    rcases hending with rfl | ⟨code, rfl⟩
    · exact ⟨0, List.nil_prefix⟩
    · exact ⟨code, List.prefix_rfl⟩
  obtain ⟨code, hcode⟩ := hprefix
  rcases List.append_eq_append_iff.1 hsaid with ⟨rest, hbodyeq, -⟩ | ⟨last, hlast, hrest⟩
  · refine ⟨r.said, [], code, by simp, fun m hm => hbody m ?_, List.nil_prefix⟩
    rw [hbodyeq]
    exact List.mem_append_left _ hm
  · refine ⟨body, last, code, hlast, hbody, List.IsPrefix.trans ?_ hcode⟩
    rw [hrest]
    exact List.prefix_append _ _

/-- A reporter reports the end at most once, and each part of it after the one before. -/
lemma counts (h : r.Sound) : r.said.countP AgentMessage.isExitStatus ≤ 1 ∧
    r.said.count .eof ≤ r.said.countP AgentMessage.isExitStatus ∧
    r.said.count .close ≤ r.said.count .eof := by
  obtain ⟨body, last, code, hsaid, hbody, hlast⟩ := h.said_eq
  have hstatus : body.countP AgentMessage.isExitStatus = 0 := List.countP_eq_zero.2 fun m hm => by
    have hm := hbody m hm
    cases m <;> simp_all [AgentMessage.isOutput, AgentMessage.isExitStatus]
  have heof : body.count .eof = 0 := List.count_eq_zero.2 fun hm => by
    simpa [AgentMessage.isOutput] using hbody _ hm
  have hclose : body.count .close = 0 := List.count_eq_zero.2 fun hm => by
    simpa [AgentMessage.isOutput] using hbody _ hm
  rw [hsaid, List.countP_append, List.count_append, List.count_append, hstatus, heof, hclose]
  -- the end is said up to one of its four ends
  have hends : last ∈ (farewell code).inits := (List.mem_inits _ _).2 hlast
  simp only [farewell, List.inits, List.map_cons, List.map_nil, List.mem_cons, List.not_mem_nil,
    or_false] at hends
  rcases hends with rfl | rfl | rfl | rfl <;> simp [List.countP_cons, AgentMessage.isExitStatus]

/-- No reporter answers a start request. -/
lemma isReport (h : r.Sound) {m : AgentMessage} (hm : m ∈ r.said ∨ m ∈ r.pending) :
    m.isReport = true := by
  obtain ⟨body, ending, hsaid, hbody, hending, -⟩ := h.story
  have hm' : m ∈ body ++ ending := hsaid ▸ List.mem_append.2 hm
  rcases List.mem_append.1 hm' with hm | hm
  · have hm := hbody m hm
    cases m <;> simp_all [AgentMessage.isOutput, AgentMessage.isReport]
  · rcases hending with rfl | ⟨code, rfl⟩
    · cases hm
    · simp only [farewell, List.mem_cons, List.not_mem_nil, or_false] at hm
      rcases hm with rfl | rfl | rfl <;> rfl

end Sound

end Reporter

/-! ## The window of a channel -/

namespace Window

variable (w : Window) (toError : Bool)

/-- A message that waits in line loses no output. -/
lemma output_queue (m : AgentMessage) :
    outputOf toError (w.queue m).2 ++ outputOf toError (w.queue m).1.held =
      outputOf toError w.held ++ m.bytes toError := by
  cases hheld : w.held <;> simp [queue, hheld]

/-- Output that has to wait for room loses nothing. -/
lemma output_pass (output : List UInt8 → AgentMessage) (bytes : List UInt8)
    (hsplit : ∀ a b, (output (a ++ b)).bytes toError =
      (output a).bytes toError ++ (output b).bytes toError) :
    outputOf toError (w.pass output bytes).2 ++ outputOf toError (w.pass output bytes).1.held =
      outputOf toError w.held ++ (output bytes).bytes toError := by
  cases hheld : w.held with
  | cons m ms => simp [pass, hheld]
  | nil =>
    by_cases hroom : bytes.length ≤ w.room
    · simp [pass, hheld, hroom]
    · simp [pass, hheld, hroom, ← hsplit]

/-- A message that is sent loses no output. -/
lemma output_send (m : AgentMessage) :
    outputOf toError (w.send m).2 ++ outputOf toError (w.send m).1.held =
      outputOf toError w.held ++ m.bytes toError := by
  cases m with
  | data bytes => exact w.output_pass toError .data bytes fun a b => by cases toError <;> rfl
  | errorData bytes =>
    exact w.output_pass toError .errorData bytes fun a b => by cases toError <;> rfl
  | eof => exact w.output_queue toError .eof
  | close => exact w.output_queue toError .close
  | reply accepted => simp [send, AgentMessage.bytes]
  | exitStatus code => simp [send, AgentMessage.bytes]
  | exitSignal name => simp [send, AgentMessage.bytes]

/-- **Nothing is lost in a window**: what went through and what waits is the output that was
waiting and the output that was sent, in this order. -/
theorem output_sendAll (ms : List AgentMessage) :
    outputOf toError (w.sendAll ms).2 ++ outputOf toError (w.sendAll ms).1.held =
      outputOf toError w.held ++ outputOf toError ms := by
  induction ms generalizing w with
  | nil => simp [sendAll]
  | cons m ms ih =>
    calc outputOf toError (w.sendAll (m :: ms)).2 ++ outputOf toError (w.sendAll (m :: ms)).1.held
        = outputOf toError (w.send m).2 ++ (outputOf toError ((w.send m).1.sendAll ms).2 ++
            outputOf toError ((w.send m).1.sendAll ms).1.held) := by
          simp [sendAll]
      _ = outputOf toError (w.send m).2 ++ (outputOf toError (w.send m).1.held ++
            outputOf toError ms) := by rw [ih]
      _ = outputOf toError w.held ++ outputOf toError (m :: ms) := by
          rw [← List.append_assoc, output_send, List.append_assoc, outputOf_cons]

end Window

/-! ## Conversations -/

/-- The answer that an effect gives. -/
def Effect.answer? : Effect → Option AgentMessage
  | .reply _ accepted => some (.reply accepted)
  | _ => none

/-- The reporter that an effect brings. -/
def Effect.reporter? : Effect → Option Reporter
  | .refuse _ reason => some { supervision := none, pending := refusal reason }
  | .launch _ spec (some _) => some { supervision := some (.ofStreams spec.streams) }
  | _ => none

/-- A channel with its reporters, and what was said on it. -/
structure Conversation where
  handler : Handler
  reporters : List Reporter := []
  told : List AgentMessage := []

namespace Conversation

/-- Something that happens on a channel. -/
inductive Move where
  /-- The client sends a message. -/
  | message (around : Surroundings) (m : ClientMessage)
  /-- Something happens to the child of a reporter. -/
  | child (i : Nat) (e : ChildEvent)
  /-- A reporter says what is next. -/
  | say (i : Nat)

/-- What one move leads to. -/
def step (c : ChannelId) (v : Conversation) : Move → Conversation
  | .message around m =>
    let (handler, effects) := v.handler.receive around c m
    { handler
      reporters := v.reporters ++ effects.filterMap Effect.reporter?
      told := v.told ++ effects.filterMap Effect.answer? }
  | .child i e => { v with reporters := v.reporters.modify i (Reporter.happen e) }
  | .say i =>
    { v with
      reporters := v.reporters.modify i Reporter.speak
      told := v.told ++ (v.reporters[i]?.map Reporter.next).getD [] }

/-- What moves lead to, one after another. -/
def run (c : ChannelId) (v : Conversation) (moves : List Move) : Conversation :=
  moves.foldl (step c) v

/-- A channel that has just been opened. -/
def opened (around : Surroundings) (h : Handler) (c : ChannelId) : Conversation where
  handler := (h.step around (.opened c)).1

/-- A message adds the reporters that its effects bring. -/
lemma reporters_message (c : ChannelId) (v : Conversation) (around : Surroundings)
    (m : ClientMessage) : (v.step c (.message around m)).reporters =
      v.reporters ++ (v.handler.receive around c m).2.filterMap Effect.reporter? := rfl

/-- What a message has said at once is the answers among its effects. -/
lemma told_message (c : ChannelId) (v : Conversation) (around : Surroundings)
    (m : ClientMessage) : (v.step c (.message around m)).told =
      v.told ++ (v.handler.receive around c m).2.filterMap Effect.answer? := rfl

/-- For each start request that was accepted, whether it has started a child. -/
def outcomes (v : Conversation) : List Bool := v.reporters.map (·.supervision.isSome)

/-! ### What a message brings -/

section Messages

variable (around : Surroundings) (h : Handler) (c : ChannelId)

/-- Only a start request is answered or brings a reporter. -/
lemma quiet_of_not_isStart {m : ClientMessage} (hm : m.isStart = false) :
    (h.receive around c m).2.filterMap Effect.answer? = [] ∧
      (h.receive around c m).2.filterMap Effect.reporter? = [] := by
  have hother : ∀ e ∈ (h.receive around c m).2, e.isAnswer = false := fun e he =>
    (Handler.mem_receive around h c he).2.1.trans hm
  constructor <;> refine List.filterMap_eq_nil_iff.2 fun e he => ?_ <;>
    have hanswer := hother e he <;> cases e <;> first | rfl | cases hanswer

/-- **A start request** is turned down, or it is accepted and brings one reporter. -/
lemma start_brings (payload : Option (List UInt8)) :
    ((h.start around c payload).2.filterMap Effect.answer? = [.reply false] ∧
      (h.start around c payload).2.filterMap Effect.reporter? = []) ∨
    ((∃ s, h.channels.get? c = some s ∧ s.child = none) ∧ ∃ r : Reporter,
      (h.start around c payload).2.filterMap Effect.answer? = [.reply true] ∧
      (h.start around c payload).2.filterMap Effect.reporter? = [r] ∧ r.said = [] ∧ r.Sound ∧
      (r.supervision.isSome = true → launches (h.start around c payload).2 ≠ [])) := by
  by_cases hs : ∀ s, h.channels.get? c = some s → s.child ≠ none
  · rw [Handler.start_denied around h c hs payload]
    exact .inl ⟨rfl, rfl⟩
  · simp only [not_forall, not_not] at hs
    obtain ⟨s, hget, hchild⟩ := hs
    refine .inr ⟨⟨s, hget, hchild⟩, ?_⟩
    cases hlaunch : s.request.launch around.isDirectory payload around.host with
    | error e =>
      have hstart : h.start around c payload = (h, [.reply c true, .refuse c e.message]) := by
        simp [Handler.start, hget, hchild, hlaunch]
      rw [hstart]
      exact ⟨_, rfl, rfl, rfl, Reporter.sound_refusal e.message, fun hr => by cases hr⟩
    | ok spec =>
      rw [Handler.effects_start around h c hget hchild hlaunch]
      cases around.spawn spec with
      | error reason =>
        exact ⟨_, rfl, rfl, rfl, Reporter.sound_refusal reason, fun hr => by cases hr⟩
      | ok process =>
        exact ⟨_, rfl, rfl, rfl, Reporter.sound_ofStreams spec.streams, fun _ => by
          simp [Effect.started?]⟩

/-- **A message** brings no reporter, or it is a start request that is accepted and brings one. -/
lemma receive_brings (m : ClientMessage) :
    ((h.receive around c m).2.filterMap Effect.reporter? = [] ∧
      ∀ answer ∈ (h.receive around c m).2.filterMap Effect.answer?, answer = .reply false) ∨
    ((m.isStart = true ∧ ∃ s, h.channels.get? c = some s ∧ s.child = none) ∧ ∃ r : Reporter,
      (h.receive around c m).2.filterMap Effect.answer? = [.reply true] ∧
      (h.receive around c m).2.filterMap Effect.reporter? = [r] ∧ r.said = [] ∧ r.Sound ∧
      (r.supervision.isSome = true → launches (h.receive around c m).2 ≠ [])) := by
  cases hm : m.isStart with
  | false =>
    obtain ⟨hanswer, hreporter⟩ := quiet_of_not_isStart around h c hm
    exact .inl ⟨hreporter, by simp [hanswer]⟩
  | true =>
    obtain ⟨payload, hreceive⟩ := Handler.exists_receive_start around h c hm
    rw [hreceive]
    rcases start_brings around h c payload with ⟨hanswer, hreporter⟩ | ⟨hs, hr⟩
    · exact .inl ⟨hreporter, by simp [hanswer]⟩
    · exact .inr ⟨⟨rfl, hs⟩, hr⟩

end Messages

/-! ### Reporters that change -/

/-- What holds of all reporters and is kept by a change of one of them holds afterwards. -/
lemma forall_mem_modify {P : Reporter → Prop} {f : Reporter → Reporter} {reporters : List Reporter}
    (h : ∀ r ∈ reporters, P r) (hf : ∀ r, P r → P (f r)) (i : Nat) :
    ∀ r ∈ reporters.modify i f, P r := by
  induction reporters generalizing i with
  | nil => simp
  | cons first rest ih =>
    have hrest : ∀ r ∈ rest, P r := fun r hr => h r (List.mem_cons_of_mem _ hr)
    have hfirst : P first := h first List.mem_cons_self
    cases i with
    | zero =>
      intro r hr
      rcases List.mem_cons.1 (by simpa using hr) with rfl | hr
      · exact hf _ hfirst
      · exact hrest r hr
    | succ i =>
      intro r hr
      rcases List.mem_cons.1 (by simpa using hr) with rfl | hr
      · exact hfirst
      · exact ih hrest i r hr

/-- What is no different for a changed reporter is the same for all. -/
lemma map_modify_of_same {β : Type} {g : Reporter → β} {f : Reporter → Reporter}
    (hf : ∀ r, g (f r) = g r) (reporters : List Reporter) (i : Nat) :
    (reporters.modify i f).map g = reporters.map g := by
  induction reporters generalizing i with
  | nil => simp
  | cons first rest ih => cases i <;> simp [hf, ih]

/-- What a reporter says next is added to what they have said, somewhere. -/
lemma perm_said_speak (reporters : List Reporter) (i : Nat) :
    ((reporters.modify i Reporter.speak).flatMap Reporter.said).Perm
      (reporters.flatMap Reporter.said ++ (reporters[i]?.map Reporter.next).getD []) := by
  induction reporters generalizing i with
  | nil => simp
  | cons first rest ih =>
    cases i with
    | zero =>
      simp only [List.modify_zero_cons, List.flatMap_cons, Reporter.speak, List.append_assoc,
        List.getElem?_cons_zero, Option.map_some, Option.getD_some]
      exact List.perm_append_comm.append_left _
    | succ i =>
      simp only [List.modify_succ_cons, List.flatMap_cons, List.append_assoc,
        List.getElem?_cons_succ]
      exact (ih i).append_left _

/-- Reporters report no more ends than they are, and each part of an end after the one before. -/
lemma counts_said {reporters : List Reporter} (h : ∀ r ∈ reporters, r.Sound) :
    (reporters.flatMap Reporter.said).countP AgentMessage.isExitStatus ≤ reporters.length ∧
      (reporters.flatMap Reporter.said).count .eof ≤
        (reporters.flatMap Reporter.said).countP AgentMessage.isExitStatus ∧
      (reporters.flatMap Reporter.said).count .close ≤
        (reporters.flatMap Reporter.said).count .eof := by
  induction reporters with
  | nil => exact ⟨Nat.le_refl 0, Nat.le_refl 0, Nat.le_refl 0⟩
  | cons first rest ih =>
    obtain ⟨hstatus, heof, hclose⟩ := (h first List.mem_cons_self).counts
    obtain ⟨hstatus', heof', hclose'⟩ := ih fun r hr => h r (List.mem_cons_of_mem _ hr)
    simp only [List.flatMap_cons, List.countP_append, List.count_append, List.length_cons]
    omega

/-! ### What always holds -/

/-- What always holds of a channel. -/
structure Kept (c : ChannelId) (v : Conversation) : Prop where
  sound : ∀ r ∈ v.reporters, r.Sound
  /-- What was reported is what the reporters have said, in some order. -/
  ledger : (v.told.filter AgentMessage.isReport).Perm (v.reporters.flatMap Reporter.said)
  /-- Each start request that was accepted has brought a reporter. -/
  accepted : v.told.count (.reply true) = v.reporters.length
  /-- As long as the channel has no child, no start has succeeded. -/
  idle : ∀ s, v.handler.channels.get? c = some s → s.child = none → true ∉ v.outcomes
  /-- A start that was followed by another one has failed. -/
  failed : true ∉ v.outcomes.dropLast
  /-- A reporter that is alone has reported all, in order. -/
  alone : v.reporters.length ≤ 1 →
    v.told.filter AgentMessage.isReport = v.reporters.flatMap Reporter.said

/-- A channel that has just been opened has said nothing. -/
lemma kept_opened (around : Surroundings) (h : Handler) (c : ChannelId) :
    (opened around h c).Kept c where
  sound r hr := by cases hr
  ledger := .refl _
  accepted := rfl
  idle s _ _ hmem := by cases hmem
  failed hmem := by cases hmem
  alone _ := rfl

namespace Kept

variable {c : ChannelId} {v : Conversation}

/-- It is kept where something happens to a child. -/
lemma child (h : v.Kept c) (i : Nat) (e : ChildEvent) : (v.step c (.child i e)).Kept c := by
  have houtcome : ∀ r : Reporter, (r.happen e).supervision.isSome = r.supervision.isSome := by
    intro r
    rw [Reporter.happen]
    cases hr : r.supervision <;> simp [hr]
  have hsaid : ∀ r : Reporter, (r.happen e).said = r.said := by
    intro r
    rw [Reporter.happen]
    cases r.supervision <;> rfl
  have houtcomes : (v.step c (.child i e)).outcomes = v.outcomes :=
    map_modify_of_same houtcome v.reporters i
  have hlength : (v.reporters.modify i (Reporter.happen e)).length = v.reporters.length :=
    List.length_modify ..
  have hflat : v.reporters.flatMap Reporter.said =
      (v.reporters.modify i (Reporter.happen e)).flatMap Reporter.said := by
    rw [List.flatMap_def, List.flatMap_def, map_modify_of_same hsaid]
  exact {
    sound := forall_mem_modify h.sound (fun r hr => hr.happen e) i
    ledger := hflat ▸ h.ledger
    accepted := h.accepted.trans hlength.symm
    idle := by rw [houtcomes]; exact h.idle
    failed := by rw [houtcomes]; exact h.failed
    alone := fun hone => (h.alone (hlength ▸ hone)).trans hflat }

/-- What a reporter says next is a report. -/
lemma isReport_next (h : v.Kept c) {i : Nat} {m : AgentMessage}
    (hm : m ∈ (v.reporters[i]?.map Reporter.next).getD []) : m.isReport = true := by
  cases hr : v.reporters[i]? with
  | none => simp [hr] at hm
  | some r =>
    have hpending : m ∈ r.pending := List.mem_of_mem_take (by simpa [hr, Reporter.next] using hm)
    exact (h.sound r (List.mem_of_getElem? hr)).isReport (.inr hpending)

/-- It is kept where a reporter speaks.

**Proof sketch.** Outcomes and the number of reporters stay, and what the reporter says is reports
alone.  So the ledger gains on both sides what is said now, and no answer is added.  With one
reporter at most, what was said is in order, since it is that reporter's. -/
lemma say (h : v.Kept c) (i : Nat) : (v.step c (.say i)).Kept c := by
  have houtcomes : (v.step c (.say i)).outcomes = v.outcomes :=
    map_modify_of_same (f := Reporter.speak) (fun _ => rfl) v.reporters i
  have hlength : (v.reporters.modify i Reporter.speak).length = v.reporters.length :=
    List.length_modify ..
  set now := (v.reporters[i]?.map Reporter.next).getD [] with hnow
  have hreports : ∀ m ∈ now, m.isReport = true := fun m hm => h.isReport_next hm
  have hanswer : now.count (.reply true) = 0 := List.count_eq_zero.2 fun hm => by
    simpa [AgentMessage.isReport] using hreports _ hm
  exact {
    sound := forall_mem_modify h.sound (fun r hr => hr.speak) i
    ledger := by
      show ((v.told ++ now).filter AgentMessage.isReport).Perm
        ((v.reporters.modify i Reporter.speak).flatMap Reporter.said)
      rw [List.filter_append, List.filter_eq_self.2 hreports]
      exact (h.ledger.append_right now).trans (perm_said_speak v.reporters i).symm
    accepted := by
      show (v.told ++ now).count (.reply true) = (v.reporters.modify i Reporter.speak).length
      rw [List.count_append, hanswer, hlength, h.accepted, Nat.add_zero]
    idle := by rw [houtcomes]; exact h.idle
    failed := by rw [houtcomes]; exact h.failed
    alone := fun hone => by
      have hbefore := h.alone (hlength ▸ hone)
      show (v.told ++ now).filter AgentMessage.isReport =
        (v.reporters.modify i Reporter.speak).flatMap Reporter.said
      rw [List.filter_append, List.filter_eq_self.2 hreports, hbefore]
      have hone' : v.reporters.length ≤ 1 := hlength ▸ hone
      match hv : v.reporters, hone' with
      | [], _ => simp [hnow, hv]
      | [r], _ => cases i <;> simp [hnow, hv, Reporter.speak] }

/-- It is kept where a start is turned down or nothing is answered. -/
lemma of_unanswered (h : v.Kept c) {v' : Conversation} {answers : List AgentMessage}
    (hreporters : v'.reporters = v.reporters) (htold : v'.told = v.told ++ answers)
    (hanswers : ∀ answer ∈ answers, answer = .reply false)
    (hidle : ∀ s, v'.handler.channels.get? c = some s → s.child = none → true ∉ v.outcomes) :
    v'.Kept c := by
  have houtcomes : v'.outcomes = v.outcomes := by rw [outcomes, outcomes, hreporters]
  have hquiet : answers.filter AgentMessage.isReport = [] :=
    List.filter_eq_nil_iff.2 fun answer ha => by
      rw [hanswers answer ha]
      simp [AgentMessage.isReport]
  have hfilter : v'.told.filter AgentMessage.isReport = v.told.filter AgentMessage.isReport := by
    rw [htold, List.filter_append, hquiet, List.append_nil]
  exact {
    sound := by rw [hreporters]; exact h.sound
    ledger := by rw [hreporters, hfilter]; exact h.ledger
    accepted := by
      have hzero : answers.count (.reply true) = 0 :=
        List.count_eq_zero.2 fun ha => by simpa using hanswers _ ha
      rw [hreporters, htold, List.count_append, hzero, Nat.add_zero, h.accepted]
    idle := by rw [houtcomes]; exact hidle
    failed := by rw [houtcomes]; exact h.failed
    alone := fun hone => by
      rw [hreporters, hfilter]
      exact h.alone (hreporters ▸ hone) }

/-- It is kept where a start is accepted, since no start has succeeded before.

**Proof sketch.** There is one more outcome and one more answer, and the new reporter has said
nothing, so both ledgers stay as they are.  A start can be accepted only if none has succeeded, and
this is what the outcomes before the last one have to show. -/
lemma of_accepted (h : v.Kept c) (hfresh : true ∉ v.outcomes) {v' : Conversation} {r : Reporter}
    (hreporters : v'.reporters = v.reporters ++ [r]) (htold : v'.told = v.told ++ [.reply true])
    (hsaid : r.said = []) (hsound : r.Sound)
    (hidle : ∀ s, v'.handler.channels.get? c = some s → s.child = none →
      r.supervision.isSome = false) : v'.Kept c := by
  have houtcomes : v'.outcomes = v.outcomes ++ [r.supervision.isSome] := by
    rw [outcomes, hreporters, List.map_append]
    rfl
  have hfilter : v'.told.filter AgentMessage.isReport = v.told.filter AgentMessage.isReport := by
    simp [htold, AgentMessage.isReport]
  exact {
    sound := by
      rw [hreporters]
      intro r' hr'
      rcases List.mem_append.1 hr' with hr' | hr'
      · exact h.sound r' hr'
      · exact List.mem_singleton.1 hr' ▸ hsound
    ledger := by
      rw [hfilter, hreporters, List.flatMap_append]
      simpa [hsaid] using h.ledger
    accepted := by simp [hreporters, htold, h.accepted]
    idle := fun s hs hchild => by
      rw [houtcomes, hidle s hs hchild]
      simp [hfresh]
    failed := by rw [houtcomes, List.dropLast_concat]; exact hfresh
    alone := fun hone => by
      have hnone : v.reporters = [] := by
        rw [hreporters, List.length_append] at hone
        exact List.length_eq_zero_iff.1 (by simpa using hone)
      have hsilent := h.alone (by simp [hnone])
      rw [hfilter, hreporters, hsilent, hnone]
      simp [hsaid] }

/-- It is kept where the client sends a message. -/
lemma message (h : v.Kept c) (around : Surroundings) (m : ClientMessage) :
    (v.step c (.message around m)).Kept c := by
  have hreporters := reporters_message c v around m
  have htold := told_message c v around m
  have hidle : ∀ s, (v.handler.receive around c m).1.channels.get? c = some s → s.child = none →
      true ∉ v.outcomes ∧ launches (v.handler.receive around c m).2 = [] := fun s hs hchild => by
    obtain ⟨⟨s₀, hget, hnone⟩, hquiet⟩ :=
      (Handler.change_receive around v.handler c m).of_idle hs hchild
    exact ⟨h.idle s₀ hget hnone, hquiet⟩
  rcases receive_brings around v.handler c m with ⟨hnone, hanswers⟩ |
    ⟨⟨-, s, hget, hchild⟩, r, hanswer, hreporter, hsaid, hsound, hlaunch⟩
  · rw [hnone, List.append_nil] at hreporters
    exact h.of_unanswered hreporters htold hanswers fun s hs hchild => (hidle s hs hchild).1
  · rw [hreporter] at hreporters
    rw [hanswer] at htold
    refine h.of_accepted (h.idle s hget hchild) hreporters htold hsaid hsound ?_
    intro s' hs' hchild'
    simpa [(hidle s' hs' hchild').2] using hlaunch

/-- **Every move** keeps what always holds of a channel. -/
lemma step (h : v.Kept c) (move : Move) : (v.step c move).Kept c := by
  cases move with
  | message around m => exact h.message around m
  | child i e => exact h.child i e
  | say i => exact h.say i

/-- What holds at first holds after every run. -/
lemma run (h : v.Kept c) (moves : List Move) : (v.run c moves).Kept c := by
  induction moves generalizing v with
  | nil => exact h
  | cons move moves ih => exact ih (h.step move)

end Kept

/-! ### Patient clients -/

/-- Whether a move asks for a start. -/
def Move.isStart : Move → Bool
  | .message _ m => m.isStart
  | _ => false

/-- No start is asked for after one that has failed. -/
def Patient (c : ChannelId) : Conversation → List Move → Prop
  | _, [] => True
  | v, move :: moves =>
    (move.isStart = true → false ∉ v.outcomes) ∧ Patient c (v.step c move) moves

/-- The moves are gone through one by one. -/
instance Patient.decidable (c : ChannelId) :
    ∀ (v : Conversation) (moves : List Move), Decidable (Patient c v moves)
  | _, [] => inferInstanceAs (Decidable True)
  | v, move :: moves =>
    have := Patient.decidable c (v.step c move) moves
    inferInstanceAs (Decidable (_ ∧ _))

/-- A patient client gets one reporter at most. -/
lemma length_run_le_one {c : ChannelId} {v : Conversation} (h : v.Kept c)
    (hone : v.reporters.length ≤ 1) {moves : List Move} (hpatient : Patient c v moves) :
    (v.run c moves).reporters.length ≤ 1 := by
  induction moves generalizing v with
  | nil => exact hone
  | cons move moves ih =>
    obtain ⟨hnow, hlater⟩ := hpatient
    refine ih (h.step move) ?_ hlater
    cases move with
    | child i e => exact (List.length_modify ..).trans_le hone
    | say i => exact (List.length_modify ..).trans_le hone
    | message around m =>
      rw [reporters_message]
      rcases receive_brings around v.handler c m with ⟨hnone, -⟩ |
        ⟨⟨hstart, s, hget, hchild⟩, r, -, hreporter, -⟩
      · rw [hnone, List.append_nil]
        exact hone
      · -- neither has a start failed, nor has one succeeded
        have hempty : v.outcomes = [] := List.eq_nil_iff_forall_not_mem.2 fun b hb => by
          cases b with
          | false => exact hnow hstart hb
          | true => exact h.idle s hget hchild hb
        have hreporters : v.reporters = [] := List.map_eq_nil_iff.1 hempty
        rw [hreporter, hreporters]
        exact Nat.le_refl 1

/-- **Starts and ends of a channel.** On a channel that is opened, whatever the client sends and in
whatever order its reporters speak, each start request that is accepted brings one reporter, all of
these but the last one have failed, and no more ends are reported than starts were accepted.  If the
client asks for no start after one that has failed, at most one start is accepted, and what is
reported is output, and then at most one exit status, one end of file and one close, in this order.

**Proof sketch.** A start is accepted only while the channel has no child, so no start has succeeded
before.  All that is reported is said by some reporter, and each reporter ends once. -/
theorem one_result (around : Surroundings) (h : Handler) (c : ChannelId) (moves : List Move) :
    let v := (opened around h c).run c moves
    (v.told.count (.reply true) = v.outcomes.length ∧ true ∉ v.outcomes.dropLast ∧
      v.told.countP AgentMessage.isExitStatus ≤ v.told.count (.reply true) ∧
      v.told.count .eof ≤ v.told.countP AgentMessage.isExitStatus ∧
      v.told.count .close ≤ v.told.count .eof) ∧
    (Patient c (opened around h c) moves → v.told.count (.reply true) ≤ 1 ∧
      ∃ body last code, v.told.filter AgentMessage.isReport = body ++ last ∧
        (∀ m ∈ body, m.isOutput = true) ∧ last <+: farewell code) := by
  intro v
  have hkept : v.Kept c := (kept_opened around h c).run moves
  obtain ⟨hstatus, heof, hclose⟩ := counts_said hkept.sound
  have hcountP : ∀ p : AgentMessage → Bool, (∀ m, p m = true → m.isReport = true) →
      v.told.countP p = (v.reporters.flatMap Reporter.said).countP p := fun p hp => by
    rw [← hkept.ledger.countP_eq, List.countP_filter]
    exact List.countP_congr fun m _ => by simpa using fun hm => hp m hm
  have hcount : ∀ m : AgentMessage, m.isReport = true →
      v.told.count m = (v.reporters.flatMap Reporter.said).count m := fun m hm =>
    hcountP (· == m) fun m' hm' => by rwa [beq_iff_eq.1 hm']
  have hexit := hcountP AgentMessage.isExitStatus fun m hm => by
    cases m <;> first | rfl | cases hm
  rw [← hexit] at hstatus heof
  rw [← hcount .eof rfl] at heof hclose
  rw [← hcount .close rfl] at hclose
  refine ⟨⟨by rw [hkept.accepted, outcomes, List.length_map], hkept.failed, ?_, heof, hclose⟩, ?_⟩
  · rw [hkept.accepted]
    exact hstatus
  · intro hpatient
    have hone := length_run_le_one (kept_opened around h c) (Nat.zero_le 1) hpatient
    refine ⟨hkept.accepted.trans_le hone, ?_⟩
    rw [hkept.alone hone]
    match hv : v.reporters, hone with
    | [], _ => exact ⟨[], [], 0, rfl, by simp, List.nil_prefix⟩
    | [r], _ =>
      obtain ⟨body, last, code, hsaid, hbody, hlast⟩ := (hkept.sound r (by simp [hv])).said_eq
      exact ⟨body, last, code, by simp [hsaid], hbody, hlast⟩

/-- A shell is started, and another one is asked for; the first one writes something and ends. -/
def oneShell : List Move :=
  [.message (Handler.willing 7) .shell, .message (Handler.willing 7) .shell,
    .child 0 (.output .stdout [111]), .say 0, .child 0 (.ended .stdout), .child 0 (.ended .stderr),
    .child 0 (.exited 0), .say 0, .say 0, .say 0]

/-- A client that asks for another shell while one runs gets one start and one end. -/
theorem one_result_oneShell :
    Patient 0 (opened (Handler.willing 7) {} 0) oneShell ∧
      let v := (opened (Handler.willing 7) {} 0).run 0 oneShell
      v.told = [.reply true, .reply false, .data [111], .exitStatus 0, .eof, .close] ∧
        v.told.count (.reply true) ≤ 1 ∧
        ∃ body last code, v.told.filter AgentMessage.isReport = body ++ last ∧
          (∀ m ∈ body, m.isOutput = true) ∧ last <+: farewell code := by
  have hpatient : Patient 0 (opened (Handler.willing 7) {} 0) oneShell := by decide
  exact ⟨hpatient, by decide, (one_result (Handler.willing 7) {} 0 oneShell).2 hpatient⟩

/-- A host on which no program can be started. -/
def unwilling : Surroundings where
  host := {}
  isDirectory _ := true
  spawn _ := .error "no such program"

/-- A client that asks for two shells where none can be started, before it has heard of the first
failure, gets two starts and two exit statuses on a channel that is still open. -/
theorem two_results :
    let moves : List Move := [.message unwilling .shell, .message unwilling .shell,
      .say 0, .say 1, .say 0, .say 1]
    let v := (opened unwilling {} 0).run 0 moves
    v.told.count (.reply true) = 2 ∧ v.told.countP AgentMessage.isExitStatus = 2 ∧
      .close ∉ v.told := by
  decide

end Conversation

end Agent

end CommandRelay
