import CommandRelay.Proofs.Relay.Flow

/-!
# Output on the agent's side

Whatever moves were made, each pump has sent what its source brought, in order and up to what it has
read, and the end is reported once, after all output.

## Main definitions

* `outputOf` — the output, or error output, among some messages.
* `Agent.Source.serving?` — the source that output or error output comes from.
* `Flow.AgentSide` — what always holds on the agent's side.

## Main results

* `Agent.Supervision.report_eq` — the report of an end.
* `Flow.AgentSide.step` — every move keeps what holds on the agent's side.
-/

namespace CommandRelay

open Agent (Source Supervision ChildEvent farewell)
open Client (Session Event)

/-- Whether a message is output. -/
def AgentMessage.isOutput : AgentMessage → Bool
  | .data _ | .errorData _ => true
  | _ => false

/-- The output, or error output, that a message brings. -/
def AgentMessage.bytes (toError : Bool) : AgentMessage → List UInt8
  | .data bytes => if toError then [] else bytes
  | .errorData bytes => if toError then bytes else []
  | _ => []

/-- The output, or error output, among some messages. -/
def outputOf (toError : Bool) (ms : List AgentMessage) : List UInt8 :=
  ms.flatMap (AgentMessage.bytes toError)

/-- No messages carry output. -/
@[simp] lemma outputOf_nil (toError : Bool) : outputOf toError [] = [] := rfl

/-- Messages one after another carry what each of them does. -/
@[simp] lemma outputOf_append (toError : Bool) (a b : List AgentMessage) :
    outputOf toError (a ++ b) = outputOf toError a ++ outputOf toError b :=
  List.flatMap_append

/-- The output of the first message comes first. -/
@[simp] lemma outputOf_cons (toError : Bool) (m : AgentMessage) (ms : List AgentMessage) :
    outputOf toError (m :: ms) = m.bytes toError ++ outputOf toError ms :=
  List.flatMap_cons

/-! ## Sources -/

namespace Agent

/-- The source that output, or error output, comes from, if there is one: error output on the
terminal is no different from output that is also there. -/
def Source.serving? (s : Streams) (toError : Bool) : Option Source :=
  if s.marks toError then if toError && s.stdout then none else some .terminal
  else some (.pipe toError)

/-- A source that is served goes where it is the one to come from. -/
lemma Source.isError_iff {s : Streams} {source : Source} (h : source ∈ Source.ofStreams s)
    (toError : Bool) : source.isError s = toError ↔ Source.serving? s toError = some source := by
  obtain ⟨i, o, e⟩ := s
  revert h
  cases source <;> cases o <;> cases e <;> cases toError <;> simp [Source.ofStreams,
    Source.isError, Source.serving?, Streams.marks, Source.pipe]

/-- The pipe of output that is not on the terminal is served. -/
lemma Source.pipe_mem {s : Streams} {toError : Bool} (h : s.marks toError = false) :
    Source.pipe toError ∈ Source.ofStreams s := by
  cases toError <;> simp [Streams.marks] at h <;> simp [Source.ofStreams, h, Source.pipe]

/-- No pipe is the terminal. -/
@[simp] lemma Source.pipe_ne_terminal (toError : Bool) : Source.pipe toError ≠ .terminal := by
  cases toError <;> simp [Source.pipe]

/-- The two pipes are different sources. -/
lemma Source.pipe_injective : Function.Injective Source.pipe := by
  intro a b h
  cases a <;> cases b <;> first | rfl | cases h

/-- What a source has to say is output on one of the two channels, and none on the other. -/
lemma Source.bytes_message (s : Streams) (source : Source) (bytes : List UInt8) (toError : Bool) :
    (source.message s bytes).bytes toError = if source.isError s = toError then bytes else [] := by
  rw [Source.message]
  cases source.isError s <;> cases toError <;> rfl

/-! ## Supervision -/

namespace Supervision

/-- What was sent of the end, if it was reported. -/
def lastWords (v : Supervision) : List AgentMessage :=
  if v.reported then (v.status.map fun status => farewell (WaitStatus.exitCode status)).getD []
  else []

/-- Nothing was sent of an end that was not reported. -/
lemma lastWords_of_not {v : Supervision} (h : v.reported = false) : v.lastWords = [] := by
  rw [lastWords, h]
  rfl

/-- **The report** of an end that was not reported before: it is made if the child has ended and no
source is left. -/
lemma report_eq {v : Supervision} (h : v.reported = false) :
    v.report.1 = { v with reported := v.status.isSome && v.sources.isEmpty } ∧
      v.report.2 = v.report.1.lastWords := by
  obtain ⟨streams, sources, status, reported⟩ := v
  obtain rfl : reported = false := h
  cases status <;> cases sources <;> exact ⟨rfl, rfl⟩

/-- The agent never answers a start request once the child is there. -/
lemma reply_notMem_step (v : Supervision) (e : ChildEvent) (accepted : Bool) :
    .reply accepted ∉ (v.step e).2 := by
  have hreport : ∀ w : Supervision, .reply accepted ∉ w.report.2 := by
    intro w
    rw [report]
    cases w.status with
    | none => simp
    | some status =>
      simp only
      split_ifs <;> simp [farewell]
  cases e with
  | output source bytes =>
    simp only [step, Source.message]
    split_ifs <;> simp
  | ended source => exact hreport _
  | exited status => exact hreport _

end Supervision

end Agent

namespace Flow

/-! ## What always holds -/

/-- What was sent of output, or of error output, by the pump that it comes from. -/
def passedTo (s : Streams) (f : Flow) (toError : Bool) : List UInt8 :=
  match Source.serving? s toError with
  | some source => (f.pumps source).passed
  | none => []

/-- What always holds on the agent's side of a child with some streams on its terminal. -/
structure AgentSide (s : Streams) (f : Flow) : Prop where
  streams : f.process.streams = s
  /-- Where a stream is on the terminal, there is one. -/
  device : ∀ toError, s.marks toError = true → f.process.terminal.isSome = true
  supervised : f.supervision.streams = s
  known : ∀ source ∈ f.supervision.sources, source ∈ Source.ofStreams s
  /-- What was written to a pipe has come from it. -/
  piped : ∀ toError, s.marks toError = false →
    (f.pumps (.pipe toError)).come = f.written toError
  /-- A source that has ended was at its end. -/
  atEnd : ∀ source ∈ Source.ofStreams s, source ∉ f.supervision.sources →
    (f.pumps source).closed = true ∧ (f.pumps source).unread = []
  /-- No pump holds a piece of a source that has ended. -/
  idle : ∀ source, source ∉ f.supervision.sources → (f.pumps source).hand = []
  /-- What the agent knows of the child's end is true. -/
  noticed : ∀ status, f.supervision.status = some status → f.exited = some status
  /-- The end is reported as soon as nothing is left to do. -/
  prompt : f.supervision.reported =
    (f.supervision.status.isSome && f.supervision.sources.isEmpty)
  /-- What was sent is the acceptance, the output, and the end if it was reported. -/
  log : ∃ outputs, (∀ m ∈ outputs, m.isOutput = true) ∧
    f.sent = .reply true :: outputs ++ f.supervision.lastWords ∧
    ∀ toError, outputOf toError outputs = f.passedTo s toError

namespace AgentSide

/-- It holds where a child has just been started. -/
lemma start {spec : Launch} (hterminal : spec.terminal.isSome = spec.streams.any)
    (session : Session) : AgentSide spec.streams (Flow.start spec session) where
  streams := rfl
  device toError h := by
    have hany : spec.streams.any = true := by
      cases toError <;> simp [Streams.marks] at h <;> simp [Streams.any, h]
    simpa [Flow.start, Process.ofSpec] using hterminal.trans hany
  supervised := rfl
  known source h := h
  piped toError _ := rfl
  atEnd source h h' := absurd h h'
  idle source _ := rfl
  noticed status h := by cases h
  prompt := rfl
  log := by
    refine ⟨[], by simp, rfl, fun toError => ?_⟩
    rw [passedTo]
    cases Source.serving? spec.streams toError <;> rfl

variable {s : Streams} {f : Flow}

/-- While a source is left, the end was not reported. -/
lemma unreported (h : AgentSide s f) {source : Source} (hs : source ∈ f.supervision.sources) :
    f.supervision.reported = false := by
  rw [h.prompt]
  cases hsources : f.supervision.sources with
  | nil =>
    rw [hsources] at hs
    cases hs
  | cons => simp

/-- **Something comes from sources** that are not at their end. -/
lemma of_brought (h : AgentSide s f) {process : Process} {written : Bool → List UInt8}
    {pumps : Source → Pump} (extra : Source → List UInt8) (hstreams : process.streams = s)
    (hdevice : f.process.terminal.isSome = true → process.terminal.isSome = true)
    (hpumps : ∀ source, pumps source =
      { f.pumps source with unread := (f.pumps source).unread ++ extra source })
    (hclosed : ∀ source, (f.pumps source).closed = true → extra source = [])
    (hwritten : ∀ toError, s.marks toError = false →
      written toError = f.written toError ++ extra (.pipe toError)) :
    AgentSide s { f with process, written, pumps } where
  streams := hstreams
  device toError hmarks := hdevice (h.device toError hmarks)
  supervised := h.supervised
  known := h.known
  piped toError hmarks := by
    simp only [hpumps, hwritten toError hmarks, ← h.piped toError hmarks]
    simp [Pump.come, Pump.taken]
  atEnd source hs hnot := by
    obtain ⟨hclose, hunread⟩ := h.atEnd source hs hnot
    simp [hpumps, hclose, hunread, hclosed source hclose]
  idle source hnot := by simpa [hpumps] using h.idle source hnot
  noticed := h.noticed
  prompt := h.prompt
  log := by
    obtain ⟨outputs, hout, hsent, hpassed⟩ := h.log
    refine ⟨outputs, hout, hsent, fun toError => (hpassed toError).trans ?_⟩
    rw [passedTo, passedTo]
    cases Source.serving? s toError with
    | none => rfl
    | some source => simp [hpumps]

/-- **A pump changes** without sending anything.

**Proof sketch.** Field by field: what is said of the other pumps stays, and what is said of this
one follows from what has not changed of it, namely all that has come and all that has passed.  A
pump that is waited for no longer must stay empty and closed. -/
lemma of_update (h : AgentSide s f) {source : Source} {p : Pump}
    (hcome : p.come = (f.pumps source).come) (hpassed : p.passed = (f.pumps source).passed)
    (hend : source ∉ f.supervision.sources → p.hand = [] ∧
      p.unread = (f.pumps source).unread ∧ ((f.pumps source).closed = true → p.closed = true)) :
    AgentSide s { f with pumps := Function.update f.pumps source p } where
  streams := h.streams
  device := h.device
  supervised := h.supervised
  known := h.known
  piped toError hmarks := by
    by_cases heq : Source.pipe toError = source
    · subst heq
      simpa [hcome] using h.piped toError hmarks
    · simpa [Function.update_of_ne heq] using h.piped toError hmarks
  atEnd source' hs hnot := by
    obtain ⟨hclose, hunread⟩ := h.atEnd source' hs hnot
    by_cases heq : source' = source
    · subst heq
      obtain ⟨-, hu, hc⟩ := hend hnot
      simp [hu, hunread, hc hclose]
    · simp [Function.update_of_ne heq, hclose, hunread]
  idle source' hnot := by
    by_cases heq : source' = source
    · subst heq
      simpa using (hend hnot).1
    · simpa [Function.update_of_ne heq] using h.idle source' hnot
  noticed := h.noticed
  prompt := h.prompt
  log := by
    obtain ⟨outputs, hout, hsent, hold⟩ := h.log
    refine ⟨outputs, hout, hsent, fun toError => (hold toError).trans ?_⟩
    rw [passedTo, passedTo]
    cases Source.serving? s toError with
    | none => rfl
    | some source' =>
      by_cases heq : source' = source
      · subst heq
        simp [hpassed]
      · simp [Function.update_of_ne heq]

/-- **A pump sends** the piece that it has read.

**Proof sketch.** A pump with a piece in hand is waited for, so nothing has been reported, and the
agent sends the piece on.  The output that was sent is longer by this piece, on the one channel that
its source serves, and so is what has passed from there; the other sources are not touched. -/
lemma of_pass (h : AgentSide s f) {source : Source} (hhand : (f.pumps source).hand ≠ []) :
    AgentSide s (({ f with
      pumps := Function.update f.pumps source { f.pumps source with
        passed := (f.pumps source).passed ++ (f.pumps source).hand, hand := [] } }).tell
      (.output source (f.pumps source).hand)) := by
  have hsource : source ∈ f.supervision.sources := by
    by_contra hnot
    exact hhand (h.idle source hnot)
  have hstep : f.supervision.step (.output source (f.pumps source).hand) =
      (f.supervision, [source.message s (f.pumps source).hand]) := by
    simp [Supervision.step, hsource, h.supervised]
  constructor
  case streams => exact h.streams
  case device => exact h.device
  case supervised => simpa [tell, hstep] using h.supervised
  case known => simpa [tell, hstep] using h.known
  case piped =>
    intro toError hmarks
    by_cases heq : Source.pipe toError = source
    · subst heq
      simpa [tell, Pump.come, Pump.taken] using h.piped toError hmarks
    · simpa [tell, Function.update_of_ne heq] using h.piped toError hmarks
  case atEnd =>
    -- a source that is waited for no longer is not the one that sends
    intro source' hs hnot
    simp only [tell, hstep] at hnot
    have hne : source' ≠ source := fun heq => hnot (heq ▸ hsource)
    simpa [tell, Function.update_of_ne hne] using h.atEnd source' hs hnot
  case idle =>
    intro source' hnot
    simp only [tell, hstep] at hnot
    have hne : source' ≠ source := fun heq => hnot (heq ▸ hsource)
    simpa [tell, Function.update_of_ne hne] using h.idle source' hnot
  case noticed => simpa [tell, hstep] using h.noticed
  case prompt => simpa [tell, hstep] using h.prompt
  case log =>
    obtain ⟨outputs, hout, hsent, hpassed⟩ := h.log
    have hquiet := Supervision.lastWords_of_not (h.unreported hsource)
    refine ⟨outputs ++ [source.message s (f.pumps source).hand], ?_, ?_, fun toError => ?_⟩
    · intro m hm
      rcases List.mem_append.1 hm with hm | hm
      · exact hout m hm
      · rw [List.mem_singleton.1 hm, Source.message]
        split_ifs <;> rfl
    · simp [tell, hstep, hsent, hquiet]
    · -- the piece goes where its source is the one to come from
      rw [outputOf_append, hpassed toError, outputOf_cons, outputOf_nil, List.append_nil,
        Source.bytes_message, passedTo, passedTo]
      have hiff := Source.isError_iff (h.known source hsource) toError
      by_cases hserve : Source.serving? s toError = some source
      · simp [tell, hserve, hiff.2 hserve]
      · rw [if_neg (mt hiff.1 hserve), List.append_nil]
        cases hother : Source.serving? s toError with
        | none => rfl
        | some source' =>
          have hne : source' ≠ source := fun heq => hserve (heq ▸ hother)
          simp [tell, Function.update_of_ne hne]

/-- **The agent learns of an end**, of a source or of the child, which it may report.

**Proof sketch.** The agent keeps its streams and knows no more sources than before.  A source that
is waited for no longer has ended.  Nothing was reported before, so what was sent is output up to
now, and the report, if it is made, is the end of it. -/
lemma of_report (h : AgentSide s f) (hquiet : f.supervision.reported = false) {v : Supervision}
    (hstreams : v.streams = s) (hreported : v.reported = false)
    (hknown : ∀ source ∈ v.sources, source ∈ Source.ofStreams s)
    (hend : ∀ source ∉ v.sources, source ∈ f.supervision.sources →
      (f.pumps source).hand = [] ∧ (f.pumps source).unread = [] ∧ (f.pumps source).closed = true)
    (hnoticed : ∀ status, v.status = some status → f.exited = some status) :
    AgentSide s { f with
      supervision := v.report.1
      channel := f.channel ++ v.report.2
      sent := f.sent ++ v.report.2 } := by
  obtain ⟨hfirst, hsecond⟩ := Supervision.report_eq hreported
  have hsources : v.report.1.sources = v.sources := by rw [hfirst]
  have hstatus : v.report.1.status = v.status := by rw [hfirst]
  constructor
  case streams => exact h.streams
  case device => exact h.device
  case supervised =>
    show v.report.1.streams = s
    rw [hfirst]
    exact hstreams
  case known =>
    intro source hs
    exact hknown source (hsources ▸ hs)
  case piped => exact h.piped
  case atEnd =>
    intro source hs hnot
    replace hnot : source ∉ v.sources := hsources ▸ hnot
    by_cases hold : source ∈ f.supervision.sources
    · obtain ⟨-, hunread, hclose⟩ := hend source hnot hold
      exact ⟨hclose, hunread⟩
    · exact h.atEnd source hs hold
  case idle =>
    intro source hnot
    replace hnot : source ∉ v.sources := hsources ▸ hnot
    by_cases hold : source ∈ f.supervision.sources
    · exact (hend source hnot hold).1
    · exact h.idle source hold
  case noticed =>
    intro status hs
    exact hnoticed status (hstatus ▸ hs)
  case prompt =>
    show v.report.1.reported = (v.report.1.status.isSome && v.report.1.sources.isEmpty)
    rw [hfirst]
  case log =>
    -- nothing was reported before, so the report comes after the output
    obtain ⟨outputs, hout, hsent, hpassed⟩ := h.log
    refine ⟨outputs, hout, ?_, hpassed⟩
    rw [Supervision.lastWords_of_not hquiet, List.append_nil] at hsent
    simp only [hsent, hsecond]

/-! ## Every move -/

/-- Nothing is brought to a source at its end. -/
lemma brought_of_closed {pumps : Source → Pump} {output : List Output}
    (hopen : (output.all fun o => !(pumps o.1).closed) = true) {source : Source}
    (hclosed : (pumps source).closed = true) : brought source output = [] := by
  refine List.flatMap_eq_nil_iff.2 fun o ho => ?_
  have ho' := List.all_eq_true.1 hopen o ho
  have hne : o.1 ≠ source := by
    rintro rfl
    simp [hclosed] at ho'
  rw [if_neg hne]

/-- The child writes.

**Proof sketch.** The child writes to a pipe or to the terminal.  What it writes comes to the pump
of that one source, which is open, so that `of_brought` applies: what has come is what was written,
and no other pipe gets any of it. -/
lemma of_write (h : AgentSide s f) {toError : Bool} {bytes : List UInt8}
    (hopen : ((f.process.write toError bytes).2.all fun o => !(f.pumps o.1).closed) = true) :
    AgentSide s { f with
      process := (f.process.write toError bytes).1
      written := Function.update f.written toError (f.written toError ++ bytes)
      pumps := (f.process.write toError bytes).2.foldl put f.pumps } := by
  have hclosed : ∀ source, (f.pumps source).closed = true →
      brought source (f.process.write toError bytes).2 = [] := fun _ h => brought_of_closed hopen h
  cases hmarks : s.marks toError with
  | false =>
    have hwrite := Process.write_of_pipe (h.streams ▸ hmarks) bytes
    rw [hwrite] at hclosed ⊢
    refine h.of_brought _ h.streams id (foldl_put _ _) hclosed fun e _ => ?_
    cases hbytes : bytes.isEmpty with
    | true =>
      by_cases he : e = toError <;> simp [brought, he, List.isEmpty_iff.1 hbytes]
    | false =>
      by_cases he : e = toError
      · simp [brought, he]
      · have hpipe : Source.pipe toError ≠ Source.pipe e := fun heq =>
          he (Source.pipe_injective heq).symm
        simp [brought, he, hpipe]
  | true =>
    obtain ⟨hstreams, hdevice, honly⟩ :=
      Process.write_of_terminal (h.streams ▸ hmarks) (h.device toError hmarks) bytes
    refine h.of_brought _ (hstreams.trans h.streams) (fun _ => hdevice) (foldl_put _ _) hclosed
      fun e he => ?_
    have hne : e ≠ toError := by
      rintro rfl
      rw [hmarks] at he
      cases he
    have hnone : brought (.pipe e) (f.process.write toError bytes).2 = [] :=
      List.flatMap_eq_nil_iff.2 fun o ho => by
        rw [honly o ho, if_neg (Source.pipe_ne_terminal e).symm]
    simp [hne, hnone]

/-- The terminal sends something by itself. -/
lemma of_echo (h : AgentSide s f) (device : Terminal.Device) {bytes : List UInt8}
    (hopen : (f.pumps .terminal).closed = false) :
    AgentSide s { f with
      process := { f.process with terminal := some device }
      pumps := put f.pumps (.terminal, bytes) } := by
  refine h.of_brought (fun source => brought source [(.terminal, bytes)])
    h.streams (fun _ => rfl) (foldl_put f.pumps [(.terminal, bytes)]) (fun source hclosed => ?_)
    fun e _ => ?_
  · exact brought_of_closed (by simpa using hopen) hclosed
  · simp [brought, (Source.pipe_ne_terminal e).symm]

/-- What happens to the client makes no difference on the agent's side. -/
lemma of_happen (h : AgentSide s f) (t : Terminal.Pty) (e : Event) : AgentSide s (f.happen t e) :=
  ⟨h.streams, h.device, h.supervised, h.known, h.piped, h.atEnd, h.idle, h.noticed, h.prompt,
    h.log⟩

/-- **Every move** keeps what holds on the agent's side.

**Proof sketch.** By cases of the move.  A child that writes, a terminal that echoes, a pump that
passes and an end that is learnt of have lemmas of their own; the other moves change nothing on the
agent's side but a pump that reads or closes, or the messages that the client takes. -/
lemma step (h : AgentSide s f) {move : Move} {g : Flow} (hstep : f.Step move g) :
    AgentSide s g := by
  cases hstep with
  | write toError bytes hopen => exact h.of_write hopen
  | echo device bytes hopen => exact h.of_echo device hopen
  | close source =>
    exact h.of_update rfl rfl fun hnot => ⟨h.idle source hnot, rfl, fun _ => rfl⟩
  | exit status hexited =>
    -- the agent knows of no end before there is one
    have hunknown : ∀ st, f.supervision.status ≠ some st := by
      intro st hst
      rw [h.noticed st hst] at hexited
      cases hexited
    exact ⟨h.streams, h.device, h.supervised, h.known, h.piped, h.atEnd, h.idle,
      fun st hst => absurd hst (hunknown st), h.prompt, h.log⟩
  | read source size hsource hhand =>
    refine h.of_update ?_ rfl fun hnot => absurd hsource hnot
    simp [Pump.come, Pump.taken, hhand]
  | pass source hhand => exact h.of_pass hhand
  | finish source hsource hhand hunread hclosed =>
    have hquiet := h.unreported hsource
    apply h.of_report (v := { f.supervision with
      sources := f.supervision.sources.filter (· ≠ source) }) hquiet h.supervised hquiet
    · intro source' hs
      exact h.known source' (List.mem_filter.1 hs).1
    · -- only the source that has ended is waited for no longer
      intro source' hnot hold
      obtain rfl : source' = source := by
        by_contra hne
        exact hnot (List.mem_filter.2 ⟨hold, by simpa using hne⟩)
      exact ⟨hhand, hunread, hclosed⟩
    · exact h.noticed
  | wait status hexited hunknown =>
    have hquiet : f.supervision.reported = false := by simp [h.prompt, hunknown]
    apply h.of_report (v := { f.supervision with
      status := f.supervision.status.or (some status) }) hquiet h.supervised hquiet h.known
    · intro source hnot hold
      exact absurd hold hnot
    · intro st hst
      rw [hexited, ← hst, hunknown]
      rfl
  | receive t m rest =>
    have hrest : AgentSide s { f with channel := rest } :=
      ⟨h.streams, h.device, h.supervised, h.known, h.piped, h.atEnd, h.idle, h.noticed, h.prompt,
        h.log⟩
    exact hrest.of_happen t _
  | leave t => exact h.of_happen t _
  | local_ t e => exact h.of_happen t e

end AgentSide

end Flow

end CommandRelay
