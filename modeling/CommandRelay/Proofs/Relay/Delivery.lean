import CommandRelay.Proofs.Relay.Client

/-!
# Output is delivered

However the child, the pumps of the agent, its wait for the child and the client take turns: when
the client has come to the end of a session, it has written exactly what the child wrote, stream by
stream and in order, and it ends with the code of the child.  And it comes to that end, once the
child has ended and nobody holds its streams, in whatever order the work that is left is done.

## Main definitions

* `Flow.Delivered` — what was delivered when the client goes on no more.
* `Flow.IsOver` — the child has ended, and nobody could write any more.
* `Flow.work` — a bound on the work that is left.

## Main results

* `Flow.delivered_of_sides` — what holds on both sides, put together at the end.
* `Flow.work_lt` — every inner move does some of the work.
* `Flow.exists_inner` — while the session has not ended, some work is left.
* `Flow.output_delivered` — output is delivered.
-/

namespace CommandRelay

open Agent (Source Supervision ChildEvent farewell)
open Client (Session Phase)

/-! ## Codes -/

namespace WaitStatus

/-- The code that is reported for any wait status fits in a byte. -/
lemma exitCode_lt (raw : Int) : exitCode raw < 256 := by
  rw [exitCode, classify]
  split_ifs with hexit hother
  · show (raw / 256 % 256).toNat < 256
    omega
  · show 255 < 256
    omega
  · show 128 + (raw % 128).toNat < 256
    omega

end WaitStatus

/-- Output says nothing of the end of a session. -/
lemma ExitReport.foldl_hear_of_output {outputs : List AgentMessage}
    (h : ∀ m ∈ outputs, m.isOutput = true) (r : ExitReport) :
    outputs.foldl ExitReport.hear r = r := by
  induction outputs generalizing r with
  | nil => rfl
  | cons m outputs ih =>
    have hm : r.hear m = r := by
      have hout := h m List.mem_cons_self
      cases m <;> first | rfl | cases hout
    rw [List.foldl_cons, hm]
    exact ih (fun m' hm' => h m' (List.mem_cons_of_mem _ hm')) r

/-- The code of a session in which one status was reported, after the output, is that status. -/
lemma code_reportOf {outputs : List AgentMessage} (h : ∀ m ∈ outputs, m.isOutput = true)
    {code : Nat} (hcode : code < 256) :
    (reportOf (.reply true :: outputs ++ farewell code)).code = code := by
  have hstatus : ExitReport.ofStatus code = code := if_pos (by omega)
  rw [reportOf, List.foldl_append, List.foldl_cons]
  show ((farewell code).foldl ExitReport.hear (outputs.foldl ExitReport.hear {})).code = code
  rw [ExitReport.foldl_hear_of_output h]
  exact hstatus

/-- Where a list ends with something that it holds once, a first part that holds it is all. -/
lemma append_eq_nil_of_mem {α : Type} {front first rest : List α} {last : α}
    (hnot : last ∉ front) (h : front ++ [last] = first ++ rest) (hmem : last ∈ first) :
    rest = [] := by
  rcases List.eq_nil_or_concat rest with hrest | ⟨rest', x, hrest⟩
  · exact hrest
  · rw [hrest, List.concat_eq_append, ← List.append_assoc] at h
    have hfront := (List.append_inj' h rfl).1
    exact absurd (hfront ▸ List.mem_append_left _ hmem) hnot

namespace Flow

/-! ## What is delivered -/

/-- What was delivered, for a child with some streams on its terminal, when the client goes on no
more. -/
structure Delivered (s : Streams) (f : Flow) : Prop where
  /-- The local output is what was read from the terminal if the output is on it, else what was
  written to the output. -/
  output : f.shown false =
    if s.stdout then (f.pumps .terminal).taken else f.written false
  /-- The local error output is what was read from the terminal if the error output is on it and the
  output is not; it is nothing if both are on it, else what was written to the error output. -/
  errorOutput : f.shown true =
    if s.stderr then if s.stdout then [] else (f.pumps .terminal).taken else f.written true
  /-- All was read that came from a source. -/
  drained : ∀ source ∈ Source.ofStreams s, (f.pumps source).unread = []
  /-- The agent has sent output, then the exit status, the end of output and the close, once each,
  where the status is that of the child. -/
  reported : ∃ status outputs, f.exited = some status ∧ (∀ m ∈ outputs, m.isOutput = true) ∧
    f.sent = .reply true :: outputs ++
      [.exitStatus (WaitStatus.exitCode status), .eof, .close]
  /-- A session that has ended has the code of a child that exited with one, and a code of its own
  for each signal that the child died of. -/
  result : ∀ status result, f.exited = some status → f.session.result? = some result →
    (∀ code, WaitStatus.classify status = .exited code → result = .ok code) ∧
      ∀ n, WaitStatus.classify status = .signalled n → result = .ok (128 + n)

section Sides

variable {s : Streams} {f : Flow} {received : List AgentMessage}

/-- Once the end was reported, every pump has sent what came from its source. -/
lemma passedTo_of_ended (ha : AgentSide s f) (hsources : f.supervision.sources = [])
    (toError : Bool) :
    f.passedTo s toError =
      if s.marks toError then if toError && s.stdout then [] else (f.pumps .terminal).taken
      else f.written toError := by
  have hhand : ∀ source, (f.pumps source).hand = [] := fun source =>
    ha.idle source (by simp [hsources])
  rw [passedTo, Source.serving?]
  cases hmarks : s.marks toError with
  | false =>
    obtain ⟨-, hunread⟩ := ha.atEnd _ (Source.pipe_mem hmarks) (by simp [hsources])
    have hcome := ha.piped toError hmarks
    simpa [Pump.come, Pump.taken, hhand, hunread] using hcome
  | true => cases toError && s.stdout <;> simp [Pump.taken, hhand]

/-- A client that goes on no more has received everything, and the end was reported.

**Proof sketch.** A client that goes on no more has received the close of the channel, so it was
sent.  It is neither the answer nor output, so it belongs to the last words, which are sent only
after a report.  Since it comes last and comes once, nothing is left in the channel behind it. -/
lemma reported_of_left (ha : AgentSide s f) (hc : ClientSide received f)
    (hphase : f.session.phase ≠ .running) :
    ∃ status outputs, f.supervision.status = some status ∧ f.supervision.sources = [] ∧
      (∀ m ∈ outputs, m.isOutput = true) ∧
      (∀ toError, outputOf toError outputs = f.passedTo s toError) ∧
      f.sent = .reply true :: outputs ++ farewell (WaitStatus.exitCode status) ∧
      received = f.sent := by
  have hclose : .close ∈ received := by
    rcases hc.phase with ⟨hrunning, -⟩ | ⟨hclose, -⟩
    · exact absurd hrunning hphase
    · exact hclose
  obtain ⟨outputs, hout, hsent, hpassed⟩ := ha.log
  have hnot : .close ∉ AgentMessage.reply true :: outputs := by
    intro hmem
    rcases List.mem_cons.1 hmem with hmem | hmem
    · cases hmem
    · cases hout _ hmem
  have hmem : .close ∈ f.sent := hc.queue ▸ List.mem_append_left _ hclose
  have hreported : f.supervision.reported = true := by
    by_contra hunreported
    rw [hsent, Supervision.lastWords_of_not (by simpa using hunreported), List.append_nil] at hmem
    exact hnot hmem
  have hprompt := ha.prompt
  rw [hreported, eq_comm, Bool.and_eq_true] at hprompt
  obtain ⟨hstatus, hsources⟩ := hprompt
  obtain ⟨status, hstatus⟩ := Option.isSome_iff_exists.1 hstatus
  have hwords : f.supervision.lastWords = farewell (WaitStatus.exitCode status) := by
    simp [Supervision.lastWords, hreported, hstatus]
  rw [hwords] at hsent
  refine ⟨status, outputs, hstatus, List.isEmpty_iff.1 hsources, hout, hpassed, hsent, ?_⟩
  -- the close is sent once and last, so nothing is left behind it
  have hfront : .close ∉ AgentMessage.reply true :: outputs ++
      [.exitStatus (WaitStatus.exitCode status), .eof] := by
    intro hmem
    rcases List.mem_append.1 hmem with hmem | hmem
    · exact hnot hmem
    · simp at hmem
  have hrest : f.channel = [] := by
    refine append_eq_nil_of_mem hfront ?_ hclose
    rw [← hc.queue, hsent]
    simp [farewell]
  rw [hc.queue, hrest, List.append_nil]

/-- **What holds on both sides**, put together when the client goes on no more.

**Proof sketch.** The client has received the close, which the agent sends once and last; so it has
received everything.  What it has written is the output among that, and what every pump has sent is
all that came from its source. -/
lemma delivered_of_sides (ha : AgentSide s f) (hc : ClientSide received f)
    (hphase : f.session.phase ≠ .running) : Delivered s f := by
  obtain ⟨status, outputs, hstatus, hsources, hout, hpassed, hsent, hall⟩ :=
    reported_of_left ha hc hphase
  have hshown : ∀ toError, f.shown toError = f.passedTo s toError := by
    intro toError
    rw [hc.shown, hall, hsent, ← hpassed toError]
    simp [farewell, AgentMessage.bytes]
  refine ⟨?_, ?_, ?_, ⟨status, outputs, ha.noticed status hstatus, hout, hsent⟩, ?_⟩
  · rw [hshown, passedTo_of_ended ha hsources]
    rfl
  · rw [hshown, passedTo_of_ended ha hsources]
    rfl
  · intro source hs
    exact (ha.atEnd source hs (by simp [hsources])).2
  · intro status' result hexited hresult
    have hsame : status' = status := by
      rw [ha.noticed status hstatus] at hexited
      exact (Option.some.inj hexited).symm
    subst hsame
    have hcode : result = .ok (WaitStatus.exitCode status' : Int) := by
      rcases hc.phase with ⟨hrunning, -⟩ | ⟨-, hleaving | hended⟩
      · exact absurd hrunning hphase
      · simp [Session.result?, hleaving] at hresult
      · rw [hall, hsent, code_reportOf hout (WaitStatus.exitCode_lt status')] at hended
        simpa [Session.result?, hended] using hresult.symm
    refine ⟨fun code hcase => ?_, fun n hcase => ?_⟩
    · rw [hcode, WaitStatus.exitCode, hcase]
    · rw [hcode, WaitStatus.exitCode, hcase]
      rfl

end Sides

/-! ## The end is reached -/

/-- The child has ended, and nobody could write any more. -/
def IsOver (f : Flow) : Prop :=
  f.exited.isSome = true ∧ ∀ source ∈ f.supervision.sources, (f.pumps source).closed = true

/-- The work that a source makes. -/
def pumpWork (p : Pump) : Nat := 3 * p.unread.length + if p.hand = [] then 0 else 2

/-- The work that all sources make. -/
def pumpsWork (pumps : Source → Pump) : Nat :=
  pumpWork (pumps .terminal) + pumpWork (pumps .stdout) + pumpWork (pumps .stderr)

/-- The work that is left in learning of the ends of the sources and of the child. -/
def endWork (v : Supervision) : Nat :=
  5 * v.sources.length + if v.status.isSome then 0 else 4

/-- The work that is left in a phase of the session. -/
def phaseWork : Phase → Nat
  | .running => 2
  | .leaving => 1
  | _ => 0

/-- A bound on the work that is left: reading and sending pieces, learning of ends, receiving
messages and giving the connection up. -/
def work (f : Flow) : Nat :=
  pumpsWork f.pumps + endWork f.supervision + f.channel.length + phaseWork f.session.phase

/-- There are two phases to go at most. -/
lemma phaseWork_le (phase : Phase) : phaseWork phase ≤ 2 := by
  cases phase <;> simp [phaseWork]

/-- A pump that has less work left leaves less work for all. -/
lemma pumpsWork_update {pumps : Source → Pump} {source : Source} {p : Pump} {n : Nat}
    (h : pumpWork p + n ≤ pumpWork (pumps source)) :
    pumpsWork (Function.update pumps source p) + n ≤ pumpsWork pumps := by
  cases source <;> simp [pumpsWork, Function.update] <;> omega

/-- A report changes nothing but itself, and consists of at most three messages. -/
lemma report_frame (v : Supervision) :
    endWork v.report.1 = endWork v ∧ v.report.2.length ≤ 3 := by
  obtain ⟨streams, sources, status, reported⟩ := v
  cases status <;> cases sources <;> cases reported <;> simp [Supervision.report, endWork, farewell]

/-- An end that the agent learns of takes more work away than its report makes. -/
lemma work_report {f : Flow} {v : Supervision} (h : endWork v + 3 < endWork f.supervision) :
    ({ f with
      supervision := v.report.1
      channel := f.channel ++ v.report.2
      sent := f.sent ++ v.report.2 } : Flow).work < f.work := by
  obtain ⟨hend, hmessages⟩ := report_frame v
  simp only [work, hend, List.length_append]
  omega

/-- **Every inner move** does some of the work.

**Proof sketch.** By cases of the step.  The work counts bytes that are unread or in hand, messages
in the channel, what the agent waits for and the phases that are left, with weights that make every
inner move lower it: reading takes a byte at least, a piece that passes is worth more than its
message, and a report more than the messages that it sends. -/
lemma work_lt {f g : Flow} {move : Move} (hinner : move.isInner = true) (hstep : f.Step move g) :
    g.work < f.work := by
  cases hstep with
  | read source size hsource hhand hpos hsize =>
    have hless : pumpsWork (Function.update f.pumps source
        ⟨(f.pumps source).unread.drop size, (f.pumps source).unread.take size,
          (f.pumps source).passed, (f.pumps source).closed⟩) + 1 ≤ pumpsWork f.pumps := by
      apply pumpsWork_update
      simp only [pumpWork, hhand, List.length_drop, if_true]
      split_ifs <;> omega
    simp only [work]
    omega
  | pass source hhand =>
    have hless : pumpsWork (Function.update f.pumps source
        ⟨(f.pumps source).unread, [], (f.pumps source).passed ++ (f.pumps source).hand,
          (f.pumps source).closed⟩) + 2 ≤ pumpsWork f.pumps := by
      apply pumpsWork_update
      simp [pumpWork, hhand]
    have hmessages : (f.supervision.step (.output source (f.pumps source).hand)).2.length ≤ 1 := by
      simp only [Supervision.step]
      split_ifs <;> simp
    simp only [work, tell, List.length_append, Supervision.step] at hmessages ⊢
    omega
  | finish source hsource =>
    have hfewer : (f.supervision.sources.filter (· ≠ source)).length <
        f.supervision.sources.length :=
      List.length_filter_lt_length_iff_exists.2 ⟨source, hsource, by simp⟩
    apply work_report
    simp only [endWork]
    omega
  | wait status hexited hunknown =>
    apply work_report
    simp [endWork, hunknown]
  | receive t m rest hchannel hphase =>
    have hle := phaseWork_le (f.session.step t (.received m)).1.phase
    have hnow : phaseWork f.session.phase = 2 := by rw [hphase]; rfl
    simp only [work, happen, hchannel, List.length_cons]
    omega
  | leave t hphase =>
    have hend : phaseWork (f.session.step t .disconnected).1.phase = 0 := by
      rw [(Session.step_disconnected hphase t).2.1]
      rfl
    have hnow : phaseWork f.session.phase = 1 := by rw [hphase]; rfl
    simp only [work, happen]
    omega
  | _ => cases hinner

/-- A report of the end leaves the sources alone. -/
lemma sources_report (v : Supervision) : v.report.1.sources = v.sources := by
  obtain ⟨streams, sources, status, reported⟩ := v
  cases status <;> cases sources <;> cases reported <;> rfl

/-- What is over stays over. -/
lemma IsOver.step {f g : Flow} (hover : f.IsOver) {move : Move} (hinner : move.isInner = true)
    (hstep : f.Step move g) : g.IsOver := by
  obtain ⟨hexited, hclosed⟩ := hover
  have hupdate : ∀ source p, p.closed = (f.pumps source).closed →
      ∀ source' ∈ f.supervision.sources,
        (Function.update f.pumps source p source').closed = true := by
    intro source p hp source' hs
    by_cases heq : source' = source
    · subst heq
      simpa [hp] using hclosed source' hs
    · simpa [Function.update_of_ne heq] using hclosed source' hs
  cases hstep with
  | read source => exact ⟨hexited, hupdate source _ rfl⟩
  | pass source => exact ⟨hexited, hupdate source _ rfl⟩
  | finish source =>
    refine ⟨hexited, fun source' hs => hclosed source' ?_⟩
    simp only [tell, Supervision.step, sources_report] at hs
    exact (List.mem_filter.1 hs).1
  | wait =>
    refine ⟨hexited, fun source' hs => hclosed source' ?_⟩
    simpa only [tell, Supervision.step, sources_report] using hs
  | receive | leave => exact ⟨hexited, hclosed⟩
  | _ => cases hinner

/-- **Some work is left** while the session of a child that is over has not ended.

**Proof sketch.** If nothing is in the channel, the client has received no close, so the end was not
reported; then a source is left, whose pump can go on, or the end of the child was not noticed. -/
lemma exists_inner {s : Streams} {f : Flow} {received : List AgentMessage} (ha : AgentSide s f)
    (hc : ClientSide received f) (hover : f.IsOver)
    (hgoing : ∀ code, f.session.phase ≠ .ended code) :
    ∃ move, move.isInner = true ∧ (f.step? move).isSome = true := by
  obtain ⟨hexited, hclosed⟩ := hover
  obtain ⟨status, hexited⟩ := Option.isSome_iff_exists.1 hexited
  rcases hc.phase with ⟨hrunning, hopen⟩ | ⟨-, hleaving | hended⟩
  · cases hchannel : f.channel with
    | cons m rest => exact ⟨.receive default, rfl, by simp [step?, hchannel, hrunning]⟩
    | nil =>
      cases hsources : f.supervision.sources with
      | cons source rest =>
        have hmem : source ∈ f.supervision.sources := by simp [hsources]
        by_cases hhand : (f.pumps source).hand = []
        · by_cases hunread : (f.pumps source).unread = []
          · exact ⟨.finish source, rfl, by simp [step?, hmem, hhand, hunread, hclosed source hmem]⟩
          · have hsize : 1 ≤ (f.pumps source).unread.length :=
              List.length_pos_iff.2 hunread
            exact ⟨.read source 1, rfl, by simp [step?, hmem, hhand, hsize, Pump.limit]⟩
        · exact ⟨.pass source, rfl, by simp [step?, hhand]⟩
      | nil =>
        cases hknown : f.supervision.status with
        | none => exact ⟨.wait, rfl, by simp [step?, hexited, hknown]⟩
        | some status' =>
          -- the end was reported, so the client has received a close and does not run any more
          have hreported : f.supervision.reported = true := by
            simp [ha.prompt, hknown, hsources]
          obtain ⟨outputs, -, hsent, -⟩ := ha.log
          have hclose : .close ∈ f.sent := by
            rw [hsent]
            simp [Supervision.lastWords, hreported, hknown, farewell]
          rw [hc.queue, hchannel, List.append_nil] at hclose
          exact absurd hclose hopen
  · exact ⟨.leave default, rfl, by simp [step?, hleaving]⟩
  · exact absurd hended (hgoing _)

/-- Inner moves are no more than the work that was left, and what is over stays over. -/
lemma length_le_work {f g : Flow} {moves : List Move} (hinner : ∀ move ∈ moves, move.isInner = true)
    (hover : f.IsOver) (hrun : f.run? moves = some g) : moves.length ≤ f.work ∧ g.IsOver := by
  induction moves generalizing f with
  | nil =>
    obtain rfl : f = g := Option.some.inj hrun
    exact ⟨Nat.zero_le _, hover⟩
  | cons move moves ih =>
    obtain ⟨next, hnext, hrest⟩ := run?_cons.1 hrun
    have hfirst := hinner move List.mem_cons_self
    have hstep := step_of_step? hnext
    obtain ⟨hlength, hg⟩ := ih (fun m hm => hinner m (List.mem_cons_of_mem _ hm))
      (hover.step hfirst hstep) hrest
    have hless := work_lt hfirst hstep
    exact ⟨by rw [List.length_cons]; omega, hg⟩

/-! ## Every order of moves -/

/-- What holds on both sides holds after any moves. -/
lemma sides_of_run {s : Streams} {f g : Flow} {received : List AgentMessage} (ha : AgentSide s f)
    (hc : ClientSide received f) {moves : List Move} (hrun : f.run? moves = some g) :
    AgentSide s g ∧ ∃ received', ClientSide received' g := by
  refine run?_induction (motive := fun f => AgentSide s f ∧ ∃ received, ClientSide received f)
    ?_ ⟨ha, received, hc⟩ hrun
  rintro f move g ⟨ha, received, hc⟩ hstep
  exact ⟨ha.step (step_of_step? hstep), hc.step (step_of_step? hstep)⟩

/-- **Output is delivered.** For any child that a launch starts, whatever it writes and however it
ends, and for any order in which the pumps, the wait for the child, the client and everything
outside take turns: when the client goes on no more, all output is delivered.  Once the child has
ended and nobody could write any more, whatever is done of the work that is left comes to its end,
which is the end of the session.

**Proof sketch.** What holds on each side is kept by every move.  The work that is left gets less
with each inner move, and while the session has not ended some is left. -/
theorem output_delivered {r : LaunchRequest} {isDirectory : String → Bool}
    {payload : Option (List UInt8)} {host : HostProfile} {spec : Launch}
    (hlaunch : r.launch isDirectory payload host = .ok spec) (p : Plan) (terminals : Streams)
    (t : Terminal.Pty) {moves : List Move} {f : Flow}
    (hrun : (start spec (Session.afterOpening p terminals t).1).run? moves = some f) :
    (f.session.phase ≠ .running → Delivered spec.streams f) ∧
    (f.IsOver → ∀ inner g, (∀ move ∈ inner, move.isInner = true) → f.run? inner = some g →
      inner.length ≤ f.work ∧
      ((∀ move, move.isInner = true → g.step? move = none) →
        ∃ code, g.session.phase = .ended code)) := by
  obtain ⟨ha, received, hc⟩ := sides_of_run
    (AgentSide.start (LaunchRequest.terminal_of_launch hlaunch) _)
    (ClientSide.start spec p terminals t) hrun
  refine ⟨delivered_of_sides ha hc, fun hover inner g hinner hrun' => ?_⟩
  obtain ⟨hlength, hover'⟩ := length_le_work hinner hover hrun'
  obtain ⟨ha', received', hc'⟩ := sides_of_run ha hc hrun'
  refine ⟨hlength, fun hstuck => ?_⟩
  by_contra hgoing
  obtain ⟨move, hmove, hpossible⟩ := exists_inner ha' hc' hover' fun code hcode =>
    hgoing ⟨code, hcode⟩
  rw [hstuck move hmove] at hpossible
  cases hpossible

/-- The plan of an interactive shell without anything else. -/
def barePlan : Plan where
  route := default
  env := .empty
  metadata := {}
  payload := none

/-- The shell that is launched where nothing was asked for. -/
def bareLaunch : Launch where
  program := "/bin/sh"
  argv0 := "-sh"
  args := []
  cwd := "/"
  env := [("PATH", "/usr/local/sbin:/usr/local/bin:/usr/sbin:/usr/bin:/sbin:/bin"),
    ("SHELL", "/bin/sh"), ("PWD", "/")]
  terminal := none
  streams := {}

/-- A child writes to both its pipes and exits with code 3 before anything of that is noticed. -/
def exitFirst : List Move :=
  [.receive default, .write false [104, 105], .write true [33], .exit (WaitStatus.ofExit 3), .wait,
    .read .stdout 1, .read .stderr 1, .pass .stderr, .close .stdout, .close .stderr, .pass .stdout,
    .finish .stderr, .receive default, .read .stdout 1, .receive default, .pass .stdout,
    .finish .stdout, .receive default, .receive default, .receive default, .receive default,
    .leave default]

/-- The output of a child that exits early is delivered, and the session ends with its code. -/
theorem output_delivered_exitFirst :
    ({} : LaunchRequest).launch (fun _ => true) none {} = .ok bareLaunch ∧
      ∃ f, (start bareLaunch (Session.afterOpening barePlan {} default).1).run? exitFirst = some f ∧
        f.session.phase = .ended 3 ∧ Delivered bareLaunch.streams f := by
  have hlaunch : ({} : LaunchRequest).launch (fun _ => true) none {} = .ok bareLaunch := by rfl
  obtain ⟨f, hrun⟩ : ∃ f, (start bareLaunch (Session.afterOpening barePlan {} default).1).run?
      exitFirst = some f := Option.isSome_iff_exists.1 (by decide)
  have hphase : f.session.phase = .ended 3 := by
    have hcomputed : ((start bareLaunch (Session.afterOpening barePlan {} default).1).run?
        exitFirst).map (fun f => f.session.phase) = some (.ended 3) := by decide
    rw [hrun] at hcomputed
    exact Option.some.inj hcomputed
  have hleft : f.session.phase ≠ .running := by simp [hphase]
  exact ⟨hlaunch, f, hrun, hphase, (output_delivered hlaunch barePlan {} default hrun).1 hleft⟩

end Flow

end CommandRelay
