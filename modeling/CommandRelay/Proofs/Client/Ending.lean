import CommandRelay.Proofs.Relay.Delivery

/-!
# How a session ends

What is heard of the end of a session may come in any order and more than once: statuses, deaths by
signals that are known here or not, ends of the output.  The first report counts, and the end of the
output only if there is none.  The agent's report of a child's end and the client's reading of it
are two conversions with bounds of their own, and the code comes through both.

## Main definitions

* `ExitReport.Event.code?` — the exit code that a report stands for.
* `ExitReport.Event.IsGenuine` — what a client can hear.
* `AgentMessage.event?` — what a message says of the end of a session.

## Main results

* `ExitReport.status_recordAll`, `ExitReport.sawEof_recordAll` — what is known after some events.
* `Client.Session.result?_run` — a session that has heard some messages ends with their code.
* `ExitReport.code_events` — the code of any events, and of the agent's report for a child.
-/

namespace CommandRelay

open Agent (farewell)
open Client (Session Phase)

namespace ExitReport

/-! ## Events -/

/-- The exit code that a report stands for: a status that fits in 32 signed bits is one, a known
signal is added to 128, and all other reports say nothing of the code. -/
def Event.code? : Event → Option Int
  | .status code => some (if code < 2147483648 then code else 255)
  | .signal (some number) => some (128 + number)
  | .signal none => some 255
  | .eof => none

/-- What a client can hear: a status of 32 bits, a signal as it is known here by the name that the
agent has for it, and the end of the output. -/
def Event.IsGenuine : Event → Prop
  | .status code => code < 4294967296
  | .signal number => ∃ name : WireSignal, number = name.toSignal?.map fun s => (s.number : Int)
  | .eof => True

/-- A number of 32 signed bits. -/
def FitsWord (n : Int) : Prop := -2147483648 ≤ n ∧ n ≤ 2147483647

variable (r : ExitReport) (e : Event) (events : List Event)

/-- A report has the first status that it was told, so one more event counts only if there was
none. -/
lemma status_record : (r.record e).status = r.status.or e.code? := by
  rcases e with code | (_ | number) | _
  · rfl
  · rfl
  · rfl
  · exact (Option.or_none).symm

/-- A report has seen the end of output once it was told of it. -/
lemma sawEof_record : (r.record e).sawEof = (r.sawEof || e == .eof) := by
  cases e with
  | status | signal => exact (Bool.or_false _).symm
  | eof => exact (Bool.or_true _).symm

/-- **The first report** counts, after what was known before. -/
lemma status_recordAll :
    (r.recordAll events).status = r.status.or (events.findSome? Event.code?) := by
  induction events generalizing r with
  | nil => exact (Option.or_none).symm
  | cons e events ih =>
    have hstep := ih (r.record e)
    rw [status_record, Option.or_assoc] at hstep
    rw [List.findSome?_cons]
    refine hstep.trans (congrArg r.status.or ?_)
    cases e.code? <;> rfl

/-- An end of the output is remembered. -/
lemma sawEof_recordAll : (r.recordAll events).sawEof = (r.sawEof || events.contains .eof) := by
  induction events generalizing r with
  | nil => exact (Bool.or_false _).symm
  | cons e events ih =>
    have hstep := ih (r.record e)
    rw [sawEof_record, Bool.or_assoc] at hstep
    rw [List.contains_cons, Bool.beq_comm]
    exact hstep

variable {e : Event} {events : List Event}

/-- Every event but the end of output has a status. -/
lemma code?_eq_none_iff : e.code? = none ↔ e = .eof := by
  rcases e with code | (_ | number) | _ <;> simp [Event.code?]

/-- Only the reports among some events count for the first of them. -/
lemma findSome?_code?_filter :
    (events.filter (· ≠ .eof)).findSome? Event.code? = events.findSome? Event.code? := by
  induction events with
  | nil => rfl
  | cons e events ih =>
    by_cases he : e = .eof
    · subst he
      exact ih
    · rw [List.filter_cons_of_pos (by simpa using he), List.findSome?_cons, List.findSome?_cons, ih]

/-- The number of a signal that can be heard is small. -/
lemma number_range {number : Int} (h : (Event.signal (some number)).IsGenuine) :
    1 ≤ number ∧ number ≤ 15 := by
  obtain ⟨name, hname⟩ := h
  obtain ⟨s, -, rfl⟩ := Option.map_eq_some_iff.1 hname.symm
  cases s <;> decide

/-- The code of an event that can be heard fits in 32 signed bits. -/
lemma fitsWord_code? (h : e.IsGenuine) {code : Int} (hcode : e.code? = some code) :
    FitsWord code := by
  rcases e with status | (_ | number) | _
  · have hvalue : (if status < 2147483648 then (status : Int) else 255) = code :=
      Option.some.inj hcode
    rw [← hvalue, FitsWord]
    split_ifs <;> omega
  · rw [← Option.some.inj hcode, FitsWord]
    omega
  · obtain ⟨hlow, hhigh⟩ := number_range h
    rw [← Option.some.inj hcode, FitsWord]
    omega
  · cases hcode

end ExitReport

/-! ## Messages -/

/-- What a message says of the end of a session. -/
def AgentMessage.event? : AgentMessage → Option ExitReport.Event
  | .exitStatus code => some (.status code)
  | .exitSignal name => some (.signal (name.toSignal?.map fun s => (s.number : Int)))
  | .eof => some .eof
  | _ => none

/-- A message is heard as the event that it stands for, if it stands for one. -/
lemma ExitReport.hear_eq (r : ExitReport) (m : AgentMessage) :
    r.hear m = r.recordAll m.event?.toList := by
  cases m <;> rfl

namespace Client.Session

/-- A session that passes things on hears the messages that it receives. -/
lemma run_received {s : Session} (hphase : s.phase = .running) (t : Terminal.Pty)
    {ms : List AgentMessage} (hclose : .close ∉ ms) (hrefusal : .reply false ∉ ms) :
    (s.run t (ms.map .received)).1.phase = .running ∧
      (s.run t (ms.map .received)).1.report = s.report.recordAll (ms.filterMap (·.event?)) := by
  induction ms generalizing s t with
  | nil => exact ⟨hphase, rfl⟩
  | cons m ms ih =>
    rw [List.mem_cons, not_or] at hclose hrefusal
    have hstep : s.step t (.received m) = s.receive m := by simp [step, hphase, pass]
    obtain ⟨hreport, hnext, -⟩ := s.receive_spec (Ne.symm hrefusal.1)
    rw [if_neg (Ne.symm hclose.1), hphase] at hnext
    have hevents : (m :: ms).filterMap (·.event?) =
        m.event?.toList ++ ms.filterMap (·.event?) := by
      rw [List.filterMap_cons]
      cases m.event? <;> rfl
    rw [List.map_cons, run_cons, hstep, hevents, ExitReport.recordAll, List.foldl_append]
    obtain ⟨hrunning, hheard⟩ := ih hnext _ hclose.2 hrefusal.2
    refine ⟨hrunning, hheard.trans ?_⟩
    rw [hreport, ExitReport.hear_eq]
    rfl

/-- **A session that has heard some messages**, when the channel ends and the connection is given
up, ends with the code of what they say. -/
lemma result?_run {s : Session} (hphase : s.phase = .running) (t : Terminal.Pty)
    {ms : List AgentMessage} (hclose : .close ∉ ms) (hrefusal : .reply false ∉ ms) :
    (s.run t (ms.map .received ++ [.received .close, .disconnected])).1.result? =
      some (.ok (s.report.recordAll (ms.filterMap (·.event?))).code) := by
  obtain ⟨hrunning, hheard⟩ := run_received hphase t hclose hrefusal
  rw [run_append, ← hheard]
  generalize (s.run t (ms.map .received)).2.1 = t'
  generalize (s.run t (ms.map .received)).1 = s' at hrunning ⊢
  have hleave : s'.step t' (.received .close) = s'.leave := by simp [step, hrunning, pass, receive]
  rw [run_cons, hleave]
  rfl

end Client.Session

namespace ExitReport

/-- **The code of any events** that a client can hear is that of the first report among them; where
there is none, it is 0 if the output has ended and 255 if not.  The client knows of a report just if
there is one, and an end of the output may come anywhere.  All numbers on the way fit in 32 signed
bits.  And when the agent reports the end of a child, a client that has not heard of any end before
ends with the agent's code for it, a byte; for a death by a signal that is the code that the client
itself gives to the signal.

**Proof sketch.** A run of events records the first status and whether output has ended
(`status_recordAll`, `sawEof_recordAll`), and all that is said of the client follows from these two.
The end of output has no status, so that moving it changes neither.  For the agent, what it reports
at the end is one status within a byte, which a client without any status takes for its own. -/
theorem code_events :
    (∀ events : List Event, (∀ e ∈ events, e.IsGenuine) →
      let r := recordAll {} events
      r.code = (events.findSome? Event.code?).getD (if .eof ∈ events then 0 else 255) ∧
      (r.hasStatus = true ↔ ∃ e ∈ events, e ≠ .eof) ∧
      (∀ moved : List Event, moved.filter (· ≠ .eof) = events.filter (· ≠ .eof) →
        (.eof ∈ moved ↔ .eof ∈ events) → recordAll {} moved = r) ∧
      (∀ number, .signal (some number) ∈ events →
        FitsWord number ∧ FitsWord (signalExitBase + number)) ∧
      ∀ code ∈ r.status, FitsWord code) ∧
    ∀ raw : Int, WaitStatus.exitCode raw ≤ 255 ∧
      (∀ (s : Session) (t : Terminal.Pty), s.phase = .running → s.report.status = none →
        (s.run t ((farewell (WaitStatus.exitCode raw)).map .received ++
            [.disconnected])).1.result? =
          some (.ok (WaitStatus.exitCode raw))) ∧
      ∀ number : ℕ, WaitStatus.classify raw = .signalled number →
        (WaitStatus.exitCode raw : Int) = (recordAll {} [.signal (some number)]).code := by
  constructor
  · intro events hgenuine r
    have hstatus : r.status = events.findSome? Event.code? := status_recordAll {} events
    have heof : r.sawEof = events.contains .eof := sawEof_recordAll {} events
    refine ⟨?_, ?_, ?_, ?_, ?_⟩
    · rw [code, hstatus, heof]
      cases events.findSome? Event.code? with
      | some code => rfl
      | none => simp [unknownExitCode]
    · rw [hasStatus, hstatus, List.findSome?_isSome_iff]
      simp [Option.isSome_iff_ne_none, code?_eq_none_iff]
    · intro moved hreports hends
      have hsame : moved.findSome? Event.code? = events.findSome? Event.code? := by
        rw [← findSome?_code?_filter, hreports, findSome?_code?_filter]
      have hcontains : moved.contains .eof = events.contains .eof := by
        rw [Bool.eq_iff_iff, List.contains_iff_mem, List.contains_iff_mem, hends]
      have hmoved : (recordAll {} moved).status = r.status :=
        (status_recordAll {} moved).trans (hsame.trans hstatus.symm)
      have hsaw : (recordAll {} moved).sawEof = r.sawEof :=
        (sawEof_recordAll {} moved).trans (hcontains.trans heof.symm)
      calc recordAll {} moved
        _ = ⟨(recordAll {} moved).status, (recordAll {} moved).sawEof⟩ := rfl
        _ = r := by rw [hmoved, hsaw]
    · intro number hmem
      obtain ⟨hlow, hhigh⟩ := number_range (hgenuine _ hmem)
      simp only [FitsWord, signalExitBase]
      omega
    · intro code hcode
      rw [hstatus] at hcode
      obtain ⟨e, hmem, he⟩ := List.exists_of_findSome?_eq_some hcode
      exact fitsWord_code? (hgenuine e hmem) he
  · intro raw
    have hbound := WaitStatus.exitCode_lt raw
    refine ⟨by omega, fun s t hphase hnone => ?_, fun number hnumber => ?_⟩
    · have hclose : .close ∉ [AgentMessage.exitStatus (WaitStatus.exitCode raw), .eof] := by simp
      have hresult := Session.result?_run hphase t hclose (by simp)
      have hcode : (if WaitStatus.exitCode raw < 2147483648 then (WaitStatus.exitCode raw : Int)
          else 255) = WaitStatus.exitCode raw := if_pos (by omega)
      refine hresult.trans ?_
      rw [code, status_recordAll, hnone]
      exact congrArg (fun n => some (Except.ok n)) hcode
    · rw [WaitStatus.exitCode, hnumber]
      rfl

/-- An end of the output and a death by a signal before a status, and a child that was killed. -/
theorem code_events_killed :
    let events : List Event := [.eof, .signal (some 15), .status 3]
    let s : Session := { Session.ofPlan ⟨default, .empty, {}, none⟩ {} with phase := .running }
    (∀ e ∈ events, e.IsGenuine) ∧ (recordAll {} events).code = 143 ∧
      recordAll {} [.signal (some 15), .status 3, .eof] = recordAll {} events ∧
      s.phase = .running ∧ s.report.status = none ∧ WaitStatus.classify 9 = .signalled 9 ∧
      (s.run default ((farewell (WaitStatus.exitCode 9)).map .received ++
          [.disconnected])).1.result? =
        some (.ok 137) := by
  intro events s
  have hgenuine : ∀ e ∈ events, e.IsGenuine := by
    intro e he
    simp only [events, List.mem_cons, List.not_mem_nil, or_false] at he
    rcases he with rfl | rfl | rfl
    · trivial
    · exact ⟨.known .term, rfl⟩
    · show 3 < 4294967296
      decide
  obtain ⟨hcode, -, hmoved, -⟩ := code_events.1 events hgenuine
  obtain ⟨-, hresult, hagree⟩ := code_events.2 9
  have hkilled : WaitStatus.classify 9 = .signalled 9 := by decide
  exact ⟨hgenuine, hcode.trans (by decide), hmoved _ (by decide) (by decide), rfl, rfl, hkilled,
    (hresult s default rfl rfl).trans (congrArg (fun n => some (Except.ok n)) (hagree 9 hkilled))⟩

end ExitReport

end CommandRelay
