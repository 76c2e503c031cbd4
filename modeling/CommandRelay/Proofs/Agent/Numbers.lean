import CommandRelay.Agent.Connection
import CommandRelay.Proofs.Agent.Channels

/-!
# The numbers of processes

A connection that runs with its processes numbers them, and gives no number twice.  So on such a
connection a signal reaches the child of its channel and nobody else, whoever is still alive.

## Main definitions

* `Agent.Connection.arrivals` — messages, each with what the agent finds around it by then.

## Main results

* `Agent.Connection.numbers_increase` — every process has a greater number than those before it.
* `Agent.Connection.steered_alone` — what steers a child reaches nobody else.
-/

namespace CommandRelay.Agent

/-! ## Whom a message starts -/

/-- A start request that starts somebody starts one child, which has the number that the system
gives. -/
lemma Handler.launches_start (around : Surroundings) (h : Handler) (c : ChannelId)
    (payload : Option (List UInt8)) : launches (h.start around c payload).2 = [] ∨
      ∃ st, launches (h.start around c payload).2 = [st] ∧
        around.spawn st.spec = .ok st.process := by
  obtain ⟨es, heq, hnone, -⟩ | ⟨s, spec, process, -, -, hspawn, heq⟩ :=
    start_cases around h c payload
  · exact .inl (by rw [heq, hnone])
  · exact .inr ⟨⟨c, spec, process⟩, by rw [heq]; rfl, hspawn⟩

/-- **A message starts one child at most**, which has the number that the system gives. -/
lemma Handler.launches_step (around : Surroundings) (h : Handler) (m : ConnectionMessage) :
    launches (h.step around m).2 = [] ∨
      ∃ st, launches (h.step around m).2 = [st] ∧ around.spawn st.spec = .ok st.process := by
  cases m with
  | opened => exact .inl rfl
  | sent c m =>
    cases hm : m.isStart with
    | true =>
      obtain ⟨payload, heq⟩ := exists_receive_start around h c hm
      rw [Handler.step, heq]
      exact launches_start around h c payload
    | false =>
      refine .inl (List.filterMap_eq_nil_iff.2 fun e he => ?_)
      have hanswer := (mem_receive around h c he).2.1.trans hm
      cases e <;> first | rfl | cases hanswer

namespace Connection

variable (host : Host)

/-! ## What effects change -/

/-- What is done to one process starts nobody and leaves the handler alone. -/
lemma change_launches (c : Connection) (id : ProcessId) (f : Process → Process × List Output) :
    (c.change id f).1.launches = c.launches ∧ (c.change id f).1.handler = c.handler := by
  unfold change
  split
  · exact ⟨rfl, rfl⟩
  · split <;> exact ⟨rfl, rfl⟩

/-- The same for what is done to the process of a channel. -/
lemma changeOn_launches (c : Connection) (channel : ChannelId)
    (f : Process → Process × List Output) :
    (c.changeOn channel f).1.launches = c.launches ∧
      (c.changeOn channel f).1.handler = c.handler := by
  unfold changeOn
  split
  · exact change_launches c _ f
  · exact ⟨rfl, rfl⟩

/-- An effect leaves the handler alone, and every child that is started has been counted. -/
lemma perform_launches (c : Connection) (e : Effect) :
    (c.perform host e).1.handler = c.handler ∧
      c.launches.length + e.started?.toList.length ≤ (c.perform host e).1.launches.length := by
  have hsame : ∀ {c' : Connection}, c'.launches = c.launches ∧ c'.handler = c.handler →
      c'.handler = c.handler ∧ c.launches.length + 0 ≤ c'.launches.length := fun h =>
    ⟨h.2, Nat.le_of_eq (congrArg List.length h.1).symm⟩
  cases e with
  | launch channel spec process =>
    have hcount : (Effect.launch channel spec process).started?.toList.length ≤ 1 := by
      cases process <;> simp [Effect.started?]
    simp only [perform]
    split <;> exact ⟨rfl, Nat.add_le_add_left hcount _⟩
  | reply | refuse => exact hsame ⟨rfl, rfl⟩
  | feed channel => exact hsame (changeOn_launches c channel _)
  | endInput channel => exact hsame (changeOn_launches c channel _)
  | resize channel => exact hsame (changeOn_launches c channel _)
  | signal channel process => exact hsame (change_launches c process _)

/-- The same for effects one after another. -/
lemma performAll_launches (c : Connection) (effects : List Effect) :
    (c.performAll host effects).1.handler = c.handler ∧
      c.launches.length + (Agent.launches effects).length ≤
        (c.performAll host effects).1.launches.length := by
  induction effects generalizing c with
  | nil => exact ⟨rfl, Nat.le_refl _⟩
  | cons e effects ih =>
    obtain ⟨hhandler, hcount⟩ := perform_launches host c e
    obtain ⟨hhandler', hcount'⟩ := ih (c.perform host e).1
    refine ⟨hhandler'.trans hhandler, ?_⟩
    rw [launches_cons, List.length_append]
    show _ ≤ ((c.perform host e).1.performAll host effects).1.launches.length
    omega

/-- What a message leaves behind: the handler after it, and a greater number for the next process if
it has started one. -/
lemma deliver_launches (c : Connection) (m : ConnectionMessage) :
    (c.deliver host m).1.handler = (c.handler.step (c.surroundings host) m).1 ∧
      c.nextProcess + (Agent.launches (c.handler.step (c.surroundings host) m).2).length ≤
        (c.deliver host m).1.nextProcess :=
  performAll_launches host _ _

/-! ## Whole runs -/

/-- Messages that are delivered one after another, each with what the agent finds around it by then.
-/
def arrivals (c : Connection) : List ConnectionMessage → List Arrival
  | [] => []
  | m :: ms => (c.surroundings host, m) :: (c.deliver host m).1.arrivals ms

/-- **Every process has a greater number than those before it.**

**Proof sketch.** Induction on the messages.  Who is started by a message has the next number, and
the next number after it is greater; all later ones are at least that. -/
lemma numbers_increase (c : Connection) (ms : List ConnectionMessage) :
    ((Agent.launches (c.handler.effects (c.arrivals host ms))).map Started.process).Pairwise
        (· < ·) ∧
      ∀ st ∈ Agent.launches (c.handler.effects (c.arrivals host ms)),
        c.nextProcess ≤ st.process := by
  induction ms generalizing c with
  | nil => exact ⟨.nil, nofun⟩
  | cons m ms ih =>
    obtain ⟨hhandler, hnext⟩ := deliver_launches host c m
    obtain ⟨hlater, hbound⟩ := ih (c.deliver host m).1
    rw [hhandler] at hlater hbound
    rw [arrivals, Handler.effects_cons, launches_append]
    have hle : c.nextProcess ≤ (c.deliver host m).1.nextProcess :=
      Nat.le_trans (Nat.le_add_right _ _) hnext
    rcases c.handler.launches_step (c.surroundings host) m with hnone | ⟨st, hsome, hspawn⟩
    · rw [hnone, List.nil_append]
      exact ⟨hlater, fun st hst => Nat.le_trans hle (hbound st hst)⟩
    · have hnumber : c.nextProcess = st.process := by
        change (host.program st.spec).map _ = _ at hspawn
        cases hprogram : host.program st.spec with
        | error e => simp [hprogram, Except.map] at hspawn
        | ok acts => simpa [hprogram, Except.map] using hspawn
      have hlt : st.process < (c.deliver host m).1.nextProcess := by
        rw [hsome, List.length_singleton] at hnext
        exact hnumber ▸ hnext
      rw [hsome, List.singleton_append, List.map_cons, List.pairwise_cons]
      refine ⟨⟨fun p hp => ?_, hlater⟩, fun x hx => ?_⟩
      · obtain ⟨x, hx, rfl⟩ := List.mem_map.1 hp
        exact Nat.lt_of_lt_of_le hlt (hbound x hx)
      · rcases List.mem_cons.1 hx with rfl | hx
        · exact Nat.le_of_eq hnumber
        · exact Nat.le_trans hle (hbound x hx)

/-- **What steers a child reaches nobody else** on a connection that runs with its processes, since
these all have different numbers. -/
theorem steered_alone (user : String) {ms : List ConnectionMessage} {before later : List Arrival}
    {around : Surroundings} {channel : ChannelId} {m : ClientMessage}
    (hsplit : (ofUser user).arrivals host ms = before ++ (around, .sent channel m) :: later)
    (hfresh : (opened before).Nodup) (hm : m.isSteering = true) {e : Effect}
    (he : e ∈ (((Handler.ofUser user).after before).step around (.sent channel m)).2) :
    ∃ st ∈ Agent.launches ((Handler.ofUser user).effects before), st.channel = channel ∧
      ∀ other ∈ Agent.launches ((Handler.ofUser user).effects before),
        e.reaches other = true ↔ other = st := by
  obtain ⟨st, hst, hchannel, hreached, honly⟩ := Handler.aimed_of_steering hfresh hm he
  have hdistinct :
      ((Agent.launches ((Handler.ofUser user).effects before)).map Started.process).Nodup := by
    have hnumbers := (numbers_increase host (ofUser user) ms).1
    rw [hsplit, Handler.effects_append, launches_append, List.map_append] at hnumbers
    exact (List.pairwise_append.1 hnumbers).1.imp Nat.ne_of_lt
  refine ⟨st, hst, hchannel, fun other hother => ⟨?_, fun heq => heq ▸ hreached⟩⟩
  exact honly _ (List.Subset.refl _) (fun _ => ⟨hst, hdistinct⟩) other hother

end Connection

end CommandRelay.Agent
