import CommandRelay.Proofs.Agent.Run
import Mathlib.Data.List.Induction
import Mathlib.Data.List.Nodup

/-!
# Channels and their children

A channel that is opened once starts at most one child, and it remembers that child until it is
closed.  What happens on other channels makes no difference to it.

## Main definitions

* `Agent.opened` — the channels that some arrivals open.
* `Agent.Handler.Consistent` — what the state of a connection says of the children started so far.

## Main results

* `Agent.Handler.consistent_after` — after any arrivals, the state is consistent with what happened.
* `Agent.Handler.child?_kept` — a child is remembered until its channel is closed.
-/

namespace CommandRelay.Agent

/-- The channel that is opened by a message. -/
def opens? : ConnectionMessage → Option ChannelId
  | .opened c => some c
  | .sent _ _ => none

/-- The channels that some arrivals open. -/
def opened (arrivals : List Arrival) : List ChannelId := arrivals.filterMap fun a => opens? a.2

/-- Arrivals one after another open what each of them does. -/
@[simp] lemma opened_append (a b : List Arrival) : opened (a ++ b) = opened a ++ opened b :=
  List.filterMap_append

/-! ## One change of a channel -/

namespace Channel.Change

variable {c : ChannelId} {s s' : Option Channel} {started : List Started}

/-- A change starts nobody, or a child for a channel that has none. -/
lemma started_cases (h : Change c s s' started) :
    started = [] ∨ ∃ x spec process, s = some x ∧ x.child = none ∧
      started = [{ channel := c, spec, process }] := by
  cases h with
  | start x hx spec process => exact .inr ⟨x, spec, process, rfl, hx, rfl⟩
  | keep | ask | shut | forget => exact .inl rfl

/-- A channel that is left without a child was there without one, and nobody was started. -/
lemma of_idle (h : Change c s s' started) {x' : Channel} (hs' : s' = some x')
    (hx' : x'.child = none) : (∃ x, s = some x ∧ x.child = none) ∧ started = [] := by
  cases h with
  | keep => exact ⟨⟨x', hs', hx'⟩, rfl⟩
  | ask x r =>
    cases hs'
    exact ⟨⟨x, rfl, hx'⟩, rfl⟩
  | start | shut => cases hs'; cases hx'
  | forget => cases hs'

/-- A channel that is left with a child had it before, or it has just been started. -/
lemma of_child (h : Change c s s' started) {x' : Channel} {child' : Child} (hs' : s' = some x')
    (hx' : x'.child = some child') :
    (∃ x child, s = some x ∧ x.child = some child ∧ child.process = child'.process ∧
      child.hasTerminal = child'.hasTerminal) ∨
    ∃ spec, started = [{ channel := c, spec, process := child'.process }] ∧
      spec.terminal.isSome = child'.hasTerminal := by
  cases h with
  | keep => exact .inl ⟨x', child', hs', hx', rfl, rfl⟩
  | ask x r =>
    cases hs'
    exact .inl ⟨x, child', rfl, hx', rfl, rfl⟩
  | start x hx spec process =>
    cases hs'
    cases hx'
    exact .inr ⟨spec, rfl, rfl⟩
  | shut x child hx =>
    cases hs'
    cases hx'
    exact .inl ⟨x, child, rfl, hx, rfl, rfl⟩
  | forget => cases hs'

/-- A child that is started becomes the child of the channel, and its input is open. -/
lemma of_started (h : Change c s s' started) {st : Started} (hst : st ∈ started) :
    st.channel = c ∧ s.isSome = true ∧ ∃ x', s' = some x' ∧
      x'.child = some { process := st.process, hasTerminal := st.spec.terminal.isSome } := by
  cases h with
  | start x hx spec process =>
    rw [List.mem_singleton.1 hst]
    exact ⟨rfl, rfl, _, rfl, rfl⟩
  | keep | ask | shut | forget => cases hst

/-- A channel that is left was there before. -/
lemma isSome_of_isSome (h : Change c s s' started) (hs' : s'.isSome = true) : s.isSome = true := by
  cases h with
  | keep => exact hs'
  | ask | start | shut => rfl
  | forget => cases hs'

end Channel.Change

namespace Handler

/-! ## The invariant -/

/-- What the state of a connection says of the channels opened and the children started so far. -/
structure Consistent (h : Handler) (opened : List ChannelId) (started : List Started) : Prop where
  /-- A channel that is there was opened. -/
  present : ∀ c, (h.channels.get? c).isSome = true → c ∈ opened
  /-- A channel that has started a child was opened. -/
  origin : ∀ st ∈ started, st.channel ∈ opened
  /-- A channel without a child has started none. -/
  idle : ∀ c s, h.channels.get? c = some s → s.child = none → ∀ st ∈ started, st.channel ≠ c
  /-- The child of a channel was started there. -/
  remembered : ∀ c child, h.child? c = some child →
    ∃ spec, { channel := c, spec, process := child.process } ∈ started ∧
      spec.terminal.isSome = child.hasTerminal
  /-- No channel has started two children. -/
  once : (started.map Started.channel).Nodup

/-- Nothing has happened on a connection without channels. -/
lemma consistent_empty (route : Option Route) : Consistent { route } [] [] where
  present c hc := by simp at hc
  origin st hst := by cases hst
  idle c s hs := by simp at hs
  remembered c child hchild := by simp [child?] at hchild
  once := List.nodup_nil

variable {h : Handler} {known : List ChannelId} {started : List Started}

/-- **A channel is opened** that was not opened before. -/
lemma Consistent.opened (hc : h.Consistent known started) (around : Surroundings) {c : ChannelId}
    (hnew : c ∉ known) : (h.step around (.opened c)).1.Consistent (known ++ [c]) started where
  present c' hc' := by
    by_cases heq : c' = c
    · simp [heq]
    · rw [get?_step_of_ne around h (m := .opened c) heq] at hc'
      exact List.mem_append_left _ (hc.present c' hc')
  origin st hst := List.mem_append_left _ (hc.origin st hst)
  idle c' s hs hchild st hst := by
    by_cases heq : c' = c
    · rintro rfl
      exact hnew (heq ▸ hc.origin st hst)
    · rw [get?_step_of_ne around h (m := .opened c) heq] at hs
      exact hc.idle c' s hs hchild st hst
  remembered c' child hchild := by
    by_cases heq : c' = c
    · simp [step, child?, heq] at hchild
    · rw [child?, get?_step_of_ne around h (m := .opened c) heq] at hchild
      exact hc.remembered c' child hchild
  once := hc.once

/-- **A message comes on a channel**, whatever it is.

**Proof sketch.** The message changes its own channel only, in one of the known ways.  A child is
started only where none was remembered, so none was started there before. -/
lemma Consistent.received (hc : h.Consistent known started) (around : Surroundings)
    (c : ChannelId) (m : ClientMessage) :
    (h.receive around c m).1.Consistent known
      (started ++ launches (h.receive around c m).2) := by
  have hchange := change_receive around h c m
  have hother := fun c' (heq : c' ≠ c) => get?_receive_of_ne around h c m heq
  set h' := (h.receive around c m).1
  set new := launches (h.receive around c m).2
  have hnew : ∀ st ∈ new, st.channel = c := fun st hst => (hchange.of_started hst).1
  constructor
  case present =>
    intro c' hc'
    by_cases heq : c' = c
    · subst heq
      exact hc.present c' (hchange.isSome_of_isSome hc')
    · exact hc.present c' (hother c' heq ▸ hc')
  case origin =>
    intro st hst
    rcases List.mem_append.1 hst with hst | hst
    · exact hc.origin st hst
    · rw [hnew st hst]
      exact hc.present c (hchange.of_started hst).2.1
  case idle =>
    intro c' s hs hchild st hst
    by_cases heq : c' = c
    · subst heq
      obtain ⟨⟨x, hx, hxchild⟩, hnone⟩ := hchange.of_idle hs hchild
      rw [hnone, List.append_nil] at hst
      exact hc.idle c' x hx hxchild st hst
    · rcases List.mem_append.1 hst with hst | hst
      · exact hc.idle c' s (hother c' heq ▸ hs) hchild st hst
      · rw [hnew st hst]
        exact Ne.symm heq
  case remembered =>
    intro c' child hchild
    obtain ⟨s, hs, hschild⟩ := child?_eq_some.1 hchild
    by_cases heq : c' = c
    · subst heq
      obtain ⟨x, old, hx, hold, hprocess, hterminal⟩ | ⟨spec, hstarted, hterminal⟩ :=
        hchange.of_child hs hschild
      · obtain ⟨spec, hmem, hspec⟩ := hc.remembered c' old (child?_eq_some.2 ⟨x, hx, hold⟩)
        exact ⟨spec, List.mem_append_left _ (hprocess ▸ hmem), hspec.trans hterminal⟩
      · exact ⟨spec, List.mem_append_right _ (by rw [hstarted]; exact List.mem_cons_self),
          hterminal⟩
    · obtain ⟨spec, hmem, hspec⟩ :=
        hc.remembered c' child (child?_eq_some.2 ⟨s, hother c' heq ▸ hs, hschild⟩)
      exact ⟨spec, List.mem_append_left _ hmem, hspec⟩
  case once =>
    obtain hnone | ⟨x, spec, process, hx, hxchild, hsome⟩ := hchange.started_cases
    · rw [hnone, List.append_nil]
      exact hc.once
    · -- the channel was idle, so nobody started before was started on it
      rw [hsome, List.map_append, List.map_singleton]
      refine List.nodup_append.2 ⟨hc.once, List.nodup_singleton _, ?_⟩
      intro c₁ hc₁ c₂ hc₂
      obtain ⟨st, hst, rfl⟩ := List.mem_map.1 hc₁
      rw [List.mem_singleton.1 hc₂]
      exact hc.idle c x hx hxchild st hst

/-- **The state is consistent** with what happened, whatever it was, if no channel is opened twice.

**Proof sketch.** Induction on the arrivals from their end, with one of the two lemmas before for
the last one. -/
lemma consistent_after (route : Option Route) {arrivals : List Arrival}
    (hfresh : (Agent.opened arrivals).Nodup) :
    (Handler.after { route } arrivals).Consistent (Agent.opened arrivals)
      (launches (Handler.effects { route } arrivals)) := by
  induction arrivals using List.reverseRecOn with
  | nil => exact consistent_empty route
  | append_singleton arrivals a ih =>
    obtain ⟨around, m⟩ := a
    rw [opened_append] at hfresh
    have hc := ih (List.nodup_append.1 hfresh).1
    rw [opened_append, after_append, effects_append, launches_append]
    cases m with
    | opened c =>
      have hnew : c ∉ Agent.opened arrivals := by
        intro hmem
        exact (List.nodup_append.1 hfresh).2.2 c hmem c (by simp [Agent.opened, opens?]) rfl
      simpa [Agent.opened, opens?, step] using hc.opened around hnew
    | sent c m => simpa [Agent.opened, opens?, step] using hc.received around c m

/-! ## How long a child is remembered -/

/-- A message other than a close keeps the child of its channel. -/
lemma child?_receive (around : Surroundings) {c : ChannelId} {child : Child}
    (hchild : h.child? c = some child) {m : ClientMessage} (hm : m ≠ .close) :
    ∃ child', (h.receive around c m).1.child? c = some child' ∧
      child'.process = child.process ∧ child'.hasTerminal = child.hasTerminal ∧
      (m ≠ .eof → child' = child) := by
  obtain ⟨s, hs, hschild⟩ := child?_eq_some.1 hchild
  have hdenied := start_of_child? around h c hchild
  cases m with
  | exec | shell => exact ⟨child, by rw [receive, hdenied]; exact hchild, rfl, rfl, fun _ => rfl⟩
  | env | terminal =>
    refine ⟨child, ?_, rfl, rfl, fun _ => rfl⟩
    rw [receive_preparation around h c rfl, child?, get?_update_self, hs]
    exact hschild
  | data | resize =>
    exact ⟨child, by simp only [receive, hchild], rfl, rfl, fun _ => rfl⟩
  | signal name =>
    refine ⟨child, ?_, rfl, rfl, fun _ => rfl⟩
    cases hname : name.toSignal? <;> simp only [receive, hchild, hname]
  | eof =>
    refine ⟨{ child with inputOpen := false }, ?_, rfl, rfl, fun heof => absurd rfl heof⟩
    simp only [receive, hchild]
    rw [child?, get?_update_self, hs]
    rfl
  | close => exact absurd rfl hm

/-- **A child is remembered** while its channel is neither closed nor opened once more. -/
lemma child?_kept {c : ChannelId} {child : Child} {since : List Arrival}
    (hchild : h.child? c = some child) (hopen : c ∉ Agent.opened since)
    (hclose : ∀ a ∈ since, a.2 ≠ .sent c .close) :
    ∃ child', (h.after since).child? c = some child' ∧ child'.process = child.process ∧
      child'.hasTerminal = child.hasTerminal := by
  induction since generalizing h child with
  | nil => exact ⟨child, hchild, rfl, rfl⟩
  | cons a since ih =>
    obtain ⟨around, m⟩ := a
    have hopen' : c ∉ Agent.opened since := fun hmem =>
      hopen (by rw [← List.singleton_append, opened_append]; exact List.mem_append_right _ hmem)
    have hclose' : ∀ a ∈ since, a.2 ≠ .sent c .close := fun a ha =>
      hclose a (List.mem_cons_of_mem _ ha)
    by_cases hm : c = m.channel
    · cases m with
      | opened c' =>
        exact absurd (by simp [Agent.opened, opens?, show c = c' from hm]) hopen
      | sent c' m =>
        obtain rfl : c = c' := hm
        have hnot : m ≠ .close := fun heq => hclose (around, .sent c m) List.mem_cons_self
          (by rw [heq])
        obtain ⟨next, hnext, hprocess, hterminal, -⟩ :=
          child?_receive around hchild hnot
        obtain ⟨child', hkept, hprocess', hterminal'⟩ := ih hnext hopen' hclose'
        exact ⟨child', hkept, hprocess'.trans hprocess, hterminal'.trans hterminal⟩
    · have hsame : (h.step around m).1.child? c = some child := by
        rw [child?, get?_step_of_ne around h hm]
        exact hchild
      exact ih hsame hopen' hclose'

end Handler

end CommandRelay.Agent
