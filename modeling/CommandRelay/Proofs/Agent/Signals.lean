import CommandRelay.Agent.Supervision
import CommandRelay.Proofs.Agent.Channels

/-!
# Signals and whom they reach

The number of a child is its own until somebody waits for it; from then on another process may get
it.  A task of its own waits for each child, and the connection that sends the signals does not hear
of it: it remembers the number from the start of the child until the channel is closed.  So a signal
reaches the child that it is for as long as that has not been waited for, and nobody knows whom
afterwards.

## Main definitions

* `Agent.Ward` — a child with the task that looks after it.
* `Agent.Watch` — a connection with all children that it has started.
* `Agent.Watch.step?`, `Agent.Watch.run?` — what can happen, and the signals that are sent.
* `Agent.Watch.Late`, `Agent.Watch.Prompt` — signals for children that have been waited for.

## Main results

* `Agent.Watch.mem_calls` — which signals a move sends.
* `Agent.Watch.Sound.step` — the number that a channel remembers is that of the last child it
  started.
* `Agent.Watch.signals_reach` — whom signals reach.
* `Agent.Watch.close_reaches_stranger` — closing the channel of a child that has ended may hang up
  on another one.
-/

namespace CommandRelay

/-- The signal that a message has sent to the child of its channel. -/
def ClientMessage.signal? : ClientMessage → Option Signal
  | .signal name => name.toSignal?
  | .close => some .hup
  | _ => none

namespace Agent

/-! ## Children -/

/-- A child with the task that looks after it. -/
structure Ward where
  started : Started
  /-- The child has ended. -/
  ended : Bool := false
  supervision : Supervision
  deriving DecidableEq

/-- Something that happens to a child. -/
inductive Incident where
  /-- It ends. -/
  | ends
  /-- The task that looks after it notices something. -/
  | noticed (e : ChildEvent)

namespace Ward

/-- A child that has just been started. -/
def ofStarted (st : Started) : Ward := { started := st, supervision := .ofStreams st.spec.streams }

/-- The child has been waited for, and its number is free. -/
def waited (x : Ward) : Bool := x.supervision.status.isSome

/-- What becomes of a child, if that can happen to it: it ends once, and then it is waited for once.
-/
def step? (x : Ward) : Incident → Option Ward
  | .ends => if x.ended then none else some { x with ended := true }
  | .noticed (.exited status) =>
    if x.ended && !x.waited then
      some { x with supervision := (x.supervision.step (.exited status)).1 }
    else none
  | .noticed e => some { x with supervision := (x.supervision.step e).1 }

/-- The last one of some children that was started on a channel. -/
def lastOn? (c : ChannelId) (wards : List Ward) : Option Ward :=
  (wards.filter fun x => x.started.channel = c).getLast?

/-- Children that have not been waited for have different numbers. -/
def Distinct (wards : List Ward) : Prop :=
  wards.Pairwise fun x y =>
    x.waited = false → y.waited = false → x.started.process ≠ y.started.process

end Ward

/-! ## Signals -/

/-- A signal that is sent to a number, with the channel whose child it is for. -/
structure Call where
  channel : ChannelId
  process : ProcessId
  signal : Signal
  deriving DecidableEq

/-- The signal that an effect sends. -/
def Effect.call? : Effect → Option Call
  | .signal c p s => some ⟨c, p, s⟩
  | _ => none

/-- A signal that was sent, with whom it is for and whom it reaches. -/
structure Delivery where
  call : Call
  /-- The last child that was started on the channel. -/
  meant : Option Ward
  /-- The children whose number it is. -/
  reached : List Ward
  deriving DecidableEq

/-- A signal is for a child: it reaches that child and no other one if that has not been waited for,
and certainly not that child otherwise. -/
structure Delivery.Aimed (d : Delivery) (x : Ward) : Prop where
  channel : x.started.channel = d.call.channel
  process : x.started.process = d.call.process
  live : x.waited = false → d.reached = [x]
  late : x.waited = true → x ∉ d.reached

/-! ## Runs -/

/-- A connection with all children that it has started, in order. -/
structure Watch where
  handler : Handler
  wards : List Ward := []
  connected : Bool := true
  deriving DecidableEq

namespace Watch

/-- Something that happens on a connection or to a child. -/
inductive Move where
  /-- A message comes from the client. -/
  | message (a : Arrival)
  /-- Something happens to a child. -/
  | child (i : Nat) (incident : Incident)
  /-- The connection ends. -/
  | drop

/-- The signal that a move has sent to the child of a channel. -/
def Move.signal? (c : ChannelId) : Move → Option Signal
  | .message (_, .sent c' m) => if c' = c then m.signal? else none
  | .message (_, .opened _) => none
  | .child _ _ => none
  | .drop => some .hup

/-- A connection on which nothing has happened. -/
def ofRoute (route : Option Route) : Watch := { handler := { route } }

/-- A number can be given to a new process: no child has it that has not been waited for. -/
def IsFree (w : Watch) (p : ProcessId) : Prop :=
  ∀ x ∈ w.wards, x.waited = false → x.started.process ≠ p

/-- The processes that are watched are gone through. -/
instance (w : Watch) (p : ProcessId) : Decidable (w.IsFree p) :=
  inferInstanceAs (Decidable (∀ x ∈ w.wards, x.waited = false → x.started.process ≠ p))

/-- The signals that a move sends. -/
def calls (w : Watch) : Move → List Call
  | .message (around, m) => (w.handler.step around m).2.filterMap Effect.call?
  | .child _ _ => []
  | .drop => w.handler.drop.filterMap Effect.call?

/-- What a move leads to, if it is possible: a process that is started gets a number that is free.
-/
def step? (w : Watch) : Move → Option Watch
  | .message (around, m) =>
    let started := launches (w.handler.step around m).2
    if w.connected = true ∧ ∀ st ∈ started, w.IsFree st.process then
      some { w with
        handler := (w.handler.step around m).1
        wards := w.wards ++ started.map Ward.ofStarted }
    else none
  | .child i incident =>
    ((w.wards[i]?).bind fun x => x.step? incident).map fun x => { w with wards := w.wards.set i x }
  | .drop => if w.connected then some { w with handler := {}, connected := false } else none

/-- Whom a signal is for, and whom it reaches. -/
def delivery (w : Watch) (call : Call) : Delivery where
  call := call
  meant := Ward.lastOn? call.channel w.wards
  reached := w.wards.filter fun x => x.waited = false ∧ x.started.process = call.process

/-- What moves lead to, if they are possible one after another, with the signals that are sent. -/
def run? (w : Watch) : List Move → Option (Watch × List Delivery)
  | [] => some (w, [])
  | move :: moves =>
    (w.step? move).bind fun w' =>
      (w'.run? moves).map fun (last, log) => (last, (w.calls move).map w.delivery ++ log)

/-- A move has a signal sent to a child that has been waited for. -/
def Late (w : Watch) (move : Move) : Prop :=
  ∃ c x, (w.handler.child? c).isSome = true ∧ (move.signal? c).isSome = true ∧
    Ward.lastOn? c w.wards = some x ∧ x.waited = true

/-- No move of a run has a signal sent to a child that has been waited for: once that has happened,
no signal comes on its channel, and neither the channel nor the connection is closed. -/
def Prompt (w : Watch) : List Move → Prop
  | [] => True
  | move :: moves => ¬w.Late move ∧ ∀ w', w.step? move = some w' → w'.Prompt moves

/-- What holds in every run. -/
structure Sound (w : Watch) : Prop where
  /-- A channel remembers the last child that was started on it. -/
  remembered : ∀ c child, w.handler.child? c = some child →
    (Ward.lastOn? c w.wards).map (fun x => x.started.process) = some child.process
  distinct : Ward.Distinct w.wards

end Watch

/-! ## What happens to a child -/

/-- The end of a child is known from when it is noticed. -/
lemma Supervision.status_step (v : Supervision) (e : ChildEvent) :
    (v.step e).1.status = match e with
      | .exited status => v.status.or (some status)
      | _ => v.status := by
  have hreport : ∀ w : Supervision, w.report.1.status = w.status := by
    intro w
    rw [Supervision.report]
    cases hstatus : w.status with
    | none => exact hstatus
    | some status =>
      dsimp only
      split_ifs
      · rfl
      · exact hstatus
  cases e with
  | output source bytes => rfl
  | ended source => exact hreport _
  | exited status => exact hreport _

namespace Ward

/-- **What happens to a child**: it stays the child that was started, and once it has been waited
for, that is so for ever. -/
lemma started_step? {x x' : Ward} {incident : Incident} (h : x.step? incident = some x') :
    x'.started = x.started ∧ (x'.waited = false → x.waited = false) := by
  cases incident with
  | ends =>
    obtain ⟨-, ⟨⟩⟩ := Option.ite_none_left_eq_some.1 h
    exact ⟨rfl, id⟩
  | noticed e =>
    cases e with
    | exited status =>
      obtain ⟨-, ⟨⟩⟩ := Option.ite_none_right_eq_some.1 h
      refine ⟨rfl, fun hwaited => ?_⟩
      rw [waited, Supervision.status_step, Option.isSome_or, Bool.or_eq_false_iff] at hwaited
      exact hwaited.1
    | output | ended =>
      obtain rfl := Option.some.inj h
      refine ⟨rfl, fun hwaited => ?_⟩
      rw [waited, Supervision.status_step] at hwaited
      exact hwaited

variable {wards new : List Ward} {c : ChannelId} {x : Ward}

/-- Children of other channels make no difference to which one is the last of a channel. -/
lemma lastOn?_append_of_ne (h : ∀ x ∈ new, x.started.channel ≠ c) :
    lastOn? c (wards ++ new) = lastOn? c wards := by
  have hnone : new.filter (fun x => x.started.channel = c) = [] := by
    simpa [List.filter_eq_nil_iff] using h
  rw [lastOn?, lastOn?, List.filter_append, hnone, List.append_nil]

/-- A child that is started becomes the last one of its channel. -/
lemma lastOn?_concat (h : x.started.channel = c) : lastOn? c (wards ++ [x]) = some x := by
  rw [lastOn?, List.filter_append, List.filter_cons_of_pos (by simpa using h), List.filter_nil,
    List.getLast?_concat]

/-- What happens to a child makes no difference to which one is the last of a channel. -/
lemma map_lastOn?_set {i : Nat} {y : Ward} (hx : wards[i]? = some x) (hy : y.started = x.started) :
    (lastOn? c (wards.set i y)).map started = (lastOn? c wards).map started := by
  have hmap : ∀ l : List Ward, (lastOn? c l).map started =
      ((l.map started).filter fun st => st.channel = c).getLast? := by
    intro l
    rw [lastOn?, List.filter_map, List.getLast?_map]
    rfl
  have hi : (wards.map started)[i]? = some x.started := by rw [List.getElem?_map, hx]; rfl
  obtain ⟨hlt, hget⟩ := List.getElem?_eq_some_iff.1 hi
  rw [hmap, hmap, List.map_set, hy, ← hget, List.set_getElem_self]

/-- A child that is waited for frees its number. -/
lemma Distinct.replace {before after : List Ward} {x' : Ward} (hstarted : x'.started = x.started)
    (hwaited : x'.waited = false → x.waited = false) (h : Distinct (before ++ x :: after)) :
    Distinct (before ++ x' :: after) := by
  rw [Distinct, List.pairwise_append, List.pairwise_cons] at h ⊢
  obtain ⟨hbefore, ⟨hx, hafter⟩, hacross⟩ := h
  refine ⟨hbefore, ⟨fun y hy hx' hy' => ?_, hafter⟩, fun y hy z hz hy' hz' => ?_⟩
  · exact hstarted ▸ hx y hy (hwaited hx') hy'
  · rcases List.mem_cons.1 hz with rfl | hz
    · exact hstarted ▸ hacross y hy x List.mem_cons_self hy' (hwaited hz')
    · exact hacross y hy z (List.mem_cons_of_mem _ hz) hy' hz'

end Ward

/-! ## The signals of a move -/

/-- Only a signal is a call to the system. -/
lemma Effect.call?_eq_some {e : Effect} {call : Call} :
    e.call? = some call ↔ e = .signal call.channel call.process call.signal := by
  constructor
  · intro h
    cases e <;> cases h
    rfl
  · rintro rfl
    rfl

/-- The calls are the signals among the effects. -/
lemma mem_filterMap_call? {effects : List Effect} {call : Call} :
    call ∈ effects.filterMap Effect.call? ↔
      .signal call.channel call.process call.signal ∈ effects := by
  simp [List.mem_filterMap, Effect.call?_eq_some]

namespace Handler

/-- **The signals of a message** go to the child of its channel. -/
lemma signal_mem_receive {around : Surroundings} {h : Handler} {c c' : ChannelId}
    {m : ClientMessage}
    {p : ProcessId} {s : Signal} : .signal c' p s ∈ (h.receive around c m).2 ↔
      c = c' ∧ ∃ child, h.child? c = some child ∧ child.process = p ∧ m.signal? = some s := by
  have hstart : ∀ payload, .signal c' p s ∉ (h.start around c payload).2 := by
    intro payload hmem
    cases (mem_start around h c hmem).2
  cases m with
  | exec payload => exact iff_of_false (hstart _) (by simp [ClientMessage.signal?])
  | shell => exact iff_of_false (hstart _) (by simp [ClientMessage.signal?])
  | env | terminal =>
    rw [receive_preparation around h c rfl]
    simp [ClientMessage.signal?]
  | signal name =>
    cases hchild : h.child? c <;> cases hname : name.toSignal? <;>
      simp [receive, hchild, hname, ClientMessage.signal?, eq_comm]
  | data | eof | resize =>
    cases hchild : h.child? c with
    | none => simp [receive, hchild, ClientMessage.signal?]
    | some child =>
      simp only [receive, hchild, ClientMessage.signal?]
      split_ifs <;> simp
  | close =>
    cases hchild : h.child? c with
    | none => simp [receive, hchild, ClientMessage.signal?]
    | some child =>
      simp only [receive, hchild, ClientMessage.signal?]
      split_ifs <;> simp [eq_comm]

/-- The signals of the end of a connection go to the children of all channels. -/
lemma signal_mem_drop {h : Handler} {c : ChannelId} {p : ProcessId} {s : Signal} :
    .signal c p s ∈ h.drop ↔ ∃ child, h.child? c = some child ∧ child.process = p ∧ s = .hup := by
  have hchildren : ∀ child, (c, child) ∈ h.children ↔ h.child? c = some child := by
    intro child
    rw [children, List.mem_filterMap, child?_eq_some]
    constructor
    · rintro ⟨⟨c', x⟩, hentry, hx⟩
      obtain ⟨child', hchild, heq⟩ := Option.map_eq_some_iff.1 hx
      obtain ⟨rfl, rfl⟩ := Prod.mk.inj heq
      exact ⟨x, h.channels.get?_of_mem hentry, hchild⟩
    · rintro ⟨x, hget, hx⟩
      exact ⟨(c, x), Dictionary.mem_of_get? hget, by rw [hx]; rfl⟩
  simp only [drop, List.mem_append, List.mem_map, reduceCtorEq, and_false, exists_false, or_false,
    Effect.signal.injEq, Prod.exists]
  constructor
  · rintro ⟨c', child, hmem, rfl, rfl, rfl⟩
    exact ⟨child, (hchildren child).1 hmem, rfl, rfl⟩
  · rintro ⟨child, hchild, rfl, rfl⟩
    exact ⟨c, child, (hchildren child).2 hchild, rfl, rfl, rfl⟩

end Handler

namespace Watch

variable {w w' : Watch} {move : Move} {c : ChannelId}

/-- **Which signals a move sends**: one to the child of each channel that it has one sent to. -/
lemma mem_calls {call : Call} : call ∈ w.calls move ↔
    ∃ child, w.handler.child? call.channel = some child ∧ child.process = call.process ∧
      move.signal? call.channel = some call.signal := by
  cases move with
  | message a =>
    obtain ⟨around, m⟩ := a
    cases m with
    | opened c => simp [calls, Handler.step, Move.signal?]
    | sent c m =>
      rw [calls, mem_filterMap_call?, Handler.step, Handler.signal_mem_receive, Move.signal?]
      by_cases hc : c = call.channel
      · subst hc
        simp
      · simp [hc]
  | child i incident => simp [calls, Move.signal?]
  | drop =>
    rw [calls, mem_filterMap_call?, Handler.signal_mem_drop]
    simp [Move.signal?, eq_comm]

/-! ## What holds in every run -/

namespace Sound

/-- In the beginning everything holds, since nothing has been started. -/
lemma start (route : Option Route) : (ofRoute route).Sound where
  remembered c child hchild := by simp [ofRoute, Handler.child?] at hchild
  distinct := .nil

/-- A channel is opened. -/
lemma opened (hw : w.Sound) (around : Surroundings) (c : ChannelId) :
    Sound { w with handler := (w.handler.step around (.opened c)).1 } where
  remembered c' child hchild := by
    by_cases hc : c' = c
    · simp [Handler.step, Handler.child?, hc] at hchild
    · rw [Handler.child?, Handler.get?_step_of_ne around w.handler (m := .opened c) hc] at hchild
      exact hw.remembered c' child hchild
  distinct := hw.distinct

/-- A message comes on a channel, and if it starts a child, that gets a number that is free.

**Proof sketch.** The message changes its own channel only, in one of the known ways: the channel
keeps its child, and then nobody is started, or its new child is the one that is started. -/
lemma received (hw : w.Sound) (around : Surroundings) (c : ChannelId) (m : ClientMessage)
    (hfree : ∀ st ∈ launches (w.handler.receive around c m).2, w.IsFree st.process) :
    Sound { w with
      handler := (w.handler.receive around c m).1
      wards := w.wards ++ (launches (w.handler.receive around c m).2).map Ward.ofStarted } := by
  have hchange := Handler.change_receive around w.handler c m
  have hother := fun c' (hc : c' ≠ c) => Handler.get?_receive_of_ne around w.handler c m hc
  generalize (w.handler.receive around c m).1 = h' at *
  generalize launches (w.handler.receive around c m).2 = started at *
  constructor
  case remembered =>
    intro c' child hchild
    dsimp only at hchild ⊢
    by_cases hc : c' = c
    · subst hc
      obtain ⟨s', hs', hchild'⟩ := Handler.child?_eq_some.1 hchild
      obtain ⟨x, old, hx, hold, hprocess, -⟩ | ⟨spec, hstarted, -⟩ := hchange.of_child hs' hchild'
      · obtain hnone | ⟨y, -, -, hy, hidle, -⟩ := hchange.started_cases
        · have hlast := hw.remembered c' old (Handler.child?_eq_some.2 ⟨x, hx, hold⟩)
          rw [hnone, List.map_nil, List.append_nil, ← hprocess]
          exact hlast
        · rw [hx, Option.some.injEq] at hy
          rw [← hy, hold] at hidle
          cases hidle
      · have hlast : Ward.lastOn? c' (w.wards ++ [Ward.ofStarted ⟨c', spec, child.process⟩]) =
            some (Ward.ofStarted ⟨c', spec, child.process⟩) := Ward.lastOn?_concat rfl
        rw [hstarted, List.map_singleton, hlast]
        rfl
    · have hnew : ∀ x ∈ started.map Ward.ofStarted, x.started.channel ≠ c' := by
        intro x hx
        obtain ⟨st, hst, rfl⟩ := List.mem_map.1 hx
        exact (hchange.of_started hst).1 ▸ Ne.symm hc
      rw [Handler.child?, hother c' hc] at hchild
      rw [Ward.lastOn?_append_of_ne hnew]
      exact hw.remembered c' child hchild
  case distinct =>
    obtain hnone | ⟨-, spec, process, -, -, hsome⟩ := hchange.started_cases
    · rw [hnone, List.map_nil, List.append_nil]
      exact hw.distinct
    · -- nobody else has the number of a child that has just been started
      rw [hsome] at hfree
      rw [hsome, List.map_singleton]
      refine List.pairwise_append.2 ⟨hw.distinct, List.pairwise_singleton _ _, ?_⟩
      intro x hx y hy hwaited _
      rw [List.mem_singleton.1 hy]
      exact hfree _ List.mem_cons_self x hx hwaited

/-- Something happens to a child. -/
lemma happened (hw : w.Sound) {i : Nat} {incident : Incident} {x x' : Ward}
    (hx : w.wards[i]? = some x) (hx' : x.step? incident = some x') :
    Sound { w with wards := w.wards.set i x' } := by
  obtain ⟨hstarted, hwaited⟩ := Ward.started_step? hx'
  obtain ⟨hi, hget⟩ := List.getElem?_eq_some_iff.1 hx
  constructor
  · intro c child hchild
    have hsame := congrArg (Option.map Started.process) (Ward.map_lastOn?_set (c := c) hx hstarted)
    rw [Option.map_map, Option.map_map] at hsame
    exact hsame.trans (hw.remembered c child hchild)
  · obtain ⟨before, after, hsplit, -, hset⟩ : ∃ before after,
        w.wards = before ++ w.wards[i] :: after ∧ before.length = i ∧
          w.wards.set i x' = before ++ x' :: after := List.exists_of_set hi
    rw [hget] at hsplit
    rw [hset]
    exact Ward.Distinct.replace hstarted hwaited (hsplit ▸ hw.distinct)

/-- **Every move** keeps what holds. -/
lemma step (hw : w.Sound) (h : w.step? move = some w') : w'.Sound := by
  cases move with
  | message a =>
    obtain ⟨around, m⟩ := a
    obtain ⟨⟨-, hfree⟩, ⟨⟩⟩ := Option.ite_none_right_eq_some.1 h
    cases m with
    | opened c => simpa [Handler.step] using hw.opened around c
    | sent c m => exact hw.received around c m hfree
  | child i incident =>
    obtain ⟨x', hx', rfl⟩ := Option.map_eq_some_iff.1 h
    obtain ⟨x, hx, hstep⟩ := Option.bind_eq_some_iff.1 hx'
    exact hw.happened hx hstep
  | drop =>
    obtain ⟨-, ⟨⟩⟩ := Option.ite_none_right_eq_some.1 h
    exact ⟨fun c child hchild => by simp [Handler.child?] at hchild, hw.distinct⟩

end Sound

/-! ## Whom signals reach -/

/-- A child that has not been waited for is the only one that has its number. -/
lemma Sound.filter_eq_singleton (hw : w.Sound) {x : Ward} (hx : x ∈ w.wards)
    (hwaited : x.waited = false) :
    (w.wards.filter fun y => y.waited = false ∧ y.started.process = x.started.process) = [x] := by
  obtain ⟨before, after, hsplit⟩ := List.append_of_mem hx
  have hdistinct := hw.distinct
  rw [hsplit, Ward.Distinct, List.pairwise_append, List.pairwise_cons] at hdistinct
  have hbefore :
      before.filter (fun y => y.waited = false ∧ y.started.process = x.started.process) = [] := by
    rw [List.filter_eq_nil_iff]
    intro y hy hsame
    rw [decide_eq_true_eq] at hsame
    exact hdistinct.2.2 y hy x List.mem_cons_self hsame.1 hwaited hsame.2
  have hafter :
      after.filter (fun y => y.waited = false ∧ y.started.process = x.started.process) = [] := by
    rw [List.filter_eq_nil_iff]
    intro y hy hsame
    rw [decide_eq_true_eq] at hsame
    exact hdistinct.2.1.1 y hy hwaited hsame.1 hsame.2.symm
  rw [hsplit, List.filter_append, hbefore, List.filter_cons_of_pos (by simp [hwaited]), hafter]
  rfl

/-- **A signal of one move** is for the last child of its channel. -/
lemma Sound.aimed (hw : w.Sound) {call : Call} (hcall : call ∈ w.calls move) :
    ∃ x, (w.delivery call).meant = some x ∧ Delivery.Aimed (w.delivery call) x := by
  obtain ⟨child, hchild, hprocess, -⟩ := mem_calls.1 hcall
  obtain ⟨x, hx, hsame⟩ := Option.map_eq_some_iff.1 (hw.remembered call.channel child hchild)
  have hmem := List.mem_filter.1 (List.mem_of_getLast? hx)
  have hnumber : x.started.process = call.process := hsame.trans hprocess
  refine ⟨x, hx, of_decide_eq_true hmem.2, hnumber, fun hwaited => ?_, fun hwaited hreached => ?_⟩
  · rw [delivery, ← hnumber]
    exact hw.filter_eq_singleton hmem.1 hwaited
  · have hlive := (List.mem_filter.1 hreached).2
    simp [hwaited] at hlive

/-- A move is late just if one of its signals is for a child that has been waited for. -/
lemma late_iff : w.Late move ↔
    ∃ call ∈ w.calls move, ∃ x, (w.delivery call).meant = some x ∧ x.waited = true := by
  constructor
  · rintro ⟨c, x, hchild, hsignal, hx, hwaited⟩
    obtain ⟨child, hchild⟩ := Option.isSome_iff_exists.1 hchild
    obtain ⟨s, hsignal⟩ := Option.isSome_iff_exists.1 hsignal
    exact ⟨⟨c, child.process, s⟩, mem_calls.2 ⟨child, hchild, rfl, hsignal⟩, x, hx, hwaited⟩
  · rintro ⟨call, hcall, x, hx, hwaited⟩
    obtain ⟨child, hchild, -, hsignal⟩ := mem_calls.1 hcall
    exact ⟨call.channel, x, by simp [hchild], by simp [hsignal], hx, hwaited⟩

/-- **Whom the signals of a run reach.**

**Proof sketch.** Induction on the moves.  What holds in every run holds before each of them, and
says whom its signals are for. -/
lemma Sound.run (hw : w.Sound) {moves : List Move} {last : Watch} {log : List Delivery}
    (h : w.run? moves = some (last, log)) :
    (∀ d ∈ log, ∃ x, d.meant = some x ∧ d.Aimed x) ∧
      ((∀ d ∈ log, ∀ x, d.meant = some x → x.waited = false) ↔ w.Prompt moves) := by
  induction moves generalizing w log with
  | nil =>
    cases h
    exact ⟨by simp, by simp [Prompt]⟩
  | cons move moves ih =>
    obtain ⟨w', hstep, hrest⟩ := Option.bind_eq_some_iff.1 h
    obtain ⟨⟨last', later⟩, hrun, heq⟩ := Option.map_eq_some_iff.1 hrest
    obtain ⟨rfl, rfl⟩ := Prod.mk.inj heq
    obtain ⟨haimed, hprompt⟩ := ih (hw.step hstep) hrun
    constructor
    · intro d hd
      rcases List.mem_append.1 hd with hnow | hlater
      · obtain ⟨call, hcall, rfl⟩ := List.mem_map.1 hnow
        exact hw.aimed hcall
      · exact haimed d hlater
    · rw [Prompt, late_iff, List.forall_mem_append, hprompt]
      refine and_congr ?_ ⟨fun h v hv => ?_, fun h => h w' hstep⟩
      · simp
      · rw [hstep, Option.some.injEq] at hv
        exact hv ▸ h

/-- **Whom signals reach.**  In every run, whatever the client sends and in whatever order children
end, are waited for and are forgotten, each signal goes to the number of the last child of its
channel.  It reaches that child and no other one as long as that has not been waited for.  And no
signal is for a child that has been waited for just if the run is prompt. -/
theorem signals_reach (route : Option Route) {moves : List Move}
    {last : Watch} {log : List Delivery}
    (h : (ofRoute route).run? moves = some (last, log)) :
    (∀ d ∈ log, ∃ x, d.meant = some x ∧ d.Aimed x) ∧
      ((∀ d ∈ log, ∀ x, d.meant = some x → x.waited = false) ↔ (ofRoute route).Prompt moves) :=
  (Sound.start route).run h

open Handler (willing)

/-- A shell is started, gets a signal and ends, and its channel is closed before anybody waits for
it. -/
def interrupted : List Move :=
  [.message (willing 7, .opened 0), .message (willing 7, .sent 0 .shell),
    .message (willing 7, .sent 0 (.signal (.known .int))), .child 0 .ends,
    .message (willing 7, .sent 0 .close)]

/-- Its signals reach it. -/
theorem signals_reach_interrupted : ∃ last log, (ofRoute none).run? interrupted = some (last, log) ∧
    log.map Delivery.call = [⟨0, 7, .int⟩, ⟨0, 7, .hup⟩] ∧
    (∀ d ∈ log, ∃ x, d.meant = some x ∧ d.Aimed x) ∧ (ofRoute none).Prompt interrupted := by
  have hlog : ((ofRoute none).run? interrupted).map (fun run =>
      run.2.map fun d => (d.call, d.meant.map Ward.waited)) =
      some [(⟨0, 7, .int⟩, some false), (⟨0, 7, .hup⟩, some false)] := by
    decide
  obtain ⟨⟨last, log⟩, hrun, hlog⟩ := Option.map_eq_some_iff.1 hlog
  obtain ⟨haimed, hprompt⟩ := signals_reach none hrun
  refine ⟨last, log, hrun, ?_, haimed, hprompt.1 fun d hd x hx => ?_⟩
  · have hcalls := congrArg (List.map Prod.fst) hlog
    rwa [List.map_map] at hcalls
  · have hmem := List.mem_map_of_mem (f := fun d : Delivery => (d.call, d.meant.map Ward.waited)) hd
    rw [hlog] at hmem
    simp only [hx, Option.map_some, List.mem_cons, Prod.mk.injEq, Option.some.injEq,
      List.not_mem_nil, or_false] at hmem
    rcases hmem with ⟨-, hwaited⟩ | ⟨-, hwaited⟩ <;> exact hwaited

/-! ## A number that is given again -/

/-- The end of every session may hang up on a stranger: a shell ends and is waited for, another one
gets its number, and then the client closes the channel of the first.  The signal for the first,
which has been waited for, reaches the second. -/
theorem close_reaches_stranger :
    let moves : List Move :=
      [.message (willing 7, .opened 0), .message (willing 7, .sent 0 .shell),
        .child 0 .ends, .child 0 (.noticed (.exited 0)),
        .message (willing 7, .opened 1), .message (willing 7, .sent 1 .shell),
        .message (willing 7, .sent 0 .close)]
    ((ofRoute none).run? moves).map (fun run => run.2.map fun d =>
        (d.call, d.meant.map Ward.waited, d.reached.map fun x => x.started.channel)) =
      some [(⟨0, 7, .hup⟩, some true, [1])] := by
  decide

end Watch

end Agent

end CommandRelay
