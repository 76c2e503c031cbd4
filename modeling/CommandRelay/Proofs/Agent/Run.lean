import CommandRelay.Agent.Handler
import CommandRelay.Proofs.Session.Request
import Mathlib.Data.List.Basic
import Mathlib.Tactic.Common

/-!
# Runs of a connection

A message changes the state of its own channel only, and it does one of a few things to it.  What is
asked for on a channel before its start request is collected there without any effect.

## Main definitions

* `Agent.Arrival`, `Agent.Handler.after`, `Agent.Handler.effects` — runs.
* `Agent.Started`, `Agent.launches` — the children that some effects start.
* `Agent.Channel.Change` — what can become of a channel, and whom that starts.

## Main results

* `Agent.Handler.start_cases` — what a start request does.
* `Agent.Handler.change_receive` — a message does one of these things to its channel.
* `Agent.Handler.get?_step_of_ne` — it does nothing to another channel.
* `Agent.Handler.mem_receive` — its effects are on its channel, and some of them on the child of
  that.
* `Agent.Handler.effects_session` — the preparations of a command, and its start.
-/

namespace CommandRelay

/-- The channel of a message. -/
def ConnectionMessage.channel : ConnectionMessage → ChannelId
  | .opened c => c
  | .sent c _ => c

namespace ClientMessage

/-- Whether a message says something about a command before it is started. -/
def isPreparation : ClientMessage → Bool
  | .env .. | .terminal .. => true
  | _ => false

/-- Whether a message asks for a command to be started. -/
def isStart : ClientMessage → Bool
  | .exec _ | .shell => true
  | _ => false

end ClientMessage

namespace Agent

/-- Something that happens on a connection, with what the agent finds around it by then. -/
abbrev Arrival := Surroundings × ConnectionMessage

/-! ## Effects -/

/-- The channel that an effect is on. -/
def Effect.channel : Effect → ChannelId
  | .reply c _ | .refuse c _ | .launch c _ _ | .feed c _ | .endInput c | .signal c _ _
  | .resize c _ => c

/-- Whether an effect answers a start request. -/
def Effect.isAnswer : Effect → Bool
  | .reply .. | .refuse .. | .launch .. => true
  | _ => false

/-- A child that was started. -/
structure Started where
  channel : ChannelId
  /-- What was launched. -/
  spec : Launch
  process : ProcessId
  deriving DecidableEq

/-- The child that an effect starts. -/
def Effect.started? : Effect → Option Started
  | .launch channel spec (some process) => some { channel, spec, process }
  | _ => none

/-- The children that some effects start. -/
def launches (effects : List Effect) : List Started :=
  effects.filterMap Effect.started?

/-- No effects start anybody. -/
@[simp] lemma launches_nil : launches [] = [] := rfl

/-- The first effect starts somebody or not, and the others as before. -/
@[simp] lemma launches_cons (e : Effect) (effects : List Effect) :
    launches (e :: effects) = e.started?.toList ++ launches effects := by
  rw [launches, List.filterMap_cons]
  cases e.started? <;> rfl

/-- Effects one after another start whom each of them starts. -/
@[simp] lemma launches_append (a b : List Effect) :
    launches (a ++ b) = launches a ++ launches b :=
  List.filterMap_append

/-- What can become of a channel when something is sent on it, and whom that starts. -/
inductive Channel.Change (c : ChannelId) :
    Option Channel → Option Channel → List Started → Prop
  /-- The channel stays as it is. -/
  | keep (s : Option Channel) : Change c s s []
  /-- More is asked for. -/
  | ask (s : Channel) (r : LaunchRequest) : Change c (some s) (some { s with request := r }) []
  /-- A channel without a child gets one. -/
  | start (s : Channel) (h : s.child = none) (spec : Launch) (process : ProcessId) :
      Change c (some s)
        (some { s with child := some { process, hasTerminal := spec.terminal.isSome } })
        [{ channel := c, spec, process }]
  /-- The input of the child ends. -/
  | shut (s : Channel) (child : Child) (h : s.child = some child) :
      Change c (some s) (some { s with child := some { child with inputOpen := false } }) []
  /-- The channel is forgotten. -/
  | forget (s : Option Channel) : Change c s none []

namespace Handler

/-! ## Runs -/

/-- The state after some arrivals. -/
def after (h : Handler) (arrivals : List Arrival) : Handler :=
  arrivals.foldl (fun h a => (h.step a.1 a.2).1) h

/-- What some arrivals make happen. -/
def effects (h : Handler) : List Arrival → List Effect
  | [] => []
  | a :: arrivals => (h.step a.1 a.2).2 ++ (h.step a.1 a.2).1.effects arrivals

/-- Without arrivals the handler is what it was. -/
@[simp] lemma after_nil (h : Handler) : h.after [] = h := rfl

/-- The handler takes one arrival after another. -/
@[simp] lemma after_cons (h : Handler) (a : Arrival) (arrivals : List Arrival) :
    h.after (a :: arrivals) = (h.step a.1 a.2).1.after arrivals := rfl

/-- Without arrivals there are no effects. -/
@[simp] lemma effects_nil (h : Handler) : h.effects [] = [] := rfl

/-- The effects of the first arrival come first. -/
@[simp] lemma effects_cons (h : Handler) (a : Arrival) (arrivals : List Arrival) :
    h.effects (a :: arrivals) = (h.step a.1 a.2).2 ++ (h.step a.1 a.2).1.effects arrivals := rfl

/-- Later arrivals meet the handler that earlier ones left. -/
@[simp] lemma after_append (h : Handler) (a b : List Arrival) :
    h.after (a ++ b) = (h.after a).after b := List.foldl_append

/-- So do their effects. -/
@[simp] lemma effects_append (h : Handler) (a b : List Arrival) :
    h.effects (a ++ b) = h.effects a ++ (h.after a).effects b := by
  induction a generalizing h with
  | nil => rfl
  | cons x a ih => rw [List.cons_append, effects_cons, effects_cons, ih, List.append_assoc]; rfl

/-! ## One message -/

section Messages

variable (around : Surroundings) (h : Handler) (c : ChannelId)

/-- An update changes its own channel, and nothing else. -/
lemma get?_update (f : Channel → Channel) (c' : ChannelId) :
    (h.update c f).channels.get? c' =
      if c' = c then (h.channels.get? c).map f else h.channels.get? c' := by
  by_cases hc : c' = c
  · subst hc
    cases hget : h.channels.get? c' <;> simp [update, hget]
  · cases hget : h.channels.get? c <;> simp [update, hget, hc]

/-- An update changes its own channel, if there is one. -/
lemma get?_update_self (f : Channel → Channel) :
    (h.update c f).channels.get? c = (h.channels.get? c).map f := by
  rw [get?_update, if_pos rfl]

/-- A child of a handler is that of one of its channels. -/
lemma child?_eq_some {h : Handler} {c : ChannelId} {child : Child} :
    h.child? c = some child ↔ ∃ s, h.channels.get? c = some s ∧ s.child = some child :=
  Option.bind_eq_some_iff

/-- What a preparation does: it is collected. -/
lemma receive_preparation {m : ClientMessage} (hm : m.isPreparation = true) :
    h.receive around c m =
      (h.update c fun s => { s with request := s.request.collect m }, []) := by
  cases m with
  | env | terminal => rfl
  | _ => cases hm

/-- What a start request does is to start the command that it brings, or a shell. -/
lemma exists_receive_start {m : ClientMessage} (hm : m.isStart = true) :
    ∃ payload, h.receive around c m = h.start around c payload := by
  cases m with
  | exec payload => exact ⟨some payload, rfl⟩
  | shell => exact ⟨none, rfl⟩
  | _ => cases hm

/-- A start request on a channel that is not open or has a child is turned down. -/
lemma start_denied (hs : ∀ s, h.channels.get? c = some s → s.child ≠ none)
    (payload : Option (List UInt8)) : h.start around c payload = (h, [.reply c false]) := by
  cases hget : h.channels.get? c with
  | none => simp [start, hget]
  | some s =>
    cases hchild : s.child with
    | none => exact absurd hchild (hs s hget)
    | some child => simp [start, hget, hchild]

/-- A start request on a channel that has a child is turned down. -/
lemma start_of_child? {child : Child} (hchild : h.child? c = some child)
    (payload : Option (List UInt8)) : h.start around c payload = (h, [.reply c false]) := by
  obtain ⟨s, hs, hschild⟩ := child?_eq_some.1 hchild
  refine start_denied around h c (fun x hx => ?_) payload
  rw [hs, Option.some.injEq] at hx
  rw [← hx, hschild]
  exact Option.some_ne_none child

/-- **What a start request does.** It changes nothing and says so or why on its channel, or it gives
a child to a channel that has none. -/
lemma start_cases (payload : Option (List UInt8)) :
    (∃ es, h.start around c payload = (h, es) ∧ launches es = [] ∧
      ∀ e ∈ es, e.channel = c ∧ e.isAnswer = true) ∨
    ∃ s spec process, h.channels.get? c = some s ∧ s.child = none ∧
      around.spawn spec = .ok process ∧ h.start around c payload =
        ({ h with channels := h.channels.insert c { s with
            child := some { process, hasTerminal := spec.terminal.isSome } } },
          [.reply c true, .launch c spec (some process)]) := by
  by_cases hs : ∀ s, h.channels.get? c = some s → s.child ≠ none
  · exact .inl ⟨_, start_denied around h c hs payload, rfl, by
      simp [Effect.channel, Effect.isAnswer]⟩
  · simp only [not_forall, not_not] at hs
    obtain ⟨s, hget, hchild⟩ := hs
    cases hlaunch : s.request.launch around.isDirectory payload around.host with
    | error e =>
      refine .inl ⟨[.reply c true, .refuse c e.message], ?_, rfl, ?_⟩
      · simp [start, hget, hchild, hlaunch]
      · simp [Effect.channel, Effect.isAnswer]
    | ok spec =>
      cases hspawn : around.spawn spec with
      | error reason =>
        refine .inl ⟨[.reply c true, .launch c spec none, .refuse c reason], ?_, rfl, ?_⟩
        · simp [start, hget, hchild, hlaunch, hspawn]
        · simp [Effect.channel, Effect.isAnswer]
      | ok process =>
        exact .inr ⟨s, spec, process, hget, hchild, hspawn, by
          simp [start, hget, hchild, hlaunch, hspawn]⟩

/-- A start request whose launch can be made starts the program, unless that cannot be. -/
lemma effects_start {s : Channel} (hget : h.channels.get? c = some s) (hchild : s.child = none)
    {payload : Option (List UInt8)} {spec : Launch}
    (hlaunch : s.request.launch around.isDirectory payload around.host = .ok spec) :
    (h.start around c payload).2 =
      .reply c true :: match around.spawn spec with
        | .ok process => [.launch c spec (some process)]
        | .error reason => [.launch c spec none, .refuse c reason] := by
  cases hspawn : around.spawn spec <;> simp [start, hget, hchild, hlaunch, hspawn]

/-- **Start requests** keep a channel or give it a child. -/
lemma change_start (payload : Option (List UInt8)) :
    Channel.Change c (h.channels.get? c) ((h.start around c payload).1.channels.get? c)
      (launches (h.start around c payload).2) := by
  obtain ⟨es, hstart, hnone, -⟩ | ⟨s, spec, process, hget, hchild, -, hstart⟩ :=
    start_cases around h c payload
  · rw [hstart, hnone]
    exact .keep _
  · rw [hstart, hget]
    simpa [Effect.started?] using Channel.Change.start s hchild spec process

/-- **What a message does to its channel** is one of the changes.

**Proof sketch.** By the kind of message; only a start request starts somebody. -/
lemma change_receive (m : ClientMessage) :
    Channel.Change c (h.channels.get? c) ((h.receive around c m).1.channels.get? c)
      (launches (h.receive around c m).2) := by
  cases m with
  | exec payload => exact change_start around h c (some payload)
  | shell => exact change_start around h c none
  | env name value =>
    rw [receive_preparation around h c rfl, get?_update_self]
    cases h.channels.get? c with
    | none => exact .keep _
    | some s => exact .ask s _
  | terminal term cols rows width height modes =>
    rw [receive_preparation around h c rfl, get?_update_self]
    cases h.channels.get? c with
    | none => exact .keep _
    | some s => exact .ask s _
  | data bytes =>
    cases hchild : h.child? c with
    | none => simpa [receive, hchild] using Channel.Change.keep _
    | some child =>
      cases hopen : child.inputOpen <;>
        simpa [receive, hchild, hopen, Effect.started?] using Channel.Change.keep _
  | eof =>
    cases hchild : h.child? c with
    | none => simpa [receive, hchild] using Channel.Change.keep _
    | some child =>
      obtain ⟨s, hget, hs⟩ := child?_eq_some.1 hchild
      have hshut := Channel.Change.shut (c := c) s child hs
      cases hopen : child.inputOpen <;>
        simpa [receive, hchild, hopen, hget, get?_update_self, Effect.started?] using
          hshut
  | signal name =>
    cases hchild : h.child? c <;> cases hname : name.toSignal? <;>
      simpa [receive, hchild, hname, Effect.started?] using Channel.Change.keep _
  | resize cols rows width height =>
    cases hchild : h.child? c with
    | none => simpa [receive, hchild] using Channel.Change.keep _
    | some child =>
      cases hterminal : child.hasTerminal <;>
        simpa [receive, hchild, hterminal, Effect.started?] using
          Channel.Change.keep _
  | close =>
    cases hchild : h.child? c with
    | none => simpa [receive, hchild] using Channel.Change.forget _
    | some child =>
      cases hopen : child.inputOpen <;>
        simpa [receive, hchild, hopen, Effect.started?] using
          Channel.Change.forget _

/-- What a start request makes happen is on its channel and answers it. -/
lemma mem_start {payload : Option (List UInt8)} {e : Effect}
    (he : e ∈ (h.start around c payload).2) : e.channel = c ∧ e.isAnswer = true := by
  obtain ⟨es, hstart, -, hes⟩ | ⟨s, spec, process, -, -, -, hstart⟩ :=
    start_cases around h c payload
  · exact hes e (by simpa [hstart] using he)
  · rw [hstart, List.mem_cons, List.mem_singleton] at he
    rcases he with rfl | rfl <;> exact ⟨rfl, rfl⟩

/-- **What a message makes happen** is on its channel.  It answers a start request, or it is for the
child of the channel. -/
lemma mem_receive {m : ClientMessage} {e : Effect} (he : e ∈ (h.receive around c m).2) :
    e.channel = c ∧ e.isAnswer = m.isStart ∧
      (m.isStart = false → ∃ child, h.child? c = some child) := by
  cases m with
  | exec payload => exact ⟨(mem_start around h c he).1, (mem_start around h c he).2, nofun⟩
  | shell => exact ⟨(mem_start around h c he).1, (mem_start around h c he).2, nofun⟩
  | env | terminal => rw [receive_preparation around h c rfl] at he; cases he
  | signal name =>
    cases hchild : h.child? c <;> cases hname : name.toSignal? <;>
      simp [receive, hchild, hname] at he
    rw [he]
    exact ⟨rfl, rfl, fun _ => ⟨_, rfl⟩⟩
  | data | eof | resize | close =>
    cases hchild : h.child? c with
    | none => simp [receive, hchild] at he
    | some child =>
      simp only [receive, hchild] at he
      split_ifs at he <;> simp at he
      all_goals
        first
        | (rw [he]; exact ⟨rfl, rfl, fun _ => ⟨child, rfl⟩⟩)
        | (rcases he with rfl | rfl <;> exact ⟨rfl, rfl, fun _ => ⟨child, rfl⟩⟩)

/-- **The state after a message** is that before it, but perhaps for the channel.

**Proof sketch.** By cases of the message.  A start enters the channel with its child or changes
nothing, a preparation and the end of input update the channel, its close erases it, and all other
messages have effects only. -/
lemma state_receive (m : ClientMessage) :
    (h.receive around c m).1 = h ∨
      (∃ s, (h.receive around c m).1 = { h with channels := h.channels.insert c s }) ∨
      (h.receive around c m).1 = { h with channels := h.channels.erase c } := by
  have hupdate : ∀ f, h.update c f = h ∨
      ∃ s, h.update c f = { h with channels := h.channels.insert c s } := by
    intro f
    rw [update]
    cases h.channels.get? c with
    | none => exact .inl rfl
    | some s => exact .inr ⟨f s, rfl⟩
  have hstart : ∀ payload, (h.start around c payload).1 = h ∨
      ∃ s, (h.start around c payload).1 = { h with channels := h.channels.insert c s } := by
    intro payload
    obtain ⟨es, hstart, -⟩ | ⟨s, spec, process, -, -, -, hstart⟩ := start_cases around h c payload
    · exact .inl (by rw [hstart])
    · exact .inr ⟨_, by rw [hstart]⟩
  cases m with
  | exec | shell => exact (hstart _).imp id .inl
  | env | terminal =>
    rw [receive_preparation around h c rfl]
    exact (hupdate _).imp id .inl
  | signal name =>
    cases hchild : h.child? c <;> cases hname : name.toSignal? <;> simp [receive, hchild, hname]
  | eof =>
    cases hchild : h.child? c with
    | none => simp [receive, hchild]
    | some child =>
      simp only [receive, hchild]
      exact (hupdate _).imp id .inl
  | close => exact .inr (.inr rfl)
  | data | resize => cases hchild : h.child? c <;> simp [receive, hchild]

/-- A message does nothing to another channel. -/
lemma get?_receive_of_ne (m : ClientMessage) {c' : ChannelId} (hc : c' ≠ c) :
    (h.receive around c m).1.channels.get? c' = h.channels.get? c' := by
  rcases state_receive around h c m with hstate | ⟨s, hstate⟩ | hstate <;> rw [hstate]
  · rw [Dictionary.get?_insert, if_neg hc]
  · rw [Dictionary.get?_erase, if_neg hc]

/-- No message changes as whom the client runs. -/
lemma route_receive (m : ClientMessage) : (h.receive around c m).1.route = h.route := by
  rcases state_receive around h c m with hstate | ⟨s, hstate⟩ | hstate <;> rw [hstate]

/-- What happens on a channel does nothing to another one. -/
lemma get?_step_of_ne {m : ConnectionMessage} {c' : ChannelId} (hc : c' ≠ m.channel) :
    (h.step around m).1.channels.get? c' = h.channels.get? c' := by
  cases m with
  | opened c => simp [step, show c' ≠ c from hc]
  | sent c m => exact get?_receive_of_ne around h c m hc

end Messages

/-! ## Preparations -/

/-- **Preparations.** What is asked for on an open channel is collected, without any effect. -/
lemma run_preparations (around : Surroundings) {h : Handler} {c : ChannelId} {s : Channel}
    (hs : h.channels.get? c = some s) {ms : List ClientMessage}
    (hms : ∀ m ∈ ms, m.isPreparation = true) :
    h.effects (ms.map fun m => (around, .sent c m)) = [] ∧
      (h.after (ms.map fun m => (around, .sent c m))).channels.get? c =
        some { s with request := ms.foldl LaunchRequest.collect s.request } := by
  induction ms generalizing h s with
  | nil => exact ⟨rfl, hs⟩
  | cons m ms ih =>
    have hstep : h.step around (.sent c m) =
        (h.update c fun s => { s with request := s.request.collect m }, []) :=
      receive_preparation around h c (hms m List.mem_cons_self)
    have hs' : (h.update c fun s => { s with request := s.request.collect m }).channels.get? c =
        some { s with request := s.request.collect m } := by
      rw [get?_update_self, hs]
      rfl
    obtain ⟨heffects, hafter⟩ := ih hs' fun m' hm' => hms m' (List.mem_cons_of_mem _ hm')
    rw [List.map_cons, effects_cons, after_cons, hstep]
    exact ⟨heffects, hafter⟩

/-- **A session as the agent sees it.** A channel is opened, a command is prepared there, and its
start is asked for: that starts what the preparations describe, unless it cannot be started. -/
lemma effects_session (around : Surroundings) (h : Handler) (c : ChannelId)
    {ms : List ClientMessage} (hms : ∀ m ∈ ms, m.isPreparation = true) {m : ClientMessage}
    {payload : Option (List UInt8)}
    (hm : ∀ h' : Handler, h'.receive around c m = h'.start around c payload) {spec : Launch}
    (hlaunch : (ms.foldl LaunchRequest.collect {}).launch around.isDirectory payload around.host =
      .ok spec) :
    h.effects ((around, .opened c) :: (ms ++ [m]).map fun m => (around, .sent c m)) =
      .reply c true :: match around.spawn spec with
        | .ok process => [.launch c spec (some process)]
        | .error reason => [.launch c spec none, .refuse c reason] := by
  have hget : (h.step around (.opened c)).1.channels.get? c = some {} := by simp [step]
  obtain ⟨hquiet, hcollected⟩ := run_preparations around hget hms
  have hlast := fun h' : Handler => congrArg Prod.snd (hm h')
  rw [List.map_append, effects_cons, effects_append, hquiet, List.map_singleton, effects_cons,
    effects_nil, List.append_nil, List.nil_append]
  show [] ++ (receive _ _ c m).2 = _
  rw [List.nil_append, hlast]
  exact effects_start around _ c hcollected rfl hlaunch

end Handler

end Agent

end CommandRelay
