import CommandRelay.Proofs.Agent.Run

/-!
# Channels are separate

What happens on one channel of a connection is what would happen if nothing were ever sent on the
others.

## Main definitions

* `Agent.Handler.only` — the state with one channel alone.
* `Agent.Handler.total` — what some arrivals and then the end of the connection make happen.

## Main results

* `Agent.Handler.step_only` — a message on a channel needs no other channel.
* `Agent.Handler.run_only` — the effects on a channel, and its state, of its messages alone.
* `Agent.Handler.filter_total` — the same up to the end of the connection.
-/

namespace CommandRelay

namespace Agent

namespace Handler

/-! ## One channel alone -/

/-- The state with one channel alone. -/
def only (h : Handler) (c : ChannelId) : Handler :=
  { h with channels := h.channels.filter fun c' _ => decide (c' = c) }

/-- The handler with one channel alone has the same route. -/
@[simp] lemma route_only (h : Handler) (c : ChannelId) : (h.only c).route = h.route := rfl

/-- The handler with one channel alone has no other. -/
lemma get?_only (h : Handler) (c c' : ChannelId) :
    (h.only c).channels.get? c' = if c' = c then h.channels.get? c else none := by
  rw [only, Dictionary.get?_filter]
  by_cases hc : c' = c
  · subst hc
    cases h.channels.get? c' <;> simp
  · cases h.channels.get? c' <;> simp [hc]

/-- The handler with one channel alone has that channel. -/
@[simp] lemma get?_only_self (h : Handler) (c : ChannelId) :
    (h.only c).channels.get? c = h.channels.get? c := by
  rw [get?_only, if_pos rfl]

/-- The handler with one channel alone has that child. -/
@[simp] lemma child?_only (h : Handler) (c : ChannelId) : (h.only c).child? c = h.child? c := by
  rw [child?, get?_only_self, child?]

/-- The route and what is found under each channel determine a state. -/
lemma ext_get? {a b : Handler} (hroute : a.route = b.route)
    (hget : ∀ c, a.channels.get? c = b.channels.get? c) : a = b := by
  obtain ⟨route, channels⟩ := a
  obtain ⟨route', channels'⟩ := b
  obtain rfl : route = route' := hroute
  obtain rfl : channels = channels' := Dictionary.ext_get? hget
  rfl

/-- An update leaves the route alone. -/
lemma route_update (h : Handler) (c : ChannelId) (f : Channel → Channel) :
    (h.update c f).route = h.route := by
  rw [update]
  cases h.channels.get? c <;> rfl

/-- A change of the channel can be made with the channel alone. -/
lemma update_only (h : Handler) (c : ChannelId) (f : Channel → Channel) :
    (h.only c).update c f = (h.update c f).only c := by
  refine ext_get? (by simp [route_update]) fun c' => ?_
  rw [get?_only, get?_update_self, get?_update, get?_only_self, get?_only]
  split_ifs <;> rfl

/-- Entering a channel and leaving the others out can be done in either order. -/
lemma insert_only (h : Handler) (c : ChannelId) (s : Channel) :
    ({ h.only c with channels := (h.only c).channels.insert c s } : Handler) =
      ({ h with channels := h.channels.insert c s } : Handler).only c := by
  refine ext_get? rfl fun c' => ?_
  rw [get?_only, Dictionary.get?_insert, Dictionary.get?_insert, get?_only, if_pos rfl]
  split_ifs <;> rfl

/-- So can erasing a channel and leaving the others out. -/
lemma erase_only (h : Handler) (c : ChannelId) :
    ({ h.only c with channels := (h.only c).channels.erase c } : Handler) =
      ({ h with channels := h.channels.erase c } : Handler).only c := by
  refine ext_get? rfl fun c' => ?_
  rw [get?_only, Dictionary.get?_erase, Dictionary.get?_erase, get?_only, if_pos rfl]
  split_ifs <;> rfl

/-- A start request needs no other channel. -/
lemma start_only (around : Surroundings) (h : Handler) (c : ChannelId)
    (payload : Option (List UInt8)) :
    (h.only c).start around c payload =
      ((h.start around c payload).1.only c, (h.start around c payload).2) := by
  cases hget : h.channels.get? c with
  | none => simp [start, hget]
  | some s =>
    cases hchild : s.child with
    | some child => simp [start, hget, hchild]
    | none =>
      cases hlaunch : s.request.launch around.isDirectory payload around.host with
      | error e => simp [start, hget, hchild, hlaunch]
      | ok spec =>
        cases hspawn : around.spawn spec with
        | error reason => simp [start, hget, hchild, hlaunch, hspawn]
        | ok process =>
          simp only [start, get?_only_self, hget, hchild, hlaunch, hspawn]
          rw [insert_only]

/-- A message on a channel does the same to the handler that has it alone. -/
lemma receive_only (around : Surroundings) (h : Handler) (c : ChannelId) (m : ClientMessage) :
    (h.only c).receive around c m =
      ((h.receive around c m).1.only c, (h.receive around c m).2) := by
  cases m with
  | exec | shell => exact start_only around h c _
  | env | terminal => exact congrArg (·, []) (update_only h c _)
  | data => cases hchild : h.child? c <;> simp [receive, hchild]
  | eof => cases hchild : h.child? c <;> simp [receive, hchild, update_only]
  | signal name =>
    cases hchild : h.child? c <;> cases hname : name.toSignal? <;> simp [receive, hchild, hname]
  | resize => cases hchild : h.child? c <;> simp [receive, hchild]
  | close =>
    simp only [receive, child?_only]
    rw [erase_only]

/-- **A message on a channel** needs no other channel. -/
lemma step_only (around : Surroundings) (h : Handler) {c : ChannelId} {m : ConnectionMessage}
    (hm : m.channel = c) :
    (h.only c).step around m = ((h.step around m).1.only c, (h.step around m).2) := by
  subst hm
  cases m with
  | opened c => exact congrArg (·, []) (insert_only h c {})
  | sent c m => exact receive_only around h c m

/-- Nothing changes as whom the client runs. -/
lemma route_step (around : Surroundings) (h : Handler) (m : ConnectionMessage) :
    (h.step around m).1.route = h.route := by
  cases m with
  | opened => rfl
  | sent c m => exact route_receive around h c m

/-- A message on another channel does nothing to this one. -/
lemma only_step_of_ne (around : Surroundings) (h : Handler) {c : ChannelId}
    {m : ConnectionMessage} (hm : m.channel ≠ c) : (h.step around m).1.only c = h.only c := by
  refine ext_get? (by simp [route_step]) fun c' => ?_
  rw [get?_only, get?_only, get?_step_of_ne around h (Ne.symm hm)]

/-- What happens on a channel makes things happen there. -/
lemma channel_of_step {around : Surroundings} {h : Handler} {m : ConnectionMessage} {e : Effect}
    (he : e ∈ (h.step around m).2) : e.channel = m.channel := by
  cases m with
  | opened => cases he
  | sent c m => exact (mem_receive around h c he).1

/-! ## Runs -/

/-- What some arrivals and then the end of the connection make happen. -/
def total (h : Handler) (arrivals : List Arrival) : List Effect :=
  h.effects arrivals ++ (h.after arrivals).drop

/-- The effects of a message are on its channel, all of them. -/
lemma filter_step (around : Surroundings) (h : Handler) (m : ConnectionMessage) (c : ChannelId) :
    (h.step around m).2.filter (fun e => e.channel = c) =
      if m.channel = c then (h.step around m).2 else [] := by
  split_ifs with hc
  · exact List.filter_eq_self.2 fun e he => decide_eq_true ((channel_of_step he).trans hc)
  · refine List.filter_eq_nil_iff.2 fun e he => ?_
    rw [channel_of_step he, decide_eq_true_eq]
    exact hc

/-- **The effects on a channel**, and its state, are those of the messages on it alone.

**Proof sketch.** Induction on the arrivals.  A message on the channel needs no other channel; one
on another channel has no effect on this one, and leaves it as it is. -/
lemma run_only (h : Handler) (c : ChannelId) (arrivals : List Arrival) :
    (h.effects arrivals).filter (fun e => e.channel = c) =
        (h.only c).effects (arrivals.filter fun a => a.2.channel = c) ∧
      (h.after arrivals).only c =
        (h.only c).after (arrivals.filter fun a => a.2.channel = c) := by
  induction arrivals generalizing h with
  | nil => exact ⟨rfl, rfl⟩
  | cons a arrivals ih =>
    obtain ⟨iheffects, ihafter⟩ := ih (h.step a.1 a.2).1
    rw [effects_cons, after_cons, List.filter_append, filter_step, iheffects, ihafter]
    by_cases hc : a.2.channel = c
    · rw [List.filter_cons_of_pos (by simpa using hc), effects_cons, after_cons, step_only a.1 h hc,
        if_pos hc]
      exact ⟨rfl, rfl⟩
    · rw [List.filter_cons_of_neg (by simpa using hc), only_step_of_ne a.1 h hc, if_neg hc]
      exact ⟨rfl, rfl⟩

/-- The child of the channel alone, among the children of all channels. -/
lemma children_only (h : Handler) (c : ChannelId) :
    (h.only c).children = h.children.filter fun x => x.1 = c := by
  rw [children, children, List.filter_filterMap, only, Dictionary.filter, List.filterMap_filter]
  refine List.filterMap_congr fun e _ => ?_
  cases hchild : e.2.child with
  | none => simp
  | some child => by_cases hc : e.1 = c <;> simp [Option.filter, hc]

/-- What the end of a connection does on a channel is what it would do with the channel alone. -/
lemma filter_drop (h : Handler) (c : ChannelId) :
    h.drop.filter (fun e => e.channel = c) = (h.only c).drop := by
  rw [drop, drop, children_only, List.filter_append, List.filter_map, List.filter_map,
    List.filter_filter, List.filter_filter]
  simp only [Bool.and_comm]
  rfl

/-- **Up to the end of the connection**, the effects on a channel are those of the messages on it
alone. -/
lemma filter_total (h : Handler) (c : ChannelId) (arrivals : List Arrival) :
    (h.total arrivals).filter (fun e => e.channel = c) =
      (h.only c).total (arrivals.filter fun a => a.2.channel = c) := by
  obtain ⟨heffects, hafter⟩ := run_only h c arrivals
  rw [total, total, List.filter_append, heffects, filter_drop, hafter]

/-- A connection without channels has no more of them with one alone. -/
lemma only_eq (route : Option Route) (c : ChannelId) :
    ({ route } : Handler).only c = { route } :=
  ext_get? rfl fun c' => by rw [get?_only]; split_ifs <;> rfl

end Handler

end Agent

end CommandRelay
