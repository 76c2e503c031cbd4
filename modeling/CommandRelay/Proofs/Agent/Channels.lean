import CommandRelay.Proofs.Agent.Children
import CommandRelay.Proofs.Agent.Separation

/-!
# What a connection does for its channels

Whatever is sent on however many channels, in whatever order: each channel starts at most one child,
the child gets the input of its channel and its signals, nobody else's, and it is hung up on when
the channel or the connection ends.

## Main definitions

* `Agent.fed` — the input that some effects give to the child of a channel.
* `Agent.inputs` — the input among some messages, up to its end.
* `Agent.Effect.reaches` — which children an effect reaches.
* `Agent.Handler.Live` — a child was started on a channel that has not been closed since.
* `Agent.Handler.Orderly` — what a connection owes to its channels.

## Main results

* `Agent.Handler.fed_effects` — a child gets the input of its channel up to its end.
* `Agent.Handler.child?_of_live` — a live child is the one that its channel remembers.
* `Agent.Handler.orderly` — every connection is orderly.
-/

namespace CommandRelay

namespace ClientMessage

/-- Whether a message ends the input of a command. -/
def endsInput : ClientMessage → Bool
  | .eof | .close => true
  | _ => false

/-- The input that a message brings. -/
def payload? : ClientMessage → Option (List UInt8)
  | .data bytes => some bytes
  | _ => none

/-- Whether a message is a signal or another size of the terminal. -/
def isSteering : ClientMessage → Bool
  | .signal _ | .resize .. => true
  | _ => false

end ClientMessage

namespace Agent

/-- The message of a channel. -/
def sentOn? (c : ChannelId) : ConnectionMessage → Option ClientMessage
  | .sent c' m => if c' = c then some m else none
  | .opened _ => none

/-- What is sent on a channel. -/
def messagesOn (c : ChannelId) (arrivals : List Arrival) : List ClientMessage :=
  arrivals.filterMap fun a => sentOn? c a.2

/-- What is sent on a channel is sent in what comes on it. -/
lemma messagesOn_filter (c : ChannelId) (arrivals : List Arrival) :
    messagesOn c (arrivals.filter fun a => a.2.channel = c) = messagesOn c arrivals := by
  rw [messagesOn, messagesOn, List.filterMap_filter]
  refine List.filterMap_congr fun a _ => ?_
  obtain ⟨around, m⟩ := a
  cases m with
  | opened c' => split_ifs <;> rfl
  | sent c' m => by_cases hc : c' = c <;> simp [sentOn?, ConnectionMessage.channel, hc]

/-- The input that an effect gives to the child of a channel. -/
def Effect.fed? (c : ChannelId) : Effect → Option (List UInt8)
  | .feed c' bytes => if c' = c then some bytes else none
  | _ => none

/-- The input that some effects give to the child of a channel, piece by piece. -/
def fed (c : ChannelId) (effects : List Effect) : List (List UInt8) :=
  effects.filterMap (Effect.fed? c)

/-- The input among some messages, piece by piece, before the first one that ends it. -/
def inputs (ms : List ClientMessage) : List (List UInt8) :=
  (ms.takeWhile fun m => !m.endsInput).filterMap ClientMessage.payload?

/-- What a signal or another size of the terminal is to do to a child. -/
def Started.steered (st : Started) : ClientMessage → List Effect
  | .signal name => (name.toSignal?.map (Effect.signal st.channel st.process)).toList
  | .resize cols rows width height =>
    if st.spec.terminal.isSome then [.resize st.channel (.ofWire cols rows width height)] else []
  | _ => []

/-- Whether an effect reaches a child: by what its channel holds of it, or by its number. -/
def Effect.reaches (st : Started) : Effect → Bool
  | .feed c _ | .endInput c | .resize c _ => c = st.channel
  | .signal _ p _ => p = st.process
  | .reply .. | .refuse .. | .launch .. => false

/-! ## Input -/

/-- No effects feed anybody. -/
@[simp] lemma fed_nil (c : ChannelId) : fed c [] = [] := rfl

/-- Effects one after another feed what each of them does. -/
@[simp] lemma fed_append (c : ChannelId) (a b : List Effect) :
    fed c (a ++ b) = fed c a ++ fed c b :=
  List.filterMap_append

/-- The input of a child is among the effects on its channel. -/
lemma fed_filter (c : ChannelId) (effects : List Effect) :
    fed c (effects.filter fun e => e.channel = c) = fed c effects := by
  rw [fed, fed, List.filterMap_filter]
  refine List.filterMap_congr fun e _ => ?_
  cases e with
  | feed c' bytes => by_cases hc : c' = c <;> simp [Effect.fed?, Effect.channel, hc]
  | _ => simp [Effect.fed?]

namespace Handler

/-- No input is given at the end of a connection. -/
lemma fed_drop (h : Handler) (c : ChannelId) : fed c h.drop = [] := by
  refine List.filterMap_eq_nil_iff.2 fun e he => ?_
  simp only [drop, List.mem_append, List.mem_map] at he
  rcases he with ⟨child, -, rfl⟩ | ⟨child, -, rfl⟩ <;> rfl

/-- A message without input gives none to anybody. -/
lemma fed_receive {m : ClientMessage} (hm : m.payload? = none) (around : Surroundings)
    (h : Handler) (c c' : ChannelId) : fed c' (h.receive around c m).2 = [] := by
  refine List.filterMap_eq_nil_iff.2 fun e he => ?_
  cases m with
  | data => cases hm
  | env | terminal => rw [receive_preparation around h c rfl] at he; cases he
  | exec | shell =>
    obtain ⟨-, hanswer⟩ := mem_start around h c he
    cases e <;> first | rfl | cases hanswer
  | eof | resize | close =>
    cases hchild : h.child? c with
    | none => simp [receive, hchild] at he
    | some child =>
      simp only [receive, hchild] at he
      split_ifs at he <;> simp at he
      all_goals
        first
        | (subst he; rfl)
        | (rcases he with rfl | rfl <;> rfl)
  | signal name =>
    cases hchild : h.child? c <;> cases hname : name.toSignal? <;>
      simp [receive, hchild, hname] at he
    rw [he]
    rfl

/-- A channel on which no input is passed on: it is not there, or the input of its child has
ended. -/
def Shut (h : Handler) (c : ChannelId) : Prop :=
  ∀ s, h.channels.get? c = some s → ∃ child, s.child = some child ∧ child.inputOpen = false

/-- A message that ends the input of a child leaves its channel shut. -/
lemma shut_of_endsInput {h : Handler} {c : ChannelId} {child : Child}
    (hchild : h.child? c = some child)
    {m : ClientMessage} (hends : m.endsInput = true) (around : Surroundings) :
    (h.receive around c m).1.Shut c := by
  obtain ⟨s, hs, hschild⟩ := child?_eq_some.1 hchild
  intro x hx
  cases m with
  | eof =>
    simp only [receive, hchild, get?_update_self, hs, Option.map_some, Option.some.injEq] at hx
    exact ⟨{ child with inputOpen := false }, by rw [← hx], rfl⟩
  | close => simp [receive] at hx
  | _ => cases hends

/-- No message passes input on where it has ended, or makes it go on.

**Proof sketch.** The channel after the message is read off `change_receive`: a child whose input
has ended keeps it so, and a start is impossible, since the channel has a child.  Only a message
with data feeds anybody, and the handler drops it where the input has ended. -/
lemma shut_receive {h : Handler} {c : ChannelId} (hshut : h.Shut c) (around : Surroundings)
    (m : ClientMessage) : (h.receive around c m).1.Shut c ∧
      fed c (h.receive around c m).2 = [] := by
  constructor
  · intro x' hx'
    have hchange := change_receive around h c m
    rw [hx'] at hchange
    generalize hs : h.channels.get? c = s at hchange
    generalize launches (h.receive around c m).2 = started at hchange
    cases hchange with
    | keep => exact hshut x' hs
    | ask x r => exact hshut x hs
    | start x hx spec process =>
      obtain ⟨child, hchild, -⟩ := hshut x hs
      rw [hx] at hchild
      cases hchild
    | shut x child hx => exact ⟨_, rfl, rfl⟩
  · cases hm : m.payload? with
    | none => exact fed_receive hm around h c c
    | some bytes =>
      cases m with
      | data =>
        cases hchild : h.child? c with
        | none => simp [receive, hchild]
        | some child =>
          obtain ⟨s, hs, hschild⟩ := child?_eq_some.1 hchild
          obtain ⟨child', hchild', hclosed⟩ := hshut s hs
          rw [hschild, Option.some.injEq] at hchild'
          simp [receive, hchild, hchild', hclosed]
      | _ => cases hm

/-- Where input has ended, none is passed on any more. -/
lemma fed_of_shut {h : Handler} {c : ChannelId} (hshut : h.Shut c) {arrivals : List Arrival}
    (hon : ∀ a ∈ arrivals, ∃ m, a.2 = .sent c m) : fed c (h.effects arrivals) = [] := by
  induction arrivals generalizing h with
  | nil => rfl
  | cons a arrivals ih =>
    obtain ⟨around, m⟩ := a
    obtain ⟨m, rfl⟩ := hon (around, m) List.mem_cons_self
    obtain ⟨hshut', hnone⟩ := shut_receive hshut around m
    rw [effects_cons, fed_append]
    show fed c (h.receive around c m).2 ++ _ = []
    rw [hnone, List.nil_append]
    exact ih hshut' fun a ha => hon a (List.mem_cons_of_mem _ ha)

/-- **Input.** A child gets the input that is sent on its channel, piece by piece in its order, up
to its end.

**Proof sketch.** Induction on the messages.  Input is passed on while it is open; what ends it
leaves the channel shut; no other message does anything to it. -/
lemma fed_effects {h : Handler} {c : ChannelId} {child : Child} (hchild : h.child? c = some child)
    (hopen : child.inputOpen = true) {arrivals : List Arrival}
    (hon : ∀ a ∈ arrivals, ∃ m, a.2 = .sent c m) :
    fed c (h.effects arrivals) = inputs (messagesOn c arrivals) := by
  induction arrivals generalizing h with
  | nil => rfl
  | cons a arrivals ih =>
    obtain ⟨around, m⟩ := a
    obtain ⟨m, rfl⟩ := hon (around, m) List.mem_cons_self
    have hon' : ∀ a ∈ arrivals, ∃ m, a.2 = .sent c m := fun a ha =>
      hon a (List.mem_cons_of_mem _ ha)
    have hmessages : messagesOn c ((around, .sent c m) :: arrivals) = m :: messagesOn c arrivals :=
      List.filterMap_cons_some (by simp [sentOn?])
    rw [hmessages, effects_cons, fed_append]
    show fed c (h.receive around c m).2 ++ fed c ((h.receive around c m).1.effects arrivals) = _
    cases hends : m.endsInput with
    | true =>
      have hpayload : m.payload? = none := by cases m <;> first | rfl | cases hends
      rw [fed_receive hpayload, fed_of_shut (shut_of_endsInput hchild hends around) hon']
      simp [inputs, hends]
    | false =>
      have hclose : m ≠ .close := by rintro rfl; cases hends
      have heof : m ≠ .eof := by rintro rfl; cases hends
      obtain ⟨child', hkept, -, -, hsame⟩ := child?_receive around hchild hclose
      rw [hsame heof] at hkept
      have hpiece : fed c (h.receive around c m).2 = m.payload?.toList := by
        cases hpayload : m.payload? with
        | none => exact fed_receive hpayload around h c _
        | some bytes =>
          cases m with
          | data sent =>
            cases hpayload
            simp [receive, hchild, hopen, fed, Effect.fed?]
          | _ => cases hpayload
      rw [hpiece, ih hkept hon', inputs, inputs, List.takeWhile_cons_of_pos (by simp [hends]),
        List.filterMap_cons]
      cases m.payload? <;> rfl

/-! ## Who is reached -/

section Reached

variable {route : Option Route} {arrivals : List Arrival} {e : Effect}

/-- What is for the child of a channel comes after the start of one there. -/
lemma started_of_step (hfresh : (opened arrivals).Nodup) {around : Surroundings}
    {m : ConnectionMessage} (he : e ∈ ((after { route } arrivals).step around m).2)
    (hanswer : e.isAnswer = false) :
    ∃ st ∈ launches (effects { route } arrivals), st.channel = e.channel := by
  cases m with
  | opened => cases he
  | sent c m =>
    obtain ⟨hchannel, hstart, hthere⟩ := mem_receive around _ c he
    obtain ⟨child, hchild⟩ := hthere (hstart.symm.trans hanswer)
    obtain ⟨spec, hst, -⟩ := (consistent_after route hfresh).remembered c child hchild
    exact ⟨_, hst, hchannel.symm⟩

/-- In a whole run, too, nothing is for the child of a channel that has started none. -/
lemma started_of_effects (hfresh : (opened arrivals).Nodup)
    (he : e ∈ effects { route } arrivals) (hanswer : e.isAnswer = false) :
    ∃ st ∈ launches (effects { route } arrivals), st.channel = e.channel := by
  induction arrivals using List.reverseRecOn with
  | nil => cases he
  | append_singleton arrivals a ih =>
    rw [opened_append] at hfresh
    have hfresh' := (List.nodup_append.1 hfresh).1
    rw [effects_append, launches_append]
    rw [effects_append, effects_cons, effects_nil, List.append_nil] at he
    obtain ⟨st, hst, hchannel⟩ := (List.mem_append.1 he).elim (ih hfresh')
      fun he => started_of_step hfresh' he hanswer
    exact ⟨st, List.mem_append_left _ hst, hchannel⟩

end Reached

/-! ## Live children -/

/-- A child was started, and its channel has not been closed since. -/
def Live (h : Handler) (arrivals : List Arrival) (st : Started) : Prop :=
  ∃ before a since, arrivals = before ++ a :: since ∧
    st ∈ launches ((h.after before).step a.1 a.2).2 ∧ .close ∉ messagesOn st.channel since

/-- A child that is started is what its channel remembers from then on, and its input is open. -/
lemma child?_started {h : Handler} {around : Surroundings} {m : ConnectionMessage} {st : Started}
    (hst : st ∈ launches (h.step around m).2) :
    m.channel = st.channel ∧ (h.channels.get? st.channel).isSome = true ∧
      (h.step around m).1.child? st.channel =
        some { process := st.process, hasTerminal := st.spec.terminal.isSome } := by
  cases m with
  | opened => cases hst
  | sent c m =>
    obtain ⟨rfl, hs, x', hx', hchild⟩ := (change_receive around h c m).of_started hst
    exact ⟨rfl, hs, child?_eq_some.2 ⟨x', hx', hchild⟩⟩

section Live

variable {route : Option Route} {before since : List Arrival} {a : Arrival} {st : Started}

/-- The channel of a child that was started is not opened once more. -/
lemma notMem_opened (hfresh : (opened (before ++ a :: since)).Nodup)
    (hst : st ∈ launches ((after { route } before).step a.1 a.2).2) :
    st.channel ∉ opened since := by
  rw [opened_append] at hfresh
  obtain ⟨hbefore, -, hdisjoint⟩ := List.nodup_append.1 hfresh
  obtain ⟨-, hthere, -⟩ := child?_started hst
  have hopened := (consistent_after route hbefore).present st.channel hthere
  intro hmem
  refine hdisjoint st.channel hopened st.channel ?_ rfl
  rw [← List.singleton_append, opened_append]
  exact List.mem_append_right _ hmem

/-- **A live child** is the one that its channel remembers. -/
lemma child?_of_live {arrivals : List Arrival} (hfresh : (opened arrivals).Nodup)
    (hlive : Live { route } arrivals st) :
    ∃ child, (after { route } arrivals).child? st.channel = some child ∧
      child.process = st.process ∧ child.hasTerminal = st.spec.terminal.isSome := by
  obtain ⟨before, a, since, rfl, hst, hclose⟩ := hlive
  obtain ⟨-, -, hchild⟩ := child?_started hst
  have hclose' : ∀ b ∈ since, b.2 ≠ .sent st.channel .close := by
    intro b hb heq
    exact hclose (List.mem_filterMap.2 ⟨b, hb, by simp [heq, sentOn?]⟩)
  obtain ⟨child, hkept, hprocess, hterminal⟩ :=
    child?_kept hchild (notMem_opened hfresh hst) hclose'
  rw [after_append, after_cons]
  exact ⟨child, hkept, hprocess, hterminal⟩

end Live

/-! ## The connection -/

/-- What a connection owes to its channels, whatever comes in whatever order and up to its end. -/
structure Orderly (h : Handler) (arrivals : List Arrival) : Prop where
  /-- No channel starts two children. -/
  once : ((launches (h.effects arrivals)).map Started.channel).Nodup
  /-- Where a child was started, a start request is turned down and changes nothing. -/
  denied : ∀ before around c m later, arrivals = before ++ (around, .sent c m) :: later →
    m.isStart = true → (∃ st ∈ launches (h.effects before), st.channel = c) →
    (h.after before).step around (.sent c m) = (h.after before, [.reply c false])
  /-- A child gets the input that comes on its channel after its start and before the first end of
  input or close after that, in order, and nothing else. -/
  input : ∀ before a later st, arrivals = before ++ a :: later →
    st ∈ launches ((h.after before).step a.1 a.2).2 →
    fed st.channel (h.total arrivals) = inputs (messagesOn st.channel later)
  /-- A signal or another size of the terminal is for the child of its channel. -/
  steered : ∀ before around c m later, arrivals = before ++ (around, .sent c m) :: later →
    m.isSteering = true → ∀ st, h.Live before st → st.channel = c →
    (h.after before).step around (.sent c m) = (h.after before, st.steered m)
  /-- It reaches that child, which was started before, and nobody else who is alive; for a signal,
  as long as that child is alive and no two children that are alive have one number. -/
  aimed : ∀ before around c m later, arrivals = before ++ (around, .sent c m) :: later →
    m.isSteering = true → ∀ e ∈ ((h.after before).step around (.sent c m)).2,
    ∃ st ∈ launches (h.effects before), st.channel = c ∧ e.reaches st = true ∧
      ∀ alive, alive ⊆ launches (h.effects before) →
        ((∃ name, m = .signal name) → st ∈ alive ∧ (alive.map Started.process).Nodup) →
        ∀ other ∈ alive, e.reaches other = true → other = st
  /-- The child of a channel that is closed is hung up on. -/
  closed : ∀ before around st later,
    arrivals = before ++ (around, .sent st.channel .close) :: later → h.Live before st →
    .signal st.channel st.process .hup ∈
      ((h.after before).step around (.sent st.channel .close)).2
  /-- The children of the channels that are left in the end are hung up on. -/
  dropped : ∀ st, h.Live arrivals st →
    .signal st.channel st.process .hup ∈ (h.after arrivals).drop
  /-- What happens on a channel is what its messages alone would make happen. -/
  separate : ∀ c, (h.total arrivals).filter (fun e => e.channel = c) =
    h.total (arrivals.filter fun a => a.2.channel = c)

section Orderly

variable {route : Option Route} {arrivals before later : List Arrival} {a : Arrival}
  {around : Surroundings} {c : ChannelId} {m : ClientMessage} {st : Started}

/-- Where a child was started, a start request is turned down. -/
lemma step_denied (hfresh : (opened before).Nodup) (hm : m.isStart = true)
    (hst : st ∈ launches (effects { route } before)) (hc : st.channel = c) :
    (after { route } before).step around (.sent c m) =
      (after { route } before, [.reply c false]) := by
  have hdenied := start_denied around (after { route } before) c fun s hs hidle =>
    (consistent_after route hfresh).idle c s hs hidle st hst hc
  cases m with
  | exec | shell => exact hdenied _
  | _ => cases hm

/-- No input is given on a channel before the start of its child. -/
lemma fed_before (hfresh : (opened before).Nodup) {c : ChannelId}
    (hc : ∀ st ∈ launches (effects { route } before), st.channel ≠ c) :
    fed c (effects { route } (before ++ [a])) = [] := by
  refine List.filterMap_eq_nil_iff.2 fun e he => ?_
  cases e with
  | feed c' bytes =>
    rw [effects_append, effects_cons, effects_nil, List.append_nil] at he
    obtain ⟨st, hst, hchannel⟩ := (List.mem_append.1 he).elim
      (fun he => started_of_effects hfresh he rfl) fun he => started_of_step hfresh he rfl
    exact if_neg fun heq => hc st hst (hchannel.trans heq)
  | _ => rfl

/-- After the start of a child, what comes on its channel is sent there. -/
lemma exists_sent (hfresh : (opened (before ++ a :: later)).Nodup)
    (hst : st ∈ launches ((after { route } before).step a.1 a.2).2) {b : Arrival} (hb : b ∈ later)
    (hchannel : b.2.channel = st.channel) : ∃ m, b.2 = .sent st.channel m := by
  cases hm : b.2 with
  | opened c =>
    rw [hm] at hchannel
    obtain rfl : c = st.channel := hchannel
    exact absurd (List.mem_filterMap.2 ⟨b, hb, by rw [hm, opens?]⟩) (notMem_opened hfresh hst)
  | sent c m =>
    rw [hm] at hchannel
    obtain rfl : c = st.channel := hchannel
    exact ⟨m, rfl⟩

/-- The input of a child after its start. -/
lemma fed_later (hfresh : (opened (before ++ a :: later)).Nodup)
    (hst : st ∈ launches ((after { route } before).step a.1 a.2).2) :
    fed st.channel ((after { route } (before ++ [a])).effects later) =
      inputs (messagesOn st.channel later) := by
  obtain ⟨-, -, hchild⟩ := child?_started hst
  have hon : ∀ b ∈ later.filter fun b => b.2.channel = st.channel,
      ∃ m, b.2 = .sent st.channel m := by
    intro b hb
    obtain ⟨hb, hchannel⟩ := List.mem_filter.1 hb
    exact exists_sent hfresh hst hb (of_decide_eq_true hchannel)
  have hkept : ((after { route } (before ++ [a])).only st.channel).child? st.channel =
      some { process := st.process, hasTerminal := st.spec.terminal.isSome } := by
    rw [child?_only, after_append]
    exact hchild
  rw [← fed_filter, (run_only _ st.channel later).1, ← messagesOn_filter]
  exact fed_effects hkept rfl hon

/-- **The input of a child** over a whole connection.

**Proof sketch.** Before its start no child of its channel is there to be given any.  After it, what
is on its channel is what the messages of the channel alone make happen, and these pass the input on
up to its end.  At the end of the connection no input is given. -/
lemma fed_total (hfresh : (opened (before ++ a :: later)).Nodup)
    (hst : st ∈ launches ((after { route } before).step a.1 a.2).2) :
    fed st.channel (total { route } (before ++ a :: later)) =
      inputs (messagesOn st.channel later) := by
  have honce := (consistent_after route hfresh).once
  have hbefore : (opened before).Nodup := by
    rw [opened_append] at hfresh
    exact (List.nodup_append.1 hfresh).1
  -- the channel has not started anybody before
  have hnobody : ∀ st' ∈ launches (effects { route } before), st'.channel ≠ st.channel := by
    intro st' hst' heq
    rw [effects_append, effects_cons, launches_append, launches_append, List.map_append] at honce
    refine (List.nodup_append.1 honce).2.2 _ (List.mem_map_of_mem hst') _ ?_ heq
    exact List.mem_map_of_mem (List.mem_append_left _ hst)
  have hsplit : effects { route } (before ++ a :: later) =
      effects { route } (before ++ [a]) ++ (after { route } (before ++ [a])).effects later := by
    rw [← effects_append, List.append_assoc, List.singleton_append]
  rw [total, fed_append, fed_drop, List.append_nil, hsplit, fed_append,
    fed_before hbefore hnobody, List.nil_append, fed_later hfresh hst]

/-- A signal or another size of the terminal is for the live child of its channel. -/
lemma step_steered (hfresh : (opened before).Nodup) (hm : m.isSteering = true)
    (hlive : Live { route } before st) (hc : st.channel = c) :
    (after { route } before).step around (.sent c m) = (after { route } before, st.steered m) := by
  subst hc
  obtain ⟨child, hchild, hprocess, hterminal⟩ := child?_of_live hfresh hlive
  show receive _ _ _ m = _
  cases m with
  | signal name =>
    cases hname : name.toSignal? <;> simp [receive, hchild, hname, Started.steered, hprocess]
  | resize => simp [receive, hchild, Started.steered, hterminal]
  | _ => cases hm

/-- What a signal or another size of the terminal makes happen. -/
lemma mem_steering {h : Handler} (hm : m.isSteering = true) {e : Effect}
    (he : e ∈ (h.receive around c m).2) : ∃ child, h.child? c = some child ∧
      ((∃ name s, m = .signal name ∧ e = .signal c child.process s) ∨
        ∃ size, e = .resize c size) := by
  cases m with
  | signal name =>
    cases hchild : h.child? c <;> cases hname : name.toSignal? <;>
      simp [receive, hchild, hname] at he
    exact ⟨_, rfl, .inl ⟨name, _, rfl, he⟩⟩
  | resize =>
    cases hchild : h.child? c with
    | none => simp [receive, hchild] at he
    | some child =>
      simp only [receive, hchild] at he
      split_ifs at he <;> simp at he
      exact ⟨child, rfl, .inr ⟨_, he⟩⟩
  | _ => cases hm

/-- **Whom it reaches**: the child of its channel.  A number tells that one from others that are
alive, and what is held by a channel needs no number, since no other child was started there. -/
lemma aimed_of_steering (hfresh : (opened before).Nodup) (hm : m.isSteering = true) {e : Effect}
    (he : e ∈ ((after { route } before).step around (.sent c m)).2) :
    ∃ st ∈ launches (effects { route } before), st.channel = c ∧ e.reaches st = true ∧
      ∀ alive, alive ⊆ launches (effects { route } before) →
        ((∃ name, m = .signal name) → st ∈ alive ∧ (alive.map Started.process).Nodup) →
        ∀ other ∈ alive, e.reaches other = true → other = st := by
  have hconsistent := consistent_after route hfresh
  obtain ⟨child, hchild, heffect⟩ := mem_steering hm he
  obtain ⟨spec, hst, -⟩ := hconsistent.remembered c child hchild
  refine ⟨_, hst, rfl, ?_⟩
  rcases heffect with ⟨name, s, hname, rfl⟩ | ⟨size, rfl⟩
  · refine ⟨decide_eq_true rfl, fun alive _ halive other hother hreached => ?_⟩
    obtain ⟨hmem, hdistinct⟩ := halive ⟨name, hname⟩
    exact List.inj_on_of_nodup_map hdistinct hother hmem (of_decide_eq_true hreached).symm
  · refine ⟨decide_eq_true rfl, fun alive hstarted _ other hother hreached => ?_⟩
    exact List.inj_on_of_nodup_map hconsistent.once (hstarted hother) hst
      (of_decide_eq_true hreached).symm

/-- A live child is hung up on when its channel is closed. -/
lemma hup_of_close (hfresh : (opened before).Nodup) (hlive : Live { route } before st) :
    .signal st.channel st.process .hup ∈
      ((after { route } before).step around (.sent st.channel .close)).2 := by
  obtain ⟨child, hchild, hprocess, -⟩ := child?_of_live hfresh hlive
  show _ ∈ (receive _ _ _ _).2
  simp [receive, hchild, hprocess]

/-- A live child is hung up on at the end of the connection. -/
lemma hup_of_drop (hfresh : (opened arrivals).Nodup) (hlive : Live { route } arrivals st) :
    .signal st.channel st.process .hup ∈ (after { route } arrivals).drop := by
  obtain ⟨child, hchild, hprocess, -⟩ := child?_of_live hfresh hlive
  obtain ⟨s, hs, hschild⟩ := child?_eq_some.1 hchild
  have hmem : (st.channel, child) ∈ (after { route } arrivals).children :=
    List.mem_filterMap.2 ⟨(st.channel, s), Dictionary.mem_of_get? hs, by rw [hschild]; rfl⟩
  rw [drop, ← hprocess]
  exact List.mem_append_left _ (List.mem_map.2 ⟨_, hmem, rfl⟩)

/-- **Every connection is orderly**, whoever the client is and whatever it sends, if it opens no
channel twice. -/
theorem orderly (route : Option Route) (arrivals : List Arrival)
    (hfresh : (opened arrivals).Nodup) : Orderly { route } arrivals := by
  have hearlier : ∀ {before a later}, arrivals = before ++ a :: later → (opened before).Nodup := by
    rintro before a later rfl
    rw [opened_append] at hfresh
    exact (List.nodup_append.1 hfresh).1
  constructor
  case once => exact (consistent_after route hfresh).once
  case denied =>
    rintro before around c m later hsplit hm ⟨st, hst, hc⟩
    exact step_denied (hearlier hsplit) hm hst hc
  case input =>
    rintro before a later st rfl hst
    exact fed_total hfresh hst
  case steered =>
    intro before around c m later hsplit hm st hlive hc
    exact step_steered (hearlier hsplit) hm hlive hc
  case aimed =>
    intro before around c m later hsplit hm e he
    exact aimed_of_steering (hearlier hsplit) hm he
  case closed =>
    intro before around st later hsplit hlive
    exact hup_of_close (hearlier hsplit) hlive
  case dropped =>
    intro st hlive
    exact hup_of_drop hfresh hlive
  case separate =>
    intro c
    rw [filter_total, only_eq]

end Orderly

/-! ## An end of input before there is any -/

/-- A host on which every program can be started, as one process. -/
def willing (process : ProcessId) : Surroundings where
  host := {}
  isDirectory _ := true
  spawn _ := .ok process

/-- Two channels are used at once.  On the first one the input ends, and then a shell is started
there and gets input; on the second one, it ends before the channel is closed.  The shells have one
number, as when somebody has waited for the first before the second is started. -/
def earlyEnd : List Arrival :=
  [(willing 7, .opened 0), (willing 7, .opened 1), (willing 7, .sent 0 .eof),
    (willing 7, .sent 0 .shell), (willing 7, .sent 1 .shell), (willing 7, .sent 0 (.data [108])),
    (willing 7, .sent 1 (.data [119])), (willing 7, .sent 1 .eof),
    (willing 7, .sent 0 (.data [115])),
    (willing 7, .sent 1 (.data [112])), (willing 7, .sent 1 .close)]

/-- A connection on which input ends early is orderly, too. -/
theorem orderly_earlyEnd :
    (opened earlyEnd).Nodup ∧ Orderly { route := none } earlyEnd ∧
      fed 0 (total { route := none } earlyEnd) = [[108], [115]] ∧
      fed 1 (total { route := none } earlyEnd) = [[119]] := by
  have hfresh : (opened earlyEnd).Nodup := by decide
  have hfirst : fed 0 (total { route := none } earlyEnd) = [[108], [115]] := by decide
  have hsecond : fed 1 (total { route := none } earlyEnd) = [[119]] := by decide
  exact ⟨hfresh, orderly none earlyEnd hfresh, hfirst, hsecond⟩

/-- An end of input that comes before the start has no effect: it is not so that a child gets only
the input before the first end of input or close that ever comes on its channel. -/
theorem input_after_earlyEnd : ¬ ∀ (arrivals before : List Arrival) (a : Arrival)
    (later : List Arrival) (st : Started), (opened arrivals).Nodup →
    arrivals = before ++ a :: later → st ∈ launches ((after {} before).step a.1 a.2).2 →
    fed st.channel (total {} arrivals) =
      (((messagesOn st.channel arrivals).takeWhile fun m => !m.endsInput).drop
        (messagesOn st.channel (before ++ [a])).length).filterMap ClientMessage.payload? := by
  intro h
  obtain ⟨st, hst, hchannel⟩ :
      ∃ st ∈ launches ((after {} (earlyEnd.take 3)).step (willing 7) (.sent 0 .shell)).2,
        st.channel = 0 := ⟨_, List.mem_singleton.2 rfl, rfl⟩
  have hfed := h earlyEnd (earlyEnd.take 3) (willing 7, .sent 0 .shell) (earlyEnd.drop 4) st
    (by decide) rfl hst
  rw [hchannel] at hfed
  revert hfed
  decide

end Handler

end Agent

end CommandRelay
