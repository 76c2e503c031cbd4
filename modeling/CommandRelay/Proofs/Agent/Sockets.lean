import CommandRelay.Agent.Listener
import CommandRelay.Proofs.Files.Grounding
import CommandRelay.Proofs.Files.Interference

/-!
# Agents on the same socket

Any number of agents are started for the same path, and one operation of one of them at a time is
done on the tree.  An agent that begins to listen takes away what stands at the path and puts its
socket there; an agent that stops takes away what stands at the path by then.  That is its own
socket if nobody came in between, and somebody else's if the agents of two runs overlap.

## Main definitions

* `Agent.Listener.BindCall` — the operations of an agent that begins to listen.
* `Agent.Stage`, `Agent.Fleet`, `Agent.Fleet.step` — agents on the same path, and what one move
  does.
* `Agent.Deed`, `Agent.Deed.Allowed` — what is done to the path, and in what order that can be.
* `Agent.Fleet.Lawful` — what holds of agents on the same path.

## Main results

* `Agent.Listener.calls_bind` — an agent that begins to listen does nothing else.
* `Agent.Fleet.Lawful.step`, `Agent.Fleet.lawful_run` — a move keeps what always holds, and so does
  a run.
* `Agent.Fleet.socket_fate` — what becomes of the socket that was bound last.
* `Agent.Fleet.shutdown_takes_stranger` — an agent that stops may take away the socket of another
  one.
-/

namespace CommandRelay

namespace Agent

/-! ## Beginning to listen -/

namespace Listener

/-- The operations of an agent that begins to listen.  It listens just if the last of them, which
binds its socket, succeeds. -/
inductive BindCall (l : Listener) :
    (c : FileCall) → c.Answer → Option (Except ListenError Unit) → Prop
  /-- It looks what stands at some path. -/
  | look (path : String) {answer : (FileCall.stat path).Answer}
      {r : Option (Except ListenError Unit)}
      (h : r ≠ some (.ok ())) : BindCall l (.stat path) answer r
  /-- It takes away what stands at its own path. -/
  | clear {answer : (FileCall.removeEntry l.path).Answer} {r : Option (Except ListenError Unit)}
      (h : r ≠ some (.ok ())) : BindCall l (.removeEntry l.path) answer r
  /-- It makes a directory on the way to its path. -/
  | make {parent q : String} (hparent : Path.parent? l.path = some parent) (hne : parent ≠ "")
      (hq : q ∈ Path.lineage parent) {answer : (FileCall.makeDirectory q).Answer}
      {r : Option (Except ListenError Unit)} (h : r ≠ some (.ok ())) :
      BindCall l (.makeDirectory q) answer r
  | bind {answer : (FileCall.bindSocket l.owner l.path).Answer}
      {r : Option (Except ListenError Unit)} (h : r = some (.ok ()) ↔ answer = .ok ()) :
      BindCall l (.bindSocket l.owner l.path) answer r

/-- The last operation of an agent that begins to listen. -/
def listen (l : Listener) : Script (Except ListenError Unit) := do
  match ← Script.bindSocket l.owner l.path with
  | .ok () => return .ok ()
  | .error e => return .error (.bind l.path e)

/-- One script and then another one, unless the first fails. -/
def andThen (s next : Script (Except ListenError Unit)) : Script (Except ListenError Unit) := do
  match ← s with
  | .error e => return .error e
  | .ok () => next

/-- An agent clears the path, makes the directory above it and then listens. -/
lemma bind_eq (l : Listener) : l.bind = andThen l.clear (andThen l.makeParent l.listen) := rfl

/-- Two scripts do not succeed at once unless the second one does. -/
lemma result?_andThen {s next : Script (Except ListenError Unit)}
    (h : next.result? ≠ some (.ok ())) : (andThen s next).result? ≠ some (.ok ()) := by
  rw [andThen, Script.result?_bind]
  rcases s.result? with _ | ⟨_ | _⟩
  · exact nofun
  · exact nofun
  · exact h

/-- An operation that an agent does before its last one. -/
def EarlyCall (l : Listener) (c : FileCall) (answer : c.Answer) : Prop :=
  ∀ r, r ≠ some (.ok ()) → l.BindCall c answer r

/-- Early operations and then those of an agent that begins to listen are again such operations. -/
lemma calls_andThen {l : Listener} {s next : Script (Except ListenError Unit)}
    (hs : s.Calls fun c answer _ => l.EarlyCall c answer) (hnext : next.Calls l.BindCall)
    (hresult : next.result? ≠ some (.ok ())) : (andThen s next).Calls l.BindCall := by
  have hlast : ∀ r : Except ListenError Unit, (match r with
      | .error e => return .error e
      | .ok () => next : Script (Except ListenError Unit)).Calls l.BindCall := by
    rintro (e | _)
    · trivial
    · exact hnext
  refine Script.Calls.bind (hs.imp fun c answer r hcall => ⟨hcall _ ?_, fun r _ => hlast r⟩)
    fun r _ => hlast r
  rcases r with _ | ⟨_ | _⟩
  · exact nofun
  · exact nofun
  · exact hresult

/-- Clearing the path is an early operation. -/
lemma calls_clear (l : Listener) : l.clear.Calls fun c answer _ => l.EarlyCall c answer := by
  intro answer
  refine ⟨fun r hr => .look l.path hr, ?_⟩
  rcases answer with e | n
  · trivial
  · intro answer
    refine ⟨fun r hr => .clear hr, ?_⟩
    rcases answer with e | _ <;> trivial

/-- Making the directory above it consists of early operations. -/
lemma calls_makeParent (l : Listener) :
    l.makeParent.Calls fun c answer _ => l.EarlyCall c answer := by
  unfold makeParent
  cases hparent : Path.parent? l.path with
  | none => trivial
  | some parent =>
    refine Script.Calls.bind ((Script.calls_makeDirectories parent).imp ?_) ?_
    · rintro c answer r ⟨hne, hcall⟩
      constructor
      · intro r hr
        cases hcall with
        | make hq _ => exact .make hparent hne hq hr
        | look q _ => exact .look q hr
      · rintro (e | _) - <;> trivial
    · rintro (e | _) - <;> trivial

/-- Listening is the last operation. -/
lemma calls_listen (l : Listener) : l.listen.Calls l.BindCall := by
  intro answer
  rcases answer with e | _
  · exact ⟨.bind (iff_of_false nofun nofun), trivial⟩
  · exact ⟨.bind (iff_of_true rfl rfl), trivial⟩

/-- **An agent that begins to listen** does nothing else. -/
lemma calls_bind (l : Listener) : l.bind.Calls l.BindCall := by
  rw [bind_eq]
  refine calls_andThen l.calls_clear (calls_andThen l.calls_makeParent l.calls_listen ?_) ?_
  · exact nofun
  · exact result?_andThen nofun

/-! ### What one operation does -/

variable {t : FileTree} {cwd : Place}

/-- **What one operation of an agent that begins to listen does.**  If the agent listens after it,
its socket stands where nothing stood; if not, it spares the path but for what stands there.

**Proof sketch.** One case for each operation.  Looking leaves the tree, clearing takes away at most
what stands at the path, and a directory that is made above it leaves the path grounded.  Binding
fails and leaves the tree, or it puts the socket where the path is located and nothing stood. -/
lemma BindCall.run {l : Listener} {c : FileCall} {r : Option (Except ListenError Unit)}
    (h : t.Habitable cwd) (hcall : l.BindCall c (c.run cwd t).1 r) :
    (c.run cwd t).2.Habitable cwd ∧
      (r = some (.ok ()) ∧ (∃ p, (c.run cwd t).2.Grounded cwd l.path p ∧
          (c.run cwd t).2.node? p = some (.socket l.owner)) ∨
        r ≠ some (.ok ()) ∧ FileTree.Spares cwd l.path t (c.run cwd t).2) := by
  generalize hout : c.run cwd t = out at hcall ⊢
  obtain ⟨answer, t'⟩ := out
  cases hcall with
  | look path hr =>
    obtain rfl : t = t' := congrArg Prod.snd hout
    exact ⟨h, .inr ⟨hr, fun _ _ => .inl rfl⟩⟩
  | clear hr =>
    have hrun := h.run_removeEntry l.path
    rw [hout] at hrun
    exact ⟨hrun.1, .inr ⟨hr, hrun.2⟩⟩
  | @make _ q hparent hne hq _ _ hr =>
    refine ⟨?_, .inr ⟨hr, fun p hp => .inl ?_⟩⟩
    · have hrun := h.run_makeDirectory q
      rw [hout] at hrun
      exact hrun
    · have hrun := hp.run_makeDirectory h.sound hparent hne hq
      rw [hout] at hrun
      exact hrun
  | bind hr =>
    rcases FileTree.run_bindSocket t cwd l.owner l.path with ⟨e, hrun⟩ | ⟨p, hlocate, hnone, hrun⟩
    · obtain ⟨rfl, rfl⟩ := Prod.mk.inj (hrun.symm.trans hout)
      exact ⟨h, .inr ⟨hr.not.2 nofun, fun _ _ => .inl rfl⟩⟩
    · obtain ⟨rfl, rfl⟩ := Prod.mk.inj (hrun.symm.trans hout)
      have hgrounded := h.grounded hlocate hnone
      refine ⟨h.put hlocate hnone _, .inl ⟨hr.2 rfl, p, hgrounded.put hnone _, ?_⟩⟩
      rw [FileTree.node?_put _ _ hgrounded.ne_root, if_pos rfl]

/-- An agent that stops spares the path but for what stands there. -/
lemma run_shutdown (l : Listener) (h : t.Habitable cwd) :
    (l.shutdown.run cwd t).2.Habitable cwd ∧
      FileTree.Spares cwd l.path t (l.shutdown.run cwd t).2 :=
  h.run_removeEntry l.path

end Listener

/-! ## Agents on the same path -/

/-- How far an agent is. -/
inductive Stage where
  /-- Some operations remain until it listens. -/
  | binding (rest : Script (Except ListenError Unit))
  | failed (cause : ListenError)
  | serving
  /-- It has been told to stop. -/
  | leaving
  | stopped

/-- How far an agent is that has come this far in beginning to listen. -/
def Stage.ofScript : Script (Except ListenError Unit) → Stage
  | .done (.ok ()) => serving
  | .done (.error e) => failed e
  | rest => binding rest

/-- What an agent does to the path. -/
inductive Deed where
  /-- Its socket stands there now. -/
  | bound (agent : Nat)
  /-- It has taken away what stood there, to put its socket in place. -/
  | cleared (agent : Nat)
  /-- It has stopped, and has taken away what stood there if anything did. -/
  | stopped (agent : Nat) (took : Bool)
  deriving DecidableEq, Repr

/-- Agents that are started for the same path, with what they have done to it so far. -/
structure Fleet where
  tree : FileTree
  /-- How far each of them is, by the number of the agent. -/
  stages : List Stage
  /-- What was done to the path, in this order. -/
  log : List Deed

/-- What can happen to agents on the same path. -/
inductive Fleet.Move where
  /-- An agent goes on: it does its next operation if it is not there yet, or stops if it was told
  to. -/
  | goOn (agent : Nat)
  /-- An agent is told to stop. -/
  | cancel (agent : Nat)
  deriving DecidableEq, Repr

namespace Fleet

variable (cwd : Place) (path : String)

/-- Agents that are about to begin. -/
def start (t : FileTree) (count : Nat) : Fleet where
  tree := t
  stages := (List.range count).map fun i => .ofScript (Listener.bind ⟨i, path⟩)
  log := []

/-- Whether something stood where the path leads and is gone. -/
def took (t t' : FileTree) : Bool := (t.standing? cwd path).isSome && (t'.standing? cwd path).isNone

/-- What an agent does when it goes on, with the tree that it leaves and what it has done to the
path. -/
def act (t : FileTree) (i : Nat) : Stage → Stage × FileTree × List Deed
  | .binding rest =>
    let (rest, t') := rest.advance cwd t
    match Stage.ofScript rest with
    | .serving => (.serving, t', [.bound i])
    | stage => (stage, t', if took cwd path t t' then [.cleared i] else [])
  | .leaving =>
    let t' := ((Listener.shutdown ⟨i, path⟩).run cwd t).2
    (.stopped, t', [.stopped i (took cwd path t t')])
  | stage => (stage, t, [])

/-- What a move leads to. -/
def step (f : Fleet) : Move → Fleet
  | .goOn i =>
    match f.stages[i]? with
    | none => f
    | some stage =>
      let (stage, tree, deeds) := act cwd path f.tree i stage
      ⟨tree, f.stages.set i stage, f.log ++ deeds⟩
  | .cancel i =>
    match f.stages[i]? with
    | some .serving => { f with stages := f.stages.set i .leaving }
    | _ => f

/-- What moves lead to, one after another. -/
def run (f : Fleet) (moves : List Move) : Fleet := moves.foldl (step cwd path) f

/-- An agent listens, or has been told to stop and has not done so yet. -/
def IsUp (f : Fleet) (i : Nat) : Prop := f.stages[i]? = some .serving ∨ f.stages[i]? = some .leaving

end Fleet

/-! ## What is done to the path -/

namespace Deed

/-- Who does it. -/
def agent : Deed → Nat
  | bound i => i
  | cleared i => i
  | stopped i _ => i

/-- Whether something was taken away. -/
def takes : Deed → Bool
  | bound _ => false
  | cleared _ => true
  | stopped _ took => took

/-- What may come after what was done before: an agent takes things away for its socket before it
binds that, and it stops once, after it has bound it. -/
def Allowed (log : List Deed) : Deed → Prop
  | bound i => .bound i ∉ log
  | cleared i => .bound i ∉ log
  | stopped i _ => .bound i ∈ log ∧ ∀ took, .stopped i took ∉ log

/-- Everything was allowed when it was done. -/
def Orderly (log : List Deed) : Prop :=
  ∀ before d after, log = before ++ d :: after → d.Allowed before

/-- A deed that is allowed may follow what was allowed. -/
lemma Orderly.concat {log : List Deed} (h : Orderly log) {d : Deed} (hd : d.Allowed log) :
    Orderly (log ++ [d]) := by
  intro before d' after hsplit
  rcases List.eq_nil_or_concat after with rfl | ⟨after, last, rfl⟩
  · obtain ⟨rfl, hlast⟩ := List.append_inj' hsplit rfl
    obtain rfl : d = d' := by simpa using hlast
    exact hd
  · rw [List.concat_eq_append, ← List.cons_append, ← List.append_assoc] at hsplit
    obtain ⟨hlog, -⟩ := List.append_inj' hsplit rfl
    exact h before d' after hlog

/-- What comes after the last socket that was bound, once more is done. -/
lemma exists_split {log deeds before after : List Deed} {i : Nat}
    (h : log ++ deeds = before ++ .bound i :: after) (hdeeds : ∀ j, .bound j ∉ deeds) :
    ∃ after', log = before ++ .bound i :: after' ∧ after = after' ++ deeds := by
  rcases List.append_eq_append_iff.1 h with ⟨middle, -, hmiddle⟩ | ⟨middle, hlog, hmiddle⟩
  · exact absurd (hmiddle ▸ List.mem_append_right _ List.mem_cons_self) (hdeeds i)
  · cases middle with
    | nil =>
      rw [List.nil_append] at hmiddle
      exact absurd (hmiddle ▸ List.mem_cons_self) (hdeeds i)
    | cons d middle =>
      obtain ⟨rfl, hafter⟩ := List.cons.inj hmiddle
      exact ⟨middle, hlog, hafter⟩

end Deed

open Deed (Orderly)

/-! ## What always holds -/

variable {cwd : Place} {path : String} {t t' : FileTree} {log deeds : List Deed} {i : Nat}

/-- **What becomes of the socket that was bound last**: it stands where the path leads as long as
nothing has been taken away, and at most one thing is. -/
def Fate (cwd : Place) (path : String) (t : FileTree) (log : List Deed) : Prop :=
  ∀ before i after, log = before ++ .bound i :: after → (∀ j, .bound j ∉ after) →
    ∃ p, t.Grounded cwd path p ∧
      (after.filter Deed.takes = [] ∧ t.node? p = some (.socket i) ∨
        (∃ d, after.filter Deed.takes = [d]) ∧ t.node? p = none)

/-- A socket has just been bound. -/
lemma Fate.bound {p : Place} (hp : t.Grounded cwd path p) (hsocket : t.node? p = some (.socket i)) :
    Fate cwd path t (log ++ [.bound i]) := by
  intro before j after hsplit hlast
  rcases List.eq_nil_or_concat after with rfl | ⟨after, last, rfl⟩
  · obtain ⟨-, hsame⟩ := List.append_inj' hsplit rfl
    obtain rfl : i = j := by simpa using hsame
    exact ⟨p, hp, .inl ⟨rfl, hsocket⟩⟩
  · rw [List.concat_eq_append] at hsplit hlast
    rw [← List.cons_append, ← List.append_assoc] at hsplit
    obtain ⟨-, hsame⟩ := List.append_inj' hsplit rfl
    obtain rfl : .bound i = last := by simpa using hsame
    exact absurd (by simp) (hlast i)

/-- What is taken away from where the path leads is missed. -/
lemma took_erase {p : Place} (hp : t.Grounded cwd path p) (hsome : (t.node? p).isSome = true) :
    Fleet.took cwd path t (t.erase p) = true := by
  rw [Fleet.took, hp.standing?_eq, hp.erase.standing?_eq, FileTree.node?_erase _ hp.ne_root,
    if_pos rfl, hsome]
  rfl

/-- Nothing is missed from a tree that stays. -/
lemma took_self (t : FileTree) : Fleet.took cwd path t t = false := by
  rw [Fleet.took]
  cases t.standing? cwd path <;> rfl

/-- **The path is spared**, and what was taken away from it is written down. -/
lemma Fate.spares (h : Fate cwd path t log) (hspares : FileTree.Spares cwd path t t')
    (hbound : ∀ j, .bound j ∉ deeds)
    (htook : ∃ d, deeds.filter Deed.takes = if Fleet.took cwd path t t' then [d] else []) :
    Fate cwd path t' (log ++ deeds) := by
  intro before i after hsplit hlast
  obtain ⟨after, hlog, rfl⟩ := Deed.exists_split hsplit hbound
  obtain ⟨p, hp, hcase⟩ := h before i after hlog fun j hj => hlast j (List.mem_append_left _ hj)
  obtain ⟨d, hd⟩ := htook
  rw [List.filter_append, hd]
  rcases hspares p hp with rfl | ⟨hsome, rfl⟩
  · rw [took_self]
    exact ⟨p, hp, by simpa using hcase⟩
  · rcases hcase with ⟨hnil, -⟩ | ⟨-, hnone⟩
    · refine ⟨p, hp.erase, .inr ⟨⟨d, ?_⟩, ?_⟩⟩
      · rw [hnil, took_erase hp hsome]
        rfl
      · rw [FileTree.node?_erase _ hp.ne_root, if_pos rfl]
    · rw [hnone] at hsome
      cases hsome

/-- What always holds of the tree and of what was done to the path. -/
structure Kept (cwd : Place) (path : String) (t : FileTree) (log : List Deed) : Prop where
  habitable : t.Habitable cwd
  orderly : Orderly log
  fate : Fate cwd path t log

/-- How far an agent is tells what it has done, and what it can still do. -/
def Stage.Fits (path : String) (log : List Deed) (i : Nat) : Stage → Prop
  | binding rest => rest.result? = none ∧ rest.Calls (Listener.BindCall ⟨i, path⟩) ∧
      .bound i ∉ log ∧ ∀ took, .stopped i took ∉ log
  | serving | leaving => .bound i ∈ log ∧ ∀ took, .stopped i took ∉ log
  | failed _ | stopped => True

/-- What others do does not change how far an agent is. -/
lemma Stage.Fits.others {stage : Stage} (h : stage.Fits path log i)
    (hdeeds : ∀ d ∈ deeds, d.agent ≠ i) : stage.Fits path (log ++ deeds) i := by
  have hbound : .bound i ∉ deeds := fun hmem => hdeeds _ hmem rfl
  have hstopped : ∀ took, .stopped i took ∉ deeds := fun took hmem => hdeeds _ hmem rfl
  cases stage with
  | binding rest =>
    obtain ⟨hresult, hcalls, hnot, hgoing⟩ := h
    refine ⟨hresult, hcalls, ?_, fun took => ?_⟩
    · simp [hnot, hbound]
    · simp [hgoing took, hstopped took]
  | serving | leaving =>
    obtain ⟨hmem, hgoing⟩ := h
    refine ⟨List.mem_append_left _ hmem, fun took => ?_⟩
    simp [hgoing took, hstopped took]
  | failed | stopped => trivial

/-- The last operation of an agent that begins to listen, if it succeeds. -/
lemma act_of_result {c : FileCall} {next : c.Answer → Script (Except ListenError Unit)}
    (h : (next (c.run cwd t).1).result? = some (.ok ())) :
    Fleet.act cwd path t i (.binding (.call c next)) = (.serving, (c.run cwd t).2, [.bound i]) := by
  cases hnext : next (c.run cwd t).1 with
  | call c' next' =>
    rw [hnext] at h
    cases h
  | done r =>
    rw [hnext] at h
    obtain rfl : r = .ok () := Option.some.inj h
    simp only [Fleet.act, Script.advance, hnext, Stage.ofScript]

/-- Any other operation of an agent that begins to listen. -/
lemma act_of_ne {c : FileCall} {next : c.Answer → Script (Except ListenError Unit)}
    (h : (next (c.run cwd t).1).result? ≠ some (.ok ())) :
    Fleet.act cwd path t i (.binding (.call c next)) =
      (.ofScript (next (c.run cwd t).1), (c.run cwd t).2,
        if Fleet.took cwd path t (c.run cwd t).2 then [.cleared i] else []) := by
  cases hnext : next (c.run cwd t).1 with
  | call c' next' => simp only [Fleet.act, Script.advance, hnext, Stage.ofScript]
  | done r =>
    rw [hnext] at h
    rcases r with e | _
    · simp only [Fleet.act, Script.advance, hnext, Stage.ofScript]
    · exact absurd rfl h

/-- An agent that begins to listen, after an operation that was not the last one. -/
lemma Stage.fits_ofScript {s : Script (Except ListenError Unit)}
    (hresult : s.result? ≠ some (.ok ())) (hcalls : s.Calls (Listener.BindCall ⟨i, path⟩))
    (hbound : .bound i ∉ log) (hstopped : ∀ took, .stopped i took ∉ log) :
    (Stage.ofScript s).Fits path log i := by
  cases s with
  | call c next => exact ⟨rfl, hcalls, hbound, hstopped⟩
  | done r =>
    rcases r with e | _
    · trivial
    · exact absurd rfl hresult

/-- **An agent that goes on** keeps what always holds, and what it does fits how far it is.

**Proof sketch.** By cases of the stage.  One that is over does nothing.  One that is leaving
removes what stands at the path, and the log says that it stopped and whether it took something.
One that binds carries out its next operation: with the last one the socket stands and the log says
so, and with any other one the path is spared, but for what the log says was cleared. -/
lemma Kept.act (h : Kept cwd path t log) {stage : Stage} (hstage : stage.Fits path log i) :
    let out := Fleet.act cwd path t i stage
    Kept cwd path out.2.1 (log ++ out.2.2) ∧ out.1.Fits path (log ++ out.2.2) i ∧
      ∀ d ∈ out.2.2, d.agent = i := by
  cases stage with
  | failed | serving | stopped =>
    simp only [Fleet.act, List.append_nil]
    exact ⟨h, hstage, nofun⟩
  | leaving =>
    obtain ⟨hbound, hgoing⟩ := hstage
    obtain ⟨hhome, hspares⟩ := Listener.run_shutdown ⟨i, path⟩ h.habitable
    simp only [Fleet.act]
    refine ⟨⟨hhome, h.orderly.concat ⟨hbound, hgoing⟩, h.fate.spares hspares (by simp) ?_⟩, trivial,
      fun d hd => by rw [List.mem_singleton.1 hd]; rfl⟩
    refine ⟨.stopped i true, ?_⟩
    cases htook : Fleet.took cwd path t ((Listener.shutdown ⟨i, path⟩).run cwd t).2 <;> rfl
  | binding rest =>
    obtain ⟨hresult, hcalls, hnot, hgoing⟩ := hstage
    cases rest with
    | done r => cases hresult
    | call c next =>
      obtain ⟨hcall, hcalls⟩ := hcalls (c.run cwd t).1
      obtain ⟨hhome, ⟨hlast, p, hp, hsocket⟩ | ⟨hmore, hspares⟩⟩ := hcall.run h.habitable
      · -- the socket is bound with this call
        rw [act_of_result hlast]
        refine ⟨⟨hhome, h.orderly.concat hnot, .bound hp hsocket⟩, ⟨by simp, by simp [hgoing]⟩,
          fun d hd => by rw [List.mem_singleton.1 hd]; rfl⟩
      · -- any other call at most takes away what stands at the path, which the log tells
        rw [act_of_ne hmore]
        cases htook : Fleet.took cwd path t (c.run cwd t).2 with
        | true =>
          refine ⟨⟨hhome, h.orderly.concat hnot, h.fate.spares hspares (by simp) ?_⟩,
            Stage.fits_ofScript hmore hcalls (by simpa using hnot) (by simpa using hgoing),
            fun d hd => by rw [List.mem_singleton.1 hd]; rfl⟩
          exact ⟨.cleared i, by rw [htook]; rfl⟩
        | false =>
          refine ⟨⟨hhome, ?_, h.fate.spares hspares (by simp) ?_⟩,
            Stage.fits_ofScript hmore hcalls (by simpa using hnot) (by simpa using hgoing), nofun⟩
          · simpa using h.orderly
          · exact ⟨.cleared i, by rw [htook]; rfl⟩

namespace Fleet

/-- **What holds of agents on the same path**, whatever they have done so far. -/
structure Lawful (cwd : Place) (path : String) (f : Fleet) : Prop where
  kept : Kept cwd path f.tree f.log
  fits : ∀ i (stage : Stage), f.stages[i]? = some stage → stage.Fits path f.log i

/-- What holds before anything is done. -/
lemma lawful_start (path : String) (ht : t.Habitable cwd) (count : Nat) :
    (start path t count).Lawful cwd path where
  kept := {
    habitable := ht
    orderly := fun before d after h => by simp [start] at h
    fate := fun before i after h => by simp [start] at h }
  fits i stage h := by
    simp only [start, List.getElem?_map, Option.map_eq_some_iff] at h
    obtain ⟨j, hj, rfl⟩ := h
    obtain rfl : i = j := by
      obtain ⟨hi, hget⟩ := List.getElem?_eq_some_iff.1 hj
      rwa [List.getElem_range] at hget
    exact Stage.fits_ofScript nofun (Listener.calls_bind ⟨i, path⟩)
      (by simp [start]) (by simp [start])

/-- How far an agent is fits what was done, if that is so for the one that has gone on and for all
others. -/
lemma fits_set {stages : List Stage} {stage : Stage}
    (hfits : ∀ j (other : Stage), stages[j]? = some other → other.Fits path log j)
    (hstage : stage.Fits path (log ++ deeds) i) (hagent : ∀ d ∈ deeds, d.agent = i) :
    ∀ j (other : Stage), (stages.set i stage)[j]? = some other →
      other.Fits path (log ++ deeds) j := by
  intro j other hother
  by_cases hj : i = j
  · subst hj
    rw [List.getElem?_set_self'] at hother
    obtain ⟨-, -, rfl⟩ := Option.map_eq_some_iff.1 hother
    exact hstage
  · rw [List.getElem?_set_ne hj] at hother
    exact (hfits j other hother).others fun d hd => by rw [hagent d hd]; exact hj

/-- **One move** keeps what always holds. -/
lemma Lawful.step {f : Fleet} (h : f.Lawful cwd path) (m : Move) :
    (f.step cwd path m).Lawful cwd path := by
  cases m with
  | goOn i =>
    cases hstage : f.stages[i]? with
    | none => simpa only [Fleet.step, hstage] using h
    | some stage =>
      obtain ⟨hkept, hfits, hagent⟩ := h.kept.act (h.fits i stage hstage)
      simp only [Fleet.step, hstage]
      exact ⟨hkept, fits_set h.fits hfits hagent⟩
  | cancel i =>
    cases hstage : f.stages[i]? with
    | none => simpa only [Fleet.step, hstage] using h
    | some stage =>
      cases stage with
      | serving =>
        have hfits : Stage.leaving.Fits path (f.log ++ []) i := by
          rw [List.append_nil]
          exact h.fits i .serving hstage
        simp only [Fleet.step, hstage]
        refine ⟨h.kept, ?_⟩
        simpa using fits_set h.fits hfits nofun
      | _ => simpa only [Fleet.step, hstage] using h

/-- **A run** keeps what always holds. -/
lemma lawful_run {f : Fleet} (h : f.Lawful cwd path) (moves : List Move) :
    (f.run cwd path moves).Lawful cwd path := by
  induction moves generalizing f with
  | nil => exact h
  | cons m moves ih => exact ih (h.step m)

/-! ## The socket that was bound last -/

/-- What is taken away after the last socket was bound is taken away by another agent's bind, or by
an agent that stops, that had bound its socket before and not stopped then. -/
lemma Lawful.taker {f : Fleet} (h : f.Lawful cwd path) {before after : List Deed}
    (hlog : f.log = before ++ .bound i :: after) (hlast : ∀ j, .bound j ∉ after) (hup : f.IsUp i)
    {d : Deed} (hd : d ∈ after) (htakes : d.takes = true) : ∃ j ≠ i, d = .cleared j ∨
      d = .stopped j true ∧ .bound j ∈ before ∧ ∀ took, .stopped j took ∉ before := by
  obtain ⟨earlier, later, rfl⟩ := List.append_of_mem hd
  have hallowed : d.Allowed (before ++ .bound i :: earlier) := by
    apply h.kept.orderly _ _ later
    rw [hlog, List.append_assoc, List.cons_append]
  have hgoing : ∀ took, .stopped i took ∉ f.log := by
    rcases hup with hstage | hstage
    · exact (h.fits i _ hstage).2
    · exact (h.fits i _ hstage).2
  cases d with
  | bound j => cases htakes
  | cleared j =>
    refine ⟨j, ?_, .inl rfl⟩
    rintro rfl
    exact hallowed (by simp)
  | stopped j took =>
    obtain rfl : took = true := htakes
    obtain ⟨hbound, hnot⟩ := hallowed
    have hne : j ≠ i := by
      rintro rfl
      exact hgoing true (by simp [hlog])
    refine ⟨j, hne, .inr ⟨rfl, ?_, fun took hmem => hnot took (List.mem_append_left _ hmem)⟩⟩
    have hearlier : .bound j ∉ earlier := fun hmem => hlast j (List.mem_append_left _ hmem)
    simpa [hearlier, hne] using hbound

/-- **What becomes of the socket that was bound last**, in every run of any number of agents on the
same path, whatever stands there at first and in whatever order they begin, are told to stop and
stop.  While the agent that bound it is up, its socket stands where the path leads, unless one thing
was done since: another agent, in the middle of beginning to listen, took the socket away to put its
own there, or an agent stopped that had bound its socket before and was not stopped yet when this
one was bound.  So where agents that bound their sockets before have stopped by then, nobody but
another agent that begins to listen ever takes the socket away.

**Proof sketch.** Once a socket is bound, the path leads to the same place for good, since nothing
else on the way is ever taken away, and no directory needs to be made any more.  So only the place
itself changes, and each change of it is a deed of one agent. -/
theorem socket_fate (path : String) (ht : t.Habitable cwd) (count : Nat) (moves : List Move)
    {before after : List Deed} (hlog : ((start path t count).run cwd path moves).log =
      before ++ .bound i :: after) (hlast : ∀ j, .bound j ∉ after)
    (hup : ((start path t count).run cwd path moves).IsUp i) :
    let stands := ((start path t count).run cwd path moves).tree.standing? cwd path
    let taken := after.filter Deed.takes
    (taken = [] ∧ stands = some (.socket i) ∨ stands = none ∧ ∃ j ≠ i, taken = [.cleared j] ∨
      taken = [.stopped j true] ∧ .bound j ∈ before ∧ ∀ took, .stopped j took ∉ before) ∧
    ((∀ j, .bound j ∈ before → ∃ took, .stopped j took ∈ before) →
      taken = [] ∧ stands = some (.socket i) ∨ stands = none ∧ ∃ j ≠ i, taken = [.cleared j]) := by
  intro stands taken
  have hlawful : ((start path t count).run cwd path moves).Lawful cwd path :=
    lawful_run (lawful_start path ht count) moves
  obtain ⟨p, hp, hcase⟩ := hlawful.kept.fate before i after hlog hlast
  have hstands : stands = _ := hp.standing?_eq
  have hfate : taken = [] ∧ stands = some (.socket i) ∨
      stands = none ∧ ∃ j ≠ i, taken = [.cleared j] ∨
      taken = [.stopped j true] ∧ .bound j ∈ before ∧ ∀ took, .stopped j took ∉ before := by
    rw [hstands]
    rcases hcase with hsocket | ⟨⟨d, hd⟩, hnone⟩
    · exact .inl hsocket
    · obtain ⟨hmem, htakes⟩ :=
        List.mem_filter.1 (hd ▸ List.mem_singleton_self d : d ∈ after.filter _)
      obtain ⟨j, hj, rfl | ⟨rfl, hdone⟩⟩ := hlawful.taker hlog hlast hup hmem htakes
      · exact .inr ⟨hnone, j, hj, .inl hd⟩
      · exact .inr ⟨hnone, j, hj, .inr ⟨hd, hdone⟩⟩
  refine ⟨hfate, fun hstopped => ?_⟩
  rcases hfate with hsocket | ⟨hnone, j, hj, hcleared | ⟨-, hbound, hnot⟩⟩
  · exact .inl hsocket
  · exact .inr ⟨hnone, j, hj, hcleared⟩
  · obtain ⟨took, hmem⟩ := hstopped j hbound
    exact absurd hmem (hnot took)

/-- An agent that is restarted in order: the first one stops before the second one begins. -/
theorem socket_fate_restart :
    let moves : List Move := List.replicate 4 (.goOn 0) ++ [.cancel 0, .goOn 0] ++
      List.replicate 4 (.goOn 1)
    let f := (start "/s" .empty 2).run [] "/s" moves
    f.log = [.bound 0, .stopped 0 true, .bound 1] ∧ f.IsUp 1 ∧
      f.tree.standing? [] "/s" = some (.socket 1) := by
  intro moves f
  have hlog : f.log = [.bound 0, .stopped 0 true] ++ .bound 1 :: [] := by decide +kernel
  have hup : f.IsUp 1 := .inl rfl
  have hhome : FileTree.empty.Habitable [] := ⟨.of_entries (by decide), rfl⟩
  obtain ⟨-, hkept⟩ := socket_fate "/s" hhome 2 moves hlog (by simp) hup
  have hstopped : ∀ j, .bound j ∈ [Deed.bound 0, .stopped 0 true] →
      ∃ took, .stopped j took ∈ [Deed.bound 0, .stopped 0 true] := by
    intro j hj
    obtain rfl : j = 0 := by simpa using hj
    exact ⟨true, by simp⟩
  rcases hkept hstopped with ⟨-, hstands⟩ | ⟨-, j, -, htaken⟩
  · exact ⟨hlog, hup, hstands⟩
  · cases htaken

/-- **An agent that stops may take away the socket of another one.**  The second agent begins before
the first one has stopped and replaces its socket.  Then the first one is told to stop, and takes
away what stands at the path: the second one goes on serving, and its socket is gone. -/
theorem shutdown_takes_stranger :
    let moves : List Move := List.replicate 4 (.goOn 0) ++ List.replicate 5 (.goOn 1) ++
      [.cancel 0, .goOn 0]
    let f := (start "/s" .empty 2).run [] "/s" moves
    f.log = [.bound 0, .cleared 1, .bound 1, .stopped 0 true] ∧ f.stages[1]? = some .serving ∧
      f.tree.standing? [] "/s" = none := by
  intro moves f
  exact ⟨by decide +kernel, rfl, by decide +kernel⟩

end Fleet

end Agent

end CommandRelay
