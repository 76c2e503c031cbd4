import CommandRelay.Files.Crew
import CommandRelay.Proofs.Files.Operations

/-!
# Scripts among others

What a script does is said of one operation at a time: first which operations it asks for, with
whatever answers, and then what they do.  Nothing is known of the tree that an operation finds but
that it satisfies an invariant, and that what the last operation left has only been changed in ways
to rely on.  So the same statement serves for a script that runs alone and for one that runs among
others.

## Main definitions

* `Script.Calls` — which operations a script asks for, with the result if it is the last one.
* `Script.Always` — what every operation of a script does, with the result if it is the last one.
* `Script.MakingCall`, `Script.Making` — the operations that make a directory, and what they do.
* `Crew.Held` — scripts that run at once and keep to an invariant.

## Main results

* `Script.Calls.bind`, `Script.Always.bind` — scripts one after another.
* `Script.Always.of_calls` — what a script does by which operations it asks for.
* `Script.Always.run`, `Script.Always.run_last` — a script that runs alone.
* `Script.calls_makeDirectories`, `Script.always_makeDirectories` — making directories makes only
  directories on the way, and the last one if it succeeds.
* `Crew.Held.turn`, `Crew.Held.run` — what one turn does, and all turns.
-/

namespace CommandRelay

namespace Script

variable {α β : Type} {cwd : Place} {inv : FileTree → Prop} {rely : FileTree → FileTree → Prop}
  {step step' : FileTree → FileTree → Option α → Prop} {t : FileTree}

/-! ## Which operations a script asks for -/

/-- Every operation of a script, whatever the answers to those before it are, is as said of it, of
its answer and of the result of the script if it is the last operation. -/
def Calls (P : (c : FileCall) → c.Answer → Option α → Prop) : Script α → Prop
  | done _ => True
  | call c next => ∀ answer, P c answer (next answer).result? ∧ (next answer).Calls P

/-- The result of scripts one after another is known at once if that of each of them is. -/
lemma result?_bind (s : Script α) (f : α → Script β) :
    (s >>= f).result? = s.result?.bind fun a => (f a).result? := by
  cases s with
  | done a => rfl
  | call c next => rfl

/-- What is said of every operation can be said in other words. -/
lemma Calls.imp {P Q : (c : FileCall) → c.Answer → Option α → Prop} {s : Script α} (hs : s.Calls P)
    (h : ∀ c answer r, P c answer r → Q c answer r) : s.Calls Q := by
  induction s with
  | done a => trivial
  | call c next ih => exact fun answer => ⟨h _ _ _ (hs answer).1, ih answer (hs answer).2⟩

/-- **Scripts one after another**: the second begins as soon as the first has its result. -/
lemma Calls.bind {P : (c : FileCall) → c.Answer → Option β → Prop} {s : Script α} {f : α → Script β}
    (hs : s.Calls fun c answer r =>
      P c answer (r.bind fun a => (f a).result?) ∧ ∀ a ∈ r, (f a).Calls P)
    (hdone : ∀ a ∈ s.result?, (f a).Calls P) : (s >>= f).Calls P := by
  induction s with
  | done a => exact hdone a rfl
  | call c next ih =>
    intro answer
    obtain ⟨⟨hcall, hlast⟩, hnext⟩ := hs answer
    refine ⟨?_, ih answer hnext hlast⟩
    exact (result?_bind _ f).symm ▸ hcall

/-! ## What the operations do -/

/-- Every operation of a script is a `step` from the tree that it finds to the next one, with the
result of the script if it is the last operation.  The tree satisfies `inv` and has been made of
`t`, which the operation before has left, as `rely` says. -/
def Always (cwd : Place) (inv : FileTree → Prop) (rely : FileTree → FileTree → Prop)
    (step : FileTree → FileTree → Option α → Prop) : FileTree → Script α → Prop
  | _, done _ => True
  | t, call c next => ∀ t₁, inv t₁ → rely t t₁ →
      step t₁ (c.run cwd t₁).2 (next (c.run cwd t₁).1).result? ∧
        Always cwd inv rely step (c.run cwd t₁).2 (next (c.run cwd t₁).1)

/-- **What a script does** follows from which operations it asks for, and what these do. -/
lemma Always.of_calls {P : (c : FileCall) → c.Answer → Option α → Prop} {s : Script α}
    (hs : s.Calls P)
    (h : ∀ c t r, inv t → P c (c.run cwd t).1 r → step t (c.run cwd t).2 r) (t : FileTree) :
    s.Always cwd inv rely step t := by
  induction s generalizing t with
  | done a => trivial
  | call c next ih =>
    intro t₁ hinv _
    obtain ⟨hcall, hnext⟩ := hs (c.run cwd t₁).1
    exact ⟨h c t₁ _ hinv hcall, ih _ hnext _⟩

/-- Nothing is asked of a script that can find no tree. -/
lemma Always.of_not {s : Script α} (h : ∀ t, ¬inv t) : s.Always cwd inv rely step t := by
  cases s with
  | done a => trivial
  | call c next => exact fun t₁ hinv => absurd hinv (h t₁)

/-- What is said of every operation can be said in other words. -/
lemma Always.imp {s : Script α} (hs : s.Always cwd inv rely step t)
    (h : ∀ t t' r, inv t → step t t' r → step' t t' r) : s.Always cwd inv rely step' t := by
  induction s generalizing t with
  | done a => trivial
  | call c next ih =>
    intro t₁ hinv hrely
    obtain ⟨hstep, hnext⟩ := hs t₁ hinv hrely
    exact ⟨h _ _ _ hinv hstep, ih _ hnext⟩

/-- Others may change the tree before the script goes on. -/
lemma Always.later {s : Script α} (hs : s.Always cwd inv rely step t) {t' : FileTree}
    (hrely : rely t t') (htrans : ∀ t t' t'', rely t t' → rely t' t'' → rely t t'') :
    s.Always cwd inv rely step t' := by
  cases s with
  | done a => trivial
  | call c next => exact fun t₁ hinv h => hs t₁ hinv (htrans _ _ _ hrely h)

/-- **Scripts one after another**: the second begins as soon as the first has its result. -/
lemma Always.bind {step : FileTree → FileTree → Option β → Prop} {s : Script α} {f : α → Script β}
    (hs : s.Always cwd inv rely (fun t t' r =>
      step t t' (r.bind fun a => (f a).result?) ∧
        ∀ a ∈ r, (f a).Always cwd inv rely step t') t)
    (hdone : ∀ a ∈ s.result?, (f a).Always cwd inv rely step t) :
    (s >>= f).Always cwd inv rely step t := by
  induction s generalizing t with
  | done a => exact hdone a rfl
  | call c next ih =>
    intro t₁ hinv hrely
    obtain ⟨⟨hstep, hlast⟩, hnext⟩ := hs t₁ hinv hrely
    refine ⟨?_, ih _ hnext hlast⟩
    exact (result?_bind _ f).symm ▸ hstep

/-! ## A script that runs alone -/

section Alone

variable (hrefl : ∀ t, rely t t) (hkeep : ∀ t t' r, inv t → step t t' r → inv t')

include hrefl hkeep

/-- **A script that runs alone** changes the tree as its operations do one after another. -/
lemma Always.run {s : Script α} (hs : s.Always cwd inv rely step t) (ht : inv t)
    {rel : FileTree → FileTree → Prop} (hrel : ∀ t t' r, inv t → step t t' r → rel t t')
    (hsame : ∀ t, rel t t) (htrans : ∀ t t' t'', rel t t' → rel t' t'' → rel t t'') :
    inv (s.run cwd t).2 ∧ rel t (s.run cwd t).2 := by
  induction s generalizing t with
  | done a => exact ⟨ht, hsame t⟩
  | call c next ih =>
    obtain ⟨hstep, hnext⟩ := hs t ht (hrefl t)
    obtain ⟨hinv', hrel'⟩ := ih _ hnext (hkeep _ _ _ ht hstep)
    exact ⟨hinv', htrans _ _ _ (hrel _ _ _ ht hstep) hrel'⟩

/-- The last operation of a script that runs alone gives its result. -/
lemma Always.run_last {s : Script α} (hs : s.Always cwd inv rely step t) (ht : inv t)
    (hnone : s.result? = none) :
    ∃ t₁, inv t₁ ∧ step t₁ (s.run cwd t).2 (some (s.run cwd t).1) := by
  induction s generalizing t with
  | done a => cases hnone
  | call c next ih =>
    obtain ⟨hstep, hnext⟩ := hs t ht (hrefl t)
    cases hlast : next (c.run cwd t).1 with
    | call c' next' =>
      have hresult : (next (c.run cwd t).1).result? = none := by rw [hlast]; rfl
      exact ih _ hnext (hkeep _ _ _ ht hstep) hresult
    | done a =>
      refine ⟨t, ht, ?_⟩
      rw [hlast] at hstep
      simp only [Script.run, hlast]
      exact hstep

end Alone

/-! ## Making directories -/

section Directories

/-- The result of making a directory is known after some operations only. -/
lemma result?_makeDirectories {path : String} (h : path ≠ "") :
    (makeDirectories path).result? = none := by
  rw [makeDirectories, if_neg (by simpa using h)]
  rfl

/-- The operations that make a directory make directories on the way to a path and look at paths.
If the last one succeeds, it makes the directory that is wanted or finds it. -/
inductive MakingCall (path q : String) :
    (c : FileCall) → c.Answer → Option (Except FileError Unit) → Prop
  /-- A directory on the way is made. -/
  | make {p : String} (hp : p ∈ Path.lineage path) {answer : (FileCall.makeDirectory p).Answer}
      {r : Option (Except FileError Unit)} (h : r = some (.ok ()) → p = q ∧ answer = .ok ()) :
      MakingCall path q (.makeDirectory p) answer r
  /-- Some path is looked at. -/
  | look (p : String) {answer : (FileCall.stat p).Answer} {r : Option (Except FileError Unit)}
      (h : r = some (.ok ()) → p = q ∧ answer = .ok .directory) :
      MakingCall path q (.stat p) answer r

/-- Operations that make a directory above are among those that make another one, as long as they
are not the last. -/
lemma MakingCall.above {path q q' : String} {c : FileCall} {answer : c.Answer}
    {r r' : Option (Except FileError Unit)} (h : MakingCall path q c answer r)
    (hr' : r' ≠ some (.ok ())) : MakingCall path q' c answer r' := by
  cases h with
  | make hp _ => exact .make hp fun heq => absurd heq hr'
  | look p _ => exact .look p fun heq => absurd heq hr'

/-- Looking whether a directory is there after all. -/
lemma calls_check (path q : String) (e : FileError) :
    (do if ← isDirectory q then return .ok () else return .error e :
      Script (Except FileError Unit)).Calls (MakingCall path q) := by
  rintro (_ | n)
  · exact ⟨.look q nofun, trivial⟩
  · cases n with
    | directory => exact ⟨.look q fun _ => ⟨rfl, rfl⟩, trivial⟩
    | _ => exact ⟨.look q nofun, trivial⟩

/-- Making a directory whose parent is there. -/
lemma calls_retry {path q : String} (hq : q ∈ Path.lineage path) :
    (do
      match ← makeDirectory q with
      | .ok () => return .ok ()
      | .error e => if ← isDirectory q then return .ok () else return .error e :
      Script (Except FileError Unit)).Calls (MakingCall path q) := by
  rintro (e | _)
  · exact ⟨.make hq nofun, calls_check path q e⟩
  · exact ⟨.make hq fun _ => ⟨rfl, rfl⟩, trivial⟩

/-- Making a directory once those above it have been made, if they could be. -/
def retryAfter (q : String) (above : Script (Except FileError Unit)) :
    Script (Except FileError Unit) := do
  match ← above with
  | .error e => return .error e
  | .ok () =>
    match ← makeDirectory q with
    | .ok () => return .ok ()
    | .error e => if ← isDirectory q then return .ok () else return .error e

/-- There is more to do before that can succeed. -/
lemma result?_retryAfter (q : String) (above : Script (Except FileError Unit)) :
    (retryAfter q above).result? ≠ some (.ok ()) := by
  rw [retryAfter, result?_bind]
  rcases above.result? with _ | ⟨_ | _⟩ <;> exact nofun

/-- Making a directory once those above it have been made. -/
lemma calls_retryAfter {path q : String} (hq : q ∈ Path.lineage path)
    {above : Script (Except FileError Unit)}
    (habove : above.Calls fun c answer _ =>
      ∀ r, r ≠ some (.ok ()) → MakingCall path q c answer r) :
    (retryAfter q above).Calls (MakingCall path q) := by
  refine Calls.bind (habove.imp fun c answer r hcall => ⟨hcall _ ?_, ?_⟩) ?_
  · rcases r with _ | ⟨_ | _⟩ <;> exact nofun
  · rintro (e | _) -
    · trivial
    · exact calls_retry hq
  · rintro (e | _) -
    · trivial
    · exact calls_retry hq

/-- **Making a directory and those above it that are missing.**  If the first attempt finds no
parent, those above are made, which is not the end yet, and there is another attempt. -/
lemma calls_makeAncestors {path q : String} {parents : List String}
    (hpaths : ∀ p ∈ q :: parents, p ∈ Path.lineage path) :
    (makeAncestors (q :: parents)).Calls (MakingCall path q) := by
  have hq := hpaths q List.mem_cons_self
  have habove : (makeAncestors parents).Calls fun c answer _ =>
      ∀ r, r ≠ some (.ok ()) → MakingCall path q c answer r := by
    cases parents with
    | nil => trivial
    | cons p parents =>
      exact (calls_makeAncestors fun x hx => hpaths x (List.mem_cons_of_mem _ hx)).imp
        fun c answer r hcall r' hr' => hcall.above hr'
  rintro (e | _)
  · cases e with
    | notFound =>
      refine ⟨.make hq fun hdone => ?_, calls_retryAfter hq habove⟩
      exact absurd hdone (result?_retryAfter q (makeAncestors parents))
    | _ => exact ⟨.make hq nofun, calls_check path q _⟩
  · exact ⟨.make hq fun _ => ⟨rfl, rfl⟩, trivial⟩

/-- **Making a directory** is no more than making directories on the way and looking at them; with
the empty path nothing is done at all. -/
lemma calls_makeDirectories (path : String) :
    (makeDirectories path).Calls fun c answer r => path ≠ "" ∧ MakingCall path path c answer r := by
  unfold makeDirectories
  split_ifs with hempty
  · trivial
  · have hne : path ≠ "" := by simpa using hempty
    have hcalls : (makeAncestors (Path.lineage path)).Calls (MakingCall path path) :=
      calls_makeAncestors fun _ hp => hp
    exact hcalls.imp fun c answer r hcall => ⟨hne, hcall⟩

/-- A directory was made with this operation, or was found to be there. -/
def Arrived (cwd : Place) (q : String) (t t' : FileTree) : Prop :=
  (FileCall.makeDirectory q).run cwd t = (.ok (), t') ∨ (t' = t ∧ t.isDirectory cwd q = true)

/-- An operation among those that make a directory: the last one, if all goes well, arrives. -/
def Making (cwd : Place) (rel : FileTree → FileTree → Prop) (q : String) (t t' : FileTree)
    (r : Option (Except FileError Unit)) : Prop :=
  rel t t' ∧ (r = some (.ok ()) → Arrived cwd q t t')

variable {rel : FileTree → FileTree → Prop} {place : Place} {path : String}

/-- **Making a directory** makes only directories on the way, and arrives if it succeeds. -/
lemma always_makeDirectories (hinv : ∀ t, inv t → t.Sound ∧ t.PathLeads cwd path place)
    (hsame : ∀ t, inv t → rel t t)
    (hmade : ∀ t t', inv t → FileTree.Paved place t t' → t'.Sound → rel t t') (t : FileTree) :
    (makeDirectories path).Always cwd inv rely (Making cwd rel path) t := by
  refine .of_calls (calls_makeDirectories path) (fun c t r ht hcall => ?_) t
  obtain ⟨hsound, hleads⟩ := hinv t ht
  obtain ⟨-, hcall⟩ := hcall
  generalize hout : c.run cwd t = out at hcall ⊢
  obtain ⟨answer, t'⟩ := out
  cases hcall with
  | @make p hp _ _ hlast =>
    refine ⟨?_, fun hr => ?_⟩
    · have hrun := hleads.run_makeDirectory hsound hp
      rw [hout] at hrun
      rcases hrun with heq | ⟨hpaved, hsound'⟩
      · rw [show t' = t from heq]
        exact hsame t ht
      · exact hmade t t' ht hpaved hsound'
    · obtain ⟨rfl, rfl⟩ := hlast hr
      exact .inl hout
  | look p hlast =>
    obtain ⟨hanswer, rfl⟩ : t.stat cwd p = answer ∧ t = t' := Prod.mk.inj hout
    refine ⟨hsame t ht, fun hr => .inr ⟨rfl, ?_⟩⟩
    obtain ⟨rfl, rfl⟩ := hlast hr
    rw [FileTree.isDirectory, hanswer]
    rfl

end Directories

end Script

/-! ## Scripts at once -/

namespace Crew

variable {α : Type} {cwd : Place} {inv : FileTree → Prop} {rely : FileTree → FileTree → Prop}
  {step : FileTree → FileTree → Option α → Prop} {c : Crew α}

/-- A tree that satisfies an invariant, and scripts that only take certain steps from there. -/
structure Held (cwd : Place) (inv : FileTree → Prop) (rely : FileTree → FileTree → Prop)
    (step : FileTree → FileTree → Option α → Prop) (c : Crew α) : Prop where
  tree : inv c.tree
  scripts : ∀ s ∈ c.scripts, s.Always cwd inv rely step c.tree

/-- What every step does keeps the others on their way. -/
structure Harmless (inv : FileTree → Prop) (rely : FileTree → FileTree → Prop)
    (step : FileTree → FileTree → Option α → Prop) : Prop where
  keeps : ∀ {t t' : FileTree} {r : Option α}, inv t → step t t' r → inv t' ∧ rely t t'
  refl : ∀ t, rely t t
  trans : ∀ t t' t'', rely t t' → rely t' t'' → rely t t''

/-- **What one turn does**: nothing, or one step of a script that has no result yet. -/
lemma Held.turn (h : c.Held cwd inv rely step) (hstep : Harmless inv rely step) (i : Nat) :
    (c.turn cwd i).Held cwd inv rely step ∧
      (c.turn cwd i = c ∨ ∃ s s', c.scripts[i]? = some s ∧ s.result? = none ∧
        step c.tree (c.turn cwd i).tree s'.result? ∧
        (c.turn cwd i).scripts = c.scripts.set i s') := by
  unfold Crew.turn
  cases hscript : c.scripts[i]? with
  | none => exact ⟨h, .inl rfl⟩
  | some s =>
    have hs := h.scripts s (List.mem_of_getElem? hscript)
    cases s with
    | done a =>
      have hset : c.scripts.set i (.done a) = c.scripts := by
        obtain ⟨hi, hget⟩ := List.getElem?_eq_some_iff.1 hscript
        rw [← hget, List.set_getElem_self]
      simp only [Script.advance, hset]
      exact ⟨h, .inl trivial⟩
    | call op next =>
      obtain ⟨hdone, hnext⟩ := hs c.tree h.tree (hstep.refl _)
      obtain ⟨hinv, hrely⟩ := hstep.keeps h.tree hdone
      refine ⟨⟨hinv, fun s hs => ?_⟩, .inr ⟨_, _, rfl, rfl, hdone, rfl⟩⟩
      rcases List.mem_or_eq_of_mem_set hs with hold | rfl
      · exact (h.scripts s hold).later hrely hstep.trans
      · exact hnext

/-- **What all turns do**: what holds at first and is kept by every turn. -/
lemma Held.run {P : Crew α → Prop} (h : c.Held cwd inv rely step) (hstep : Harmless inv rely step)
    (hturn : ∀ c i, c.Held cwd inv rely step → P c → P (c.turn cwd i)) (hP : P c)
    (turns : List Nat) : (c.run cwd turns).Held cwd inv rely step ∧ P (c.run cwd turns) := by
  induction turns generalizing c with
  | nil => exact ⟨h, hP⟩
  | cons i turns ih => exact ih (h.turn hstep i).1 (hturn c i h hP)

/-! ### Results -/

/-- The results after a turn that took a script without a result one step further. -/
lemma filterMap_result?_set {scripts : List (Script α)} {i : Nat} {s s' : Script α}
    (hs : scripts[i]? = some s) (hnone : s.result? = none) :
    (scripts.set i s').filterMap Script.result? |>.Perm
      (s'.result?.toList ++ scripts.filterMap Script.result?) := by
  induction scripts generalizing i with
  | nil => cases hs
  | cons first rest ih =>
    cases i with
    | zero =>
      obtain rfl : first = s := by simpa using hs
      rw [List.set_cons_zero, List.filterMap_cons, List.filterMap_cons, hnone]
      cases s'.result? <;> exact .refl _
    | succ i =>
      have hrest := ih (by simpa using hs)
      rw [List.set_cons_succ, List.filterMap_cons, List.filterMap_cons]
      cases first.result? with
      | none => exact hrest
      | some a => exact (hrest.cons a).trans (List.perm_middle.symm)

/-! ### The end -/

/-- A script can be taken to its end by its own turns. -/
lemma exists_result (cwd : Place) {s : Script α} {c : Crew α} {i : Nat}
    (hs : c.scripts[i]? = some s) :
    ∃ turns s', (c.run cwd turns).scripts = c.scripts.set i s' ∧ s'.result?.isSome = true := by
  induction s generalizing c with
  | done a =>
    obtain ⟨hi, hget⟩ := List.getElem?_eq_some_iff.1 hs
    exact ⟨[], .done a, by rw [← hget, List.set_getElem_self]; rfl, rfl⟩
  | call op next ih =>
    have hturn : (c.turn cwd i).scripts = c.scripts.set i (next (op.run cwd c.tree).1) := by
      rw [turn, hs]
      rfl
    have hi : i < c.scripts.length := (List.getElem?_eq_some_iff.1 hs).1
    obtain ⟨turns, s', hscripts, hresult⟩ := ih (op.run cwd c.tree).1 (c := c.turn cwd i)
      (by rw [hturn, List.getElem?_set_self hi])
    exact ⟨i :: turns, s', by rw [run, List.foldl_cons, ← run, hscripts, hturn, List.set_set],
      hresult⟩

/-- Some turns after others are all of them in a row. -/
lemma run_append (cwd : Place) (c : Crew α) (turns more : List Nat) :
    c.run cwd (turns ++ more) = (c.run cwd turns).run cwd more :=
  List.foldl_append ..

/-- Turns start no scripts and end none. -/
lemma length_scripts_run (cwd : Place) (c : Crew α) (turns : List Nat) :
    (c.run cwd turns).scripts.length = c.scripts.length := by
  induction turns generalizing c with
  | nil => rfl
  | cons i turns ih =>
    refine (ih (c.turn cwd i)).trans ?_
    unfold turn
    split
    · rfl
    · exact List.length_set

/-- **Every crew can come to its end**, whatever has happened. -/
lemma exists_isDone (cwd : Place) (c : Crew α) : ∃ turns, (c.run cwd turns).isDone = true := by
  -- the first scripts are brought to their ends one after another, and none of them is left again
  have hfirst : ∀ n : Nat, ∃ turns : List Nat, ∀ i < n, ∀ s : Script α,
      (c.run cwd turns).scripts[i]? = some s → s.result?.isSome = true := by
    intro n
    induction n with
    | zero => exact ⟨[], fun i hi => absurd hi (Nat.not_lt_zero i)⟩
    | succ n ih =>
      obtain ⟨turns, hturns⟩ := ih
      cases hn : (c.run cwd turns).scripts[n]? with
      | none =>
        refine ⟨turns, fun i hi s hs => ?_⟩
        rcases Nat.lt_succ_iff_lt_or_eq.1 hi with hlt | rfl
        · exact hturns i hlt s hs
        · rw [hn] at hs
          cases hs
      | some s =>
        obtain ⟨more, s', hscripts, hresult⟩ := exists_result cwd hn
        refine ⟨turns ++ more, fun i hi x hx => ?_⟩
        rw [run_append, hscripts, List.getElem?_set] at hx
        split_ifs at hx with hsame hbound
        · cases hx
          exact hresult
        · exact hturns i (by omega) x hx
  obtain ⟨turns, hturns⟩ := hfirst c.scripts.length
  refine ⟨turns, List.all_eq_true.2 fun s hs => ?_⟩
  obtain ⟨i, hi, hget⟩ := List.getElem_of_mem hs
  rw [length_scripts_run] at hi
  exact hturns i hi s (List.getElem?_eq_some_iff.2 ⟨_, hget⟩)

/-- All scripts have a result once they are done. -/
lemma length_results (h : c.isDone = true) : c.results.length = c.scripts.length := by
  rw [isDone, List.all_eq_true] at h
  rw [results]
  generalize c.scripts = scripts at h
  induction scripts with
  | nil => rfl
  | cons s rest ih =>
    obtain ⟨a, ha⟩ := Option.isSome_iff_exists.1 (h s List.mem_cons_self)
    rw [List.filterMap_cons, ha, List.length_cons, List.length_cons,
      ih fun s hs => h s (List.mem_cons_of_mem _ hs)]

end Crew

end CommandRelay
