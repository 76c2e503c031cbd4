import CommandRelay.Proofs.Files.Interference

/-!
# Making directories

A script that makes a directory with its missing parents, on a path that leads to a place: nothing
but directories on the way is made, and the directory is there at the end if the script succeeds.
On a path that something bars the script fails and changes nothing.

## Main definitions

* `FileTree.Barred` — something other than a missing directory bars a path.

## Main results

* `FileTree.PathLeads.run_makeDirectories` — what the script makes.
* `FileTree.PathLeads.run_makeDirectories_there` — a directory that is there will do.
* `FileTree.Barred.run_makeDirectories` — nothing is made on a path that is barred.
* `FileTree.Barred.within` — it is barred in every larger tree.
-/

namespace CommandRelay.FileTree

variable {t t' : FileTree} {cwd place : Place} {path : String}

namespace PathLeads

/-- Directories that are made on the way to a place do not lead a path there astray. -/
lemma paved (h : t.PathLeads cwd path place) {p : Place} (hpaved : Paved p t t')
    (hsound : t'.Sound) : t'.PathLeads cwd path place := by
  refine h.grow hsound hpaved.within fun q hnone => ?_
  rcases hpaved q with hsame | ⟨-, -, hmade⟩
  · exact .inl (hsame.trans hnone)
  · exact .inr hmade

/-- **Making a directory with its missing parents** makes directories on the way to the place that
its path leads to, and the one there if it succeeds. -/
lemma run_makeDirectories (h : t.PathLeads cwd path place) (hsound : t.Sound) :
    let out := (Script.makeDirectories path).run cwd t
    out.2.Sound ∧ Paved place t out.2 ∧ (out.1 = .ok () → out.2.node? place = some .directory) := by
  intro out
  set inv : FileTree → Prop := fun t => t.Sound ∧ t.PathLeads cwd path place
  set rel : FileTree → FileTree → Prop := fun t t' => t'.Sound ∧ Paved place t t'
  have hkeep : ∀ t t' (r : Option (Except FileError Unit)), inv t →
      Script.Making cwd rel path t t' r → inv t' := fun t t' r hinv hstep =>
    ⟨hstep.1.1, hinv.2.paved hstep.1.2 hstep.1.1⟩
  have halways : (Script.makeDirectories path).Always cwd inv Eq (Script.Making cwd rel path) t :=
    Script.always_makeDirectories (fun _ hinv => hinv) (fun t hinv => ⟨hinv.1, .refl _ _⟩)
      (fun _ _ _ hpaved hsound => ⟨hsound, hpaved⟩) t
  obtain ⟨hinv, hpaved⟩ := halways.run (fun _ => rfl) hkeep ⟨hsound, h⟩
    (fun t t' r _ hstep => hstep.1.2) (.refl _) (fun _ _ _ hrel hrel' => hrel.trans hrel')
  refine ⟨hinv.1, hpaved, fun hdone => ?_⟩
  obtain ⟨t₁, hinv₁, -, harrived⟩ := halways.run_last (fun _ => rfl) hkeep ⟨hsound, h⟩
    (Script.result?_makeDirectories h.path_ne_empty)
  rcases harrived (congrArg some hdone) with hmade | ⟨hsame, hthere⟩
  · exact hinv₁.2.directory_of_makeDirectory hinv₁.1 hmade
  · have hout : out.2 = t₁ := hsame
    rw [hout]
    exact hinv₁.2.directory_of_isDirectory hthere

end PathLeads

/-! ## Directories that are there, and paths that are barred -/

/-- Making a directory where something stands comes down to whether it is a directory. -/
lemma run_makeDirectories_of_ne_notFound (hpath : path ≠ "") {e : FileError}
    (hrun : (FileCall.makeDirectory path).run cwd t = (.error e, t)) (he : e ≠ .notFound) :
    (Script.makeDirectories path).run cwd t =
      (if t.isDirectory cwd path then .ok () else .error e, t) := by
  rw [Script.makeDirectories, if_neg (by simpa using hpath), Path.lineage, Script.makeAncestors,
    Script.run_bind]
  have hfirst : (Script.makeDirectory path).run cwd t = (.error e, t) := hrun
  rw [hfirst]
  have hcheck : (do if ← Script.isDirectory path then return .ok () else return .error e :
      Script (Except FileError Unit)).run cwd t =
        (if t.isDirectory cwd path then .ok () else .error e, t) := by
    rw [Script.run_bind, Script.isDirectory, Script.run_bind, Script.run_stat, FileTree.isDirectory]
    cases t.stat cwd path with
    | error e => rfl
    | ok n => cases n <;> rfl
  cases e with
  | notFound => exact absurd rfl he
  | _ => exact hcheck

/-- A path that leads somewhere, or is stopped by something other than that nothing is there, names
something that is there or is stopped for such a reason before its last name.

**Proof sketch.** A path that is no way fails in both.  A way without names stands for its start,
which has to be there.  Otherwise resolving walks along all names: what stops the walk before the
last name, or at it, stops both, and so not for the reason that something is missing.  If nothing
stood at the last name, resolving would fail for this very reason. -/
lemma locate_of_resolve (hresolve : t.resolve cwd path ≠ .error .notFound)
    (hsome : ∀ p, t.resolve cwd path = .ok p → (t.node? p).isSome = true) :
    (∃ e, t.locate cwd path = .error e ∧ e ≠ .notFound) ∨
      ∃ p, t.locate cwd path = .ok p ∧ (t.node? p).isSome = true := by
  cases hway : Way.ofPath cwd path with
  | error e =>
    have hresolve' : t.resolve cwd path = .error e := by simp [resolve, hway, bind, Except.bind]
    refine .inl ⟨e, by simp [locate, hway, bind, Except.bind], ?_⟩
    rintro rfl
    exact hresolve hresolve'
  | ok w =>
    have hwalk : t.resolve cwd path =
        t.walk maxLinks w.start (w.names ++ if w.slash then ["."] else []) := by
      simp [resolve, resolveWay, hway, bind, Except.bind]
    rw [hwalk] at hresolve hsome
    obtain hnil | ⟨front, name, hnames⟩ := List.eq_nil_or_concat w.names
    · -- without names the path stands for its start
      refine .inr ⟨w.start, by simp [locate, hway, hnil, bind, Except.bind, pure, Except.pure], ?_⟩
      cases hnode : t.node? w.start with
      | some n => rfl
      | none =>
        rw [hnil, List.nil_append] at hresolve hsome
        split_ifs at hresolve hsome with hslash
        · refine absurd ?_ hresolve
          rw [walk.eq_def]
          simp [stride, child, hnode]
        · simpa [hnode] using hsome w.start (walk_nil _ _ _)
    · rw [List.concat_eq_append] at hnames
      have hlocate : t.locate cwd path = _ := locate_eq hway hnames
      -- what stops the walk at its names stops the whole of it
      have hstops : ∀ e, t.walk maxLinks w.start (front ++ [name]) = .error e → e ≠ .notFound := by
        rintro e herror rfl
        rw [← hnames] at herror
        exact hresolve (walk_append_error herror _)
      cases hfront : t.walk maxLinks w.start front with
      | error e =>
        rw [hfront] at hlocate
        exact .inl ⟨e, hlocate, hstops e (walk_append_error hfront _)⟩
      | ok here =>
        rw [hfront] at hlocate
        cases hchild : t.child here name with
        | error e => exact .inl ⟨e, hlocate.trans hchild,
            hstops e (walk_snoc_child_error hfront hchild)⟩
        | ok p =>
          refine .inr ⟨p, hlocate.trans hchild, ?_⟩
          cases hnode : t.node? p with
          | none => exact absurd rfl (hstops _ (walk_snoc_error hfront hchild hnode))
          | some n => rfl

/-- **Making a directory on a path that leads somewhere**, or is stopped by something other than
that nothing is there, changes nothing; it comes down to whether the path leads to a directory. -/
lemma run_makeDirectories_of_resolve (hpath : path ≠ "")
    (hresolve : t.resolve cwd path ≠ .error .notFound)
    (hsome : ∀ p, t.resolve cwd path = .ok p → (t.node? p).isSome = true) :
    ∃ e, (Script.makeDirectories path).run cwd t =
      (if t.isDirectory cwd path then .ok () else .error e, t) := by
  rcases locate_of_resolve hresolve hsome with ⟨e, hlocate, he⟩ | ⟨p, hlocate, hthere⟩
  · refine ⟨e, run_makeDirectories_of_ne_notFound hpath ?_ he⟩
    rw [FileCall.run, hlocate]
    rfl
  · refine ⟨.alreadyExists, run_makeDirectories_of_ne_notFound hpath ?_ (by decide)⟩
    rw [FileCall.run, hlocate, FileCall.atPlace, FileCall.putNew, if_pos hthere]
    rfl

/-- **A directory that is there** need not be made. -/
lemma PathLeads.run_makeDirectories_there (h : t.PathLeads cwd path place)
    (hplace : t.node? place = some .directory) :
    (Script.makeDirectories path).run cwd t = (.ok (), t) := by
  have hresolve := h.resolve_eq hplace
  have hfound : t.resolve cwd path ≠ .error .notFound := by simp [hresolve]
  obtain ⟨e, hrun⟩ := run_makeDirectories_of_resolve h.path_ne_empty hfound fun p hp => by
    rw [hresolve, Except.ok.injEq] at hp
    simp [← hp, hplace]
  have hthere : t.isDirectory cwd path = true := by
    simp [isDirectory, stat, hresolve, hplace, bind, Except.bind, pure, Except.pure,
      Node.isDirectory]
  rw [hrun, hthere]
  rfl

/-- Something bars a path: it leads to what is no directory, or the walk along it is stopped by
something other than that nothing is there. -/
def Barred (t : FileTree) (cwd : Place) (path : String) : Prop :=
  (∃ e, e ≠ .notFound ∧ t.resolve cwd path = .error e) ∨
    ∃ p n, n ≠ .directory ∧ t.resolve cwd path = .ok p ∧ t.node? p = some n

namespace Barred

/-- **A path that is barred** is barred in every larger tree. -/
lemma within (h : t.Barred cwd path) (hwithin : t.Within t') : t'.Barred cwd path := by
  have hway : ∀ {x : Except FileError Place}, t.resolve cwd path = x → x ≠ .error .notFound →
      t'.resolve cwd path = x := by
    intro x hx hne
    unfold resolve at hx ⊢
    cases hw : Way.ofPath cwd path with
    | error e =>
      rw [hw] at hx
      exact hx
    | ok w =>
      rw [hw] at hx
      cases x with
      | ok p => exact hwithin.walk hx
      | error e => exact hwithin.walk_error hx fun he => hne (congrArg _ he)
  rcases h with ⟨e, he, hresolve⟩ | ⟨p, n, hn, hresolve, hnode⟩
  · exact .inl ⟨e, he, hway hresolve (by simpa using he)⟩
  · exact .inr ⟨p, n, hn, hway hresolve nofun, hwithin _ _ hnode⟩

/-- A path that is barred does not merely lead to nothing. -/
lemma ne_notFound (h : t.Barred cwd path) : t.resolve cwd path ≠ .error .notFound := by
  rcases h with ⟨e, he, hresolve⟩ | ⟨p, n, -, hresolve, -⟩
  · rw [hresolve]
    exact fun h => he (Except.error.inj h)
  · rw [hresolve]
    exact nofun

/-- Where a path that is barred leads to, something stands. -/
lemma isSome (h : t.Barred cwd path) (p : Place) (hp : t.resolve cwd path = .ok p) :
    (t.node? p).isSome = true := by
  rcases h with ⟨e, -, hresolve⟩ | ⟨q, n, -, hresolve, hnode⟩
  · rw [hresolve] at hp
    cases hp
  · rw [hresolve, Except.ok.injEq] at hp
    simp [← hp, hnode]

/-- What the system does not take for a path is barred, but for the empty text. -/
lemma of_not_isPath (hne : path ≠ "") (h : ¬Path.IsPath path) : t.Barred cwd path := by
  cases hway : Way.ofPath cwd path with
  | ok w => exact absurd (Path.exists_way_iff.1 ⟨w, hway⟩) h
  | error e =>
    refine .inl ⟨e, ?_, by simp [resolve, hway, bind, Except.bind]⟩
    rintro rfl
    have hchars : path.toList.isEmpty = false := by
      rw [← Bool.not_eq_true, List.isEmpty_iff, String.toList_eq_nil_iff]
      exact hne
    unfold Way.ofPath at hway
    dsimp only at hway
    simp only [hchars, Bool.false_eq_true, if_false] at hway
    split_ifs at hway <;> cases hway

/-- A path that is barred is not empty. -/
lemma path_ne_empty (h : t.Barred cwd path) : path ≠ "" := by
  rintro rfl
  exact h.ne_notFound rfl

/-- **Nothing is made on a path that is barred.** -/
lemma run_makeDirectories (h : t.Barred cwd path) (hpath : path ≠ "") :
    ∃ e, (Script.makeDirectories path).run cwd t = (.error e, t) := by
  have hno : t.isDirectory cwd path = false := by
    rcases h with ⟨e, -, hresolve⟩ | ⟨p, n, hn, hresolve, hnode⟩
    · simp [isDirectory, stat, hresolve, bind, Except.bind]
    · cases n with
      | directory => exact absurd rfl hn
      | _ =>
        simp [isDirectory, stat, hresolve, hnode, bind, Except.bind, pure, Except.pure,
          Node.isDirectory]
  obtain ⟨e, hrun⟩ := run_makeDirectories_of_resolve hpath h.ne_notFound h.isSome
  exact ⟨e, by rw [hrun, hno]; rfl⟩

end Barred

end CommandRelay.FileTree
