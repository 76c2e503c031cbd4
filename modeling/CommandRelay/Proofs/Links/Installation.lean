import CommandRelay.Proofs.Files.Parents
import CommandRelay.Proofs.Links.Building
import CommandRelay.Proofs.Links.Calls

/-!
# Installing the links that are always there

The two directories of links that are always there are made anew one after the other.  Each of them
is replaced as a whole or stays what it was, and nothing else changes but that missing directories
above them are made.

## Main definitions

* `LinkRegistry.Aims` — where the directory of a path is to stand.
* `LinkRegistry.InstallsAt` — a registry whose two directories are to stand apart from each other.
* `LinkRegistry.Around` — what changes outside some places.
* `LinkRegistry.Ready` — what a path and its links have to satisfy to be installed again.

## Main results

* `LinkRegistry.run_installSet_of_ends` — one directory is replaced, or stays what it was.
* `LinkRegistry.InstallsAt.keep` — changes after which the directories are to stand where they were.
* `LinkRegistry.installDefaults_whole` — both directories.
-/

namespace CommandRelay.LinkRegistry

open FileTree

variable {t t₁ t' t'' : FileTree} {cwd here place : Place} {dir target name : String}
  {names : List String}

/-! ## Changes around places -/

/-- Outside some places nothing changes but that missing directories on the way to them are made. -/
def Around (places : List Place) (t t' : FileTree) : Prop :=
  ∀ q, (∀ p ∈ places, ¬p <+: q) → t'.node? q = t.node? q ∨
    ((∃ p ∈ places, q <+: p) ∧ t.node? q = none ∧ t'.node? q = some .directory)

namespace Around

variable {places : List Place}

/-- Nothing need have changed. -/
lemma refl (places : List Place) (t : FileTree) : Around places t t := fun _ _ => .inl rfl

/-- Changes around places one after another are changes around them. -/
lemma trans (h : Around places t t') (h' : Around places t' t'') : Around places t t'' := by
  intro q hq
  rcases h' q hq with hsame' | ⟨hway, hnone, hmade⟩
  · rw [hsame']
    exact h q hq
  · rcases h q hq with hsame | ⟨-, -, hthere⟩
    · exact .inr ⟨hway, hsame ▸ hnone, hmade⟩
    · rw [hnone] at hthere
      cases hthere

/-- There are fewer places outside more. -/
lemma mono {more : List Place} (h : Around places t t') (hmore : ∀ p ∈ places, p ∈ more) :
    Around more t t' := by
  intro q hq
  refine (h q fun p hp => hq p (hmore p hp)).imp id fun ⟨⟨p, hp, hway⟩, hmade⟩ => ?_
  exact ⟨⟨p, hmore p hp, hway⟩, hmade⟩

/-- What stands at a place apart from the only one that changes stays what it was. -/
lemma node?_eq {p : Place} (h : Around [place] t t') (hplace : ¬place <+: p) (hp : ¬p <+: place)
    {q : Place} (hq : p <+: q) : t'.node? q = t.node? q := by
  have hbelow : ¬place <+: q := fun hunder =>
    (List.prefix_or_prefix_of_prefix hunder hq).elim hplace hp
  refine (h q (by simpa using hbelow)).resolve_right fun ⟨hway, _⟩ => hp (hq.trans ?_)
  simpa using hway

/-- Directories are made on the way to a place. -/
lemma of_paved (h : Paved here t t') (name : String) : Around [here ++ [name]] t t' := by
  intro q _
  refine (h q).imp id fun ⟨hway, hmade⟩ => ?_
  exact ⟨⟨_, List.mem_singleton_self _, hway.trans (List.prefix_append _ _)⟩, hmade⟩

end Around

/-! ## One directory -/

/-- A path has a parent that the system takes for a path, and links of some names can stand in a
temporary directory beside it. -/
structure Ready (target dir : String) (names : List String) : Prop where
  parent : parentOf dir = "" ∨ Path.IsPath (parentOf dir)
  short : ∀ i, (Path.join (parentOf dir) (FileCall.temporaryName temporaryStem i)).utf8ByteSize <
    Way.maxPath
  fits : ∀ i, ∀ name ∈ names,
    Fits target (Path.join (parentOf dir) (FileCall.temporaryName temporaryStem i)) name

/-- A directory can hold every temporary name. -/
lemma isFileName_temporary (i : Nat) : IsFileName (FileCall.temporaryName temporaryStem i) :=
  FileCall.isFileName_temporaryName (by decide) (by decide) (by decide) i

/-- What fits in one temporary directory fits in all of them. -/
lemma Ready.of_one {i : Nat} (hnames : ∀ name ∈ names, IsFileName name)
    (hparent : parentOf dir = "" ∨ Path.IsPath (parentOf dir))
    (hshort : (Path.join (parentOf dir) (FileCall.temporaryName temporaryStem i)).utf8ByteSize <
      Way.maxPath)
    (hfits : ∀ name ∈ names,
      Fits target (Path.join (parentOf dir) (FileCall.temporaryName temporaryStem i)) name) :
    Ready target dir names := by
  have hsize : ∀ j,
      (Path.join (parentOf dir) (FileCall.temporaryName temporaryStem j)).utf8ByteSize =
      (Path.join (parentOf dir) (FileCall.temporaryName temporaryStem i)).utf8ByteSize := fun j =>
    Path.utf8ByteSize_join_congr _ (isFileName_temporary j).isName.noSlash
      (isFileName_temporary i).isName.noSlash
      (by rw [FileCall.utf8ByteSize_temporaryName, FileCall.utf8ByteSize_temporaryName])
  refine ⟨hparent, fun j => by rw [hsize]; exact hshort, fun j name hname => ?_⟩
  obtain ⟨htarget, hlink⟩ := hfits name hname
  refine ⟨htarget, ?_⟩
  have hslash := (hnames name hname).isName.noSlash
  have hjoin : ∀ k, Path.join (Path.join (parentOf dir)
      (FileCall.temporaryName temporaryStem k)) name =
        Path.join (parentOf dir) (FileCall.temporaryName temporaryStem k) ++ "/" ++ name := fun k =>
    Path.join_join _ (isFileName_temporary k).isName.noSlash
      (isFileName_temporary k).isName.text_ne_empty hslash
  rw [hjoin, String.utf8ByteSize_append, String.utf8ByteSize_append] at hlink ⊢
  rwa [hsize]

/-- The path above is the one that the program computes. -/
lemma parent?_eq (h : t.Ends cwd dir here name) : Path.parent? dir = some (parentOf dir) := by
  obtain ⟨parent, hparent, -⟩ := h.exists_parent
  rw [parentOf, hparent]
  rfl

/-- A temporary directory is about to be made beside the place of a directory. -/
lemma workplace_of_makeUnder (hsound : t.Sound)
    (h : (t.eraseBelow (here ++ [name])).Ends cwd dir here name)
    (hparent : parentOf dir = "" ∨ Path.IsPath (parentOf dir))
    (hdirectory : t.node? here = some .directory) {i : Nat} {p : Place}
    (hlocate : t.locate cwd (Path.join (parentOf dir) (FileCall.temporaryName temporaryStem i)) =
      .ok p)
    (hnone : t.node? p = none) :
    p = here ++ [FileCall.temporaryName temporaryStem i] ∧
      Workplace t cwd dir (Path.join (parentOf dir) (FileCall.temporaryName temporaryStem i))
        here name
        (FileCall.temporaryName temporaryStem i) := by
  have hhere : (t.eraseBelow (here ++ [name])).node? here = some .directory := by
    rw [node?_eraseBelow _ (by simp), if_neg (not_prefix_of_concat here name), hdirectory]
  obtain ⟨w, hw⟩ := exists_way hlocate
  have htemporary := (h.enters (parent?_eq h) hhere hparent).names (isFileName_temporary i)
    (Path.ofPath_eq_ok.1 hw).2.2.1
  have hplace := (htemporary.within (.eraseBelow (by simp))).locate_eq
  rw [hlocate, Except.ok.injEq] at hplace
  subst hplace
  exact ⟨rfl, hsound, h.names hhere, htemporary, hnone⟩

/-- The steps of making a directory anew. -/
lemma run_installSet_eq (target dir : String) (names : List String) (cwd : Place) (t : FileTree) :
    (installSet target dir names).run cwd t =
      match (Script.makeDirectories (parentOf dir)).run cwd t with
      | (.error e, t₁) => (.error (.file (parentOf dir) e), t₁)
      | (.ok (), t₁) =>
        match FileCall.makeUnder t₁ cwd (parentOf dir) temporaryStem FileCall.temporaryNames with
        | (.error e, t₂) => (.error (.file (parentOf dir) e), t₂)
        | (.ok temporary, t₂) =>
          let out := (replace target dir names temporary).run cwd t₂
          (out.1, ((Script.removeAll temporary).run cwd out.2).2) := by
  rw [installSet]
  simp only [Script.run_bind]
  rcases (Script.makeDirectories (parentOf dir)).run cwd t with ⟨e | _, t₁⟩
  · rfl
  · simp only [Script.run_bind, Script.run_makeTemporary]
    generalize FileCall.temporaryNames = n
    rcases FileCall.makeUnder t₁ cwd (parentOf dir) temporaryStem n with ⟨e | temporary, t₂⟩
    · rfl
    · simp only [Script.run_bind, Script.run_pure]

/-- What a call to make a directory of links anew does, from its answer and the trees before and
after it. -/
structure Whole (target : String) (names : List String) (place : Place) (t : FileTree)
    (answer : Except LinkError Unit) (t' : FileTree) : Prop where
  sound : t'.Sound
  around : Around [place] t t'
  /-- It is replaced as a whole. -/
  replaced : answer = .ok () → t'.Holds place names target
  /-- It stays what it was. -/
  kept : ∀ e, answer = .error e → ∀ q, place <+: q → t'.node? q = t.node? q

/-- Nothing has been done but that directories were made above the place. -/
lemma Whole.of_paved {e : LinkError} (hsound : t₁.Sound) (hpaved : Paved here t t₁)
    (hsame : ∀ q, t'.node? q = t₁.node? q) :
    Whole target names (here ++ [name]) t (.error e) t' where
  sound := hsound.congr hsame
  around q hq := by
    rw [hsame]
    exact Around.of_paved hpaved name q hq
  replaced := nofun
  kept _ _ q hq := (hsame q).trans
    (hpaved.node?_eq fun hway => not_prefix_of_concat here name (hq.trans hway))

/-- A path ends at the same place after directories are made on the way there, whatever stands at
the place. -/
lemma ends_of_paved (hsound : t₁.Sound) (hpaved : Paved here t t₁)
    (h : (t.eraseBelow (here ++ [name])).Ends cwd dir here name) :
    (t₁.eraseBelow (here ++ [name])).Ends cwd dir here name := by
  refine h.grow (hsound.eraseBelow (by simp)) (fun q n hnode => ?_) (fun q hnone => ?_)
  · rw [node?_eraseBelow _ (by simp)] at hnode ⊢
    split_ifs at hnode ⊢
    exact hpaved.within _ _ hnode
  · rw [node?_eraseBelow _ (by simp)] at hnone ⊢
    split_ifs at hnone ⊢
    · exact .inl rfl
    · exact (hpaved q).imp (fun hsame => hsame.trans hnone) fun hnew => hnew.2.2

/-- **One directory is replaced as a whole or stays what it was**, and around it only missing
directories above it are made.  A directory that is there is replaced again if it is ready and a
temporary name is free.

**Proof sketch.** First the directory above is made, which only paves the way.  If it cannot be made
or no temporary directory can, the tree is the same but for that, and a place that is ready rules
both out.  Otherwise the temporary directory is filled and takes the place as a whole, or nothing
changes there (`Workplace.run_replace`). -/
lemma run_installSet_of_ends (hsound : t.Sound)
    (h : (t.eraseBelow (here ++ [name])).Ends cwd dir here name) (hnodup : names.Nodup)
    (hnames : ∀ x ∈ names, IsFileName x) :
    let out := (installSet target dir names).run cwd t
    Whole target names (here ++ [name]) t out.1 out.2 ∧
      (out.1 = .ok () → Ready target dir names) ∧
      (t.node? (here ++ [name]) = some .directory → Ready target dir names →
        (∃ i < FileCall.temporaryNames,
          t.node? (here ++ [FileCall.temporaryName temporaryStem i]) = none) → out.1 = .ok ()) := by
  have hends : t.Ends cwd dir here name :=
    .of_eraseBelow (by simp) h (not_prefix_of_concat here name)
  obtain ⟨hsound₁, hpaved, hmade⟩ := hends.run_makeParent hsound (parent?_eq h)
  have hthere : t.node? (here ++ [name]) = some .directory → Ready target dir names →
      (Script.makeDirectories (parentOf dir)).run cwd t = (.ok (), t) := fun hplace hready =>
    hends.run_makeParent_there (parent?_eq h) (hsound.parent hplace) hready.parent
  rw [run_installSet_eq]
  generalize FileCall.temporaryNames = n
  generalize (Script.makeDirectories (parentOf dir)).run cwd t = made
    at hsound₁ hpaved hmade hthere
  obtain ⟨e | _, t₁⟩ := made
  · -- the directory above cannot be made, which it need not be if the place is a directory
    refine ⟨.of_paved hsound₁ hpaved fun _ => rfl, nofun, fun hplace hready _ => ?_⟩
    exact absurd (congrArg Prod.fst (hthere hplace hready)) nofun
  dsimp only at hsound₁ hpaved
  obtain ⟨hdirectory, hparent⟩ := hmade rfl
  dsimp only at hdirectory
  have hends₁ := ends_of_paved hsound₁ hpaved h
  rcases FileCall.makeUnder_cases t₁ cwd (parentOf dir) temporaryStem n with
    ⟨e, hmakes⟩ | ⟨i, p, hlocate, hnone, hmakes⟩
  · -- no temporary directory can be made, which it can if a name is free
    simp only [hmakes]
    refine ⟨.of_paved hsound₁ hpaved fun _ => rfl, nofun, fun hplace hready hfree => ?_⟩
    obtain rfl : t₁ = t := congrArg Prod.snd (hthere hplace hready)
    have henters := hends.enters (parent?_eq h) hdirectory hparent
    refine absurd (congrArg Prod.fst hmakes) (FileCall.makeUnder_ok (fun i => ?_) hfree e)
    exact (henters.names (isFileName_temporary i) (hready.short i)).locate_eq
  · -- the temporary directory takes the place, or it goes away with all that was put into it
    obtain ⟨rfl, hwork⟩ := workplace_of_makeUnder hsound₁ hends₁ hparent hdirectory hlocate hnone
    obtain ⟨w, hw⟩ := exists_way hlocate
    have hshort := (Path.ofPath_eq_ok.1 hw).2.2.1
    simp only [hmakes]
    rcases hwork.run_replace hnodup hnames with
      ⟨hok, hfits, hholds, hrest⟩ | ⟨⟨e, herror⟩, hsame, hno⟩
    · rw [hok]
      refine ⟨⟨hsound₁.of_holds hdirectory h.fileName hholds hnames hrest, fun q hq => ?_,
        fun _ => hholds, nofun⟩, fun _ => .of_one hnames hparent hshort hfits, fun _ _ _ => rfl⟩
      rw [hrest q (hq _ (List.mem_singleton_self _))]
      exact Around.of_paved hpaved name q hq
    · rw [herror]
      refine ⟨.of_paved hsound₁ hpaved hsame, nofun, fun hplace hready _ => ?_⟩
      refine absurd ?_ (hno (hready.fits i))
      rw [hpaved.within _ _ hplace]

/-- Where the directory of a path is to stand: the path ends in its name there, and the names before
it lead to the directory above, or that one's path is barred. -/
inductive Aims (t : FileTree) (cwd : Place) (dir : String) : Place → Prop where
  | ends {here : Place} {name : String} (h : t.Ends cwd dir here name) :
      Aims t cwd dir (here ++ [name])
  | barred {place : Place} (h : t.Barred cwd (parentOf dir)) : Aims t cwd dir place

namespace Aims

/-- Directories that are made on the way leave the aim where it is. -/
lemma grow (h : Aims t cwd dir place) (hsound : t'.Sound) (hwithin : t.Within t')
    (hnew : ∀ q, t.node? q = none → t'.node? q = none ∨ t'.node? q = some .directory) :
    Aims t' cwd dir place := by
  cases h with
  | ends h => exact .ends (h.grow hsound hwithin hnew)
  | barred h => exact .barred (h.within hwithin)

/-- What stands at a place and below it does not matter to an aim that is not there. -/
lemma of_eraseBelow {u : Place} (hne : u ≠ []) (h : Aims (t.eraseBelow u) cwd dir place)
    (hplace : ¬u <+: place) : Aims t cwd dir place := by
  cases h with
  | ends h =>
    exact .ends (.of_eraseBelow hne h fun hu => hplace (hu.trans (List.prefix_append _ _)))
  | barred h => exact .barred (h.within (.eraseBelow hne))

end Aims

/-- **One directory**, whatever its path is like. -/
lemma run_installSet (hsound : t.Sound) (hne : place ≠ [])
    (h : Aims (t.eraseBelow place) cwd dir place) (hnodup : names.Nodup)
    (hnames : ∀ x ∈ names, IsFileName x) :
    Whole target names place t ((installSet target dir names).run cwd t).1
      ((installSet target dir names).run cwd t).2 := by
  cases h with
  | ends h => exact (run_installSet_of_ends hsound h hnodup hnames).1
  | barred h =>
    have hbarred : t.Barred cwd (parentOf dir) := h.within (.eraseBelow hne)
    obtain ⟨e, hrun⟩ := hbarred.run_makeDirectories hbarred.path_ne_empty
    rw [run_installSet_eq, hrun]
    exact ⟨hsound, .refl _ _, nofun, fun _ _ _ _ => rfl⟩

/-! ## Both directories -/

/-- A tree without what stands at two places and below them. -/
def outside (t : FileTree) (d p : Place) : FileTree := (t.eraseBelow d).eraseBelow p

/-- Outside two places there is what stands at neither of them nor below. -/
lemma node?_outside {d p : Place} (hd : d ≠ []) (hp : p ≠ []) (q : Place) :
    (outside t d p).node? q = if d <+: q ∨ p <+: q then none else t.node? q := by
  rw [outside, node?_eraseBelow _ hp, node?_eraseBelow _ hd]
  split_ifs <;> simp_all

section Outside

variable {d p : Place} (hd : d ≠ []) (hp : p ≠ []) (hsound : t'.Sound)
  (haround : Around [d, p] t t')

include hd hp haround

/-- What is left of a tree outside two places is part of what is left of it later. -/
lemma within_outside : (outside t d p).Within (outside t' d p) := by
  intro q n hnode
  rw [node?_outside hd hp] at hnode ⊢
  split_ifs at hnode ⊢ with hq
  rcases haround q (by simpa using hq) with hsame | ⟨-, hnone, -⟩
  · rw [hsame, hnode]
  · rw [hnone] at hnode
    cases hnode

/-- What is new outside the two places is a directory. -/
lemma new_outside (q : Place) (hnone : (outside t d p).node? q = none) :
    (outside t' d p).node? q = none ∨ (outside t' d p).node? q = some .directory := by
  rw [node?_outside hd hp] at hnone ⊢
  split_ifs at hnone ⊢ with hq
  · exact .inl rfl
  · exact (haround q (by simpa using hq)).imp (fun hsame => hsame.trans hnone) fun hnew => hnew.2.2

include hsound

/-- Both aims stay where they are. -/
lemma Aims.outside {dir : String} (h : Aims (outside t d p) cwd dir place) :
    Aims (outside t' d p) cwd dir place :=
  h.grow ((hsound.eraseBelow hd).eraseBelow hp) (within_outside hd hp haround)
    (new_outside hd hp haround)

/-- **A directory that was installed can be installed again**, and then the tree stays what it is.

**Proof sketch.** The path was not barred, since it was installed.  So it ends in its name, and what
was proved of the first installation says that the directory is ready; the second one starts at a
directory that is there and is therefore successful.  It puts there what is there, and no missing
directory is above one that is there. -/
lemma installSet_again (hapart : ¬p <+: d) (ht : t.Sound) (h : Aims (outside t d p) cwd dir d)
    (hnodup : names.Nodup) (hnames : ∀ x ∈ names, IsFileName x)
    (hok : ((installSet target dir names).run cwd t).1 = .ok ())
    (hholds : t'.Holds d names target)
    (hfree : ∀ here, ∃ i < FileCall.temporaryNames,
      t'.node? (here ++ [FileCall.temporaryName temporaryStem i]) = none) :
    ((installSet target dir names).run cwd t').1 = .ok () ∧
      ∀ q, ((installSet target dir names).run cwd t').2.node? q = t'.node? q := by
  cases h with
  | barred h =>
    have hbarred : t.Barred cwd (parentOf dir) :=
      h.within ((Within.eraseBelow hp).trans (.eraseBelow hd))
    obtain ⟨e, hrun⟩ := hbarred.run_makeDirectories hbarred.path_ne_empty
    rw [run_installSet_eq, hrun] at hok
    cases hok
  | @ends here name h =>
    have hhere : ¬p <+: here := fun hunder => hapart (hunder.trans (List.prefix_append _ _))
    have hready := (run_installSet_of_ends ht (.of_eraseBelow hp h hhere) hnodup hnames).2.1 hok
    have h' : (outside t' (here ++ [name]) p).Ends cwd dir here name :=
      h.grow ((hsound.eraseBelow hd).eraseBelow hp) (within_outside hd hp haround)
        (new_outside hd hp haround)
    obtain ⟨hwhole, -, hagain⟩ :=
      run_installSet_of_ends hsound (.of_eraseBelow hp h' hhere) hnodup hnames
    have hok' := hagain hholds.directory hready (hfree here)
    refine ⟨hok', fun q => ?_⟩
    by_cases hq : here ++ [name] <+: q
    · exact hholds.node?_eq (hwhole.replaced hok') hq
    · refine (hwhole.around q (by simpa using hq)).resolve_right fun ⟨hway, hnone, _⟩ => ?_
      -- above a directory that is there nothing is missing
      have hway' : q <+: here ++ [name] := by simpa using hway
      have hne : q ≠ here ++ [name] := fun heq => hq (heq ▸ List.prefix_refl _)
      rw [hsound.above hway' hne hholds.directory] at hnone
      cases hnone

end Outside

/-- A registry whose two directories of links that are always there are to stand at two places,
apart from each other, with paths that lead through neither of them. -/
structure InstallsAt (r : LinkRegistry) (cwd : Place) (d p : Place) (t : FileTree) : Prop where
  sound : t.Sound
  apart : ¬d <+: p ∧ ¬p <+: d
  defaultDir : Aims (outside t d p) cwd r.defaultDir d
  priorityDir : Aims (outside t d p) cwd r.priorityDir p

namespace InstallsAt

variable {r : LinkRegistry} {d p : Place}

/-- The default directory is not the root. -/
lemma default_ne (h : r.InstallsAt cwd d p t) : d ≠ [] := fun hd => h.apart.1 (hd ▸ List.nil_prefix)

/-- The priority directory is not the root. -/
lemma priority_ne (h : r.InstallsAt cwd d p t) : p ≠ [] :=
  fun hp => h.apart.2 (hp ▸ List.nil_prefix)

/-- **Changes after which the directories are to stand where they were**: anything at their places,
and new directories on the way there. -/
lemma keep (h : r.InstallsAt cwd d p t) (hsound : t'.Sound) (haround : Around [d, p] t t') :
    r.InstallsAt cwd d p t' :=
  ⟨hsound, h.apart, .outside h.default_ne h.priority_ne hsound haround h.defaultDir,
    .outside h.default_ne h.priority_ne hsound haround h.priorityDir⟩

/-- The path of the default directory aims at its place, whatever stands there. -/
lemma aims_default (h : r.InstallsAt cwd d p t) : Aims (t.eraseBelow d) cwd r.defaultDir d :=
  h.defaultDir.of_eraseBelow h.priority_ne h.apart.2

/-- It does not matter which of the two places comes first. -/
lemma aims_swapped (h : r.InstallsAt cwd d p t) : Aims (outside t p d) cwd r.priorityDir p := by
  have hsame : ∀ q, (outside t p d).node? q = (outside t d p).node? q := fun q => by
    rw [node?_outside h.priority_ne h.default_ne, node?_outside h.default_ne h.priority_ne]
    simp only [or_comm]
  exact h.priorityDir.grow ((h.sound.eraseBelow h.priority_ne).eraseBelow h.default_ne)
    (fun q n hnode => (hsame q).trans hnode) fun q hnone => .inl ((hsame q).trans hnone)

/-- The path of the priority directory aims at its place, whatever stands there. -/
lemma aims_priority (h : r.InstallsAt cwd d p t) : Aims (t.eraseBelow p) cwd r.priorityDir p :=
  h.aims_swapped.of_eraseBelow h.default_ne h.apart.1

end InstallsAt

/-- The default links have different names. -/
lemma nodup_defaultNames : defaultNames.Nodup := by decide

/-- The priority links have different names. -/
lemma nodup_priorityNames : priorityNames.Nodup := by decide

/-- The names of the default links are ones that a directory can hold. -/
lemma isFileName_defaultNames : ∀ name ∈ defaultNames, IsFileName name := by decide

/-- The names of the priority links are ones that a directory can hold. -/
lemma isFileName_priorityNames : ∀ name ∈ priorityNames, IsFileName name := by decide

/-- The default links are installed first, and the priority links if that succeeds. -/
lemma run_installDefaults_eq (r : LinkRegistry) (cwd : Place) (t : FileTree) :
    r.installDefaults.run cwd t =
      match (installSet r.target r.defaultDir defaultNames).run cwd t with
      | (.error e, t₁) => (.error e, t₁)
      | (.ok (), t₁) => (installSet r.target r.priorityDir priorityNames).run cwd t₁ := by
  rw [installDefaults, Script.run_bind]
  rcases (installSet r.target r.defaultDir defaultNames).run cwd t with ⟨e | _, t₁⟩ <;> rfl

/-- **The directories of links that are always there are installed as wholes or not at all.**  If
both are installed each holds its links and nothing else, and to install them again succeeds and
changes nothing, as long as names for temporary directories are left.  If not, the second one is
what it was, and the first one is what it was or holds its links and nothing else.  Elsewhere
nothing changes but that missing directories above the two are made.

**Proof sketch.** The first directory is installed as a whole or not (`run_installSet`), and this
changes nothing at the place of the second one, as the two are apart.  Then the same is true of
the second one and the first.  When both are installed again, each is ready and still aims at its
place, so that both installations succeed and change nothing (`installSet_again`, once in each
direction). -/
theorem installDefaults_whole {r : LinkRegistry} {d p : Place} (h : r.InstallsAt cwd d p t) :
    let out := r.installDefaults.run cwd t
    (out.1 = .ok () →
      out.2.Holds d defaultNames r.target ∧ out.2.Holds p priorityNames r.target ∧
        (out.2.nodes.size < FileCall.temporaryNames →
          (r.installDefaults.run cwd out.2).1 = .ok () ∧
            ∀ q, (r.installDefaults.run cwd out.2).2.node? q = out.2.node? q)) ∧
    (∀ e, out.1 = .error e →
      (out.2.Holds d defaultNames r.target ∨ ∀ q, d <+: q → out.2.node? q = t.node? q) ∧
        ∀ q, p <+: q → out.2.node? q = t.node? q) ∧
    Around [d, p] t out.2 := by
  intro out
  have hd := h.default_ne
  have hp := h.priority_ne
  have hrun : out = _ := run_installDefaults_eq r cwd t
  have hfirst : Whole r.target defaultNames d t _ _ :=
    run_installSet h.sound hd h.aims_default nodup_defaultNames isFileName_defaultNames
  cases hset : (installSet r.target r.defaultDir defaultNames).run cwd t with
  | mk answer t₁ =>
  rw [hset] at hrun hfirst
  have haround₁ : Around [d, p] t t₁ := hfirst.around.mono (by simp)
  have hpriority₁ : ∀ q, p <+: q → t₁.node? q = t.node? q := fun q hq =>
    hfirst.around.node?_eq h.apart.1 h.apart.2 hq
  rcases answer with e | _
  · rw [hrun]
    exact ⟨nofun, fun _ _ => ⟨.inr (hfirst.kept e rfl), hpriority₁⟩, haround₁⟩
  have h₁ : r.InstallsAt cwd d p t₁ := h.keep hfirst.sound haround₁
  have hsecond : Whole r.target priorityNames p t₁ _ _ :=
    run_installSet h₁.sound hp h₁.aims_priority nodup_priorityNames isFileName_priorityNames
  dsimp only at hrun
  cases hset₂ : (installSet r.target r.priorityDir priorityNames).run cwd t₁ with
  | mk answer t₂ =>
  rw [hset₂] at hrun hsecond
  have haround₂ : Around [d, p] t t₂ := haround₁.trans (hsecond.around.mono (by simp))
  have hdefault : t₂.Holds d defaultNames r.target :=
    (hfirst.replaced rfl).congr fun q hq => hsecond.around.node?_eq h.apart.2 h.apart.1 hq
  rw [hrun]
  refine ⟨fun hok => ⟨hdefault, hsecond.replaced hok, fun hsize => ?_⟩, fun e herror =>
    ⟨.inl hdefault, fun q hq => (hsecond.kept e herror q hq).trans (hpriority₁ q hq)⟩, haround₂⟩
  -- the first directory is installed again, and then the second one in a tree that is the same
  have hagain := installSet_again hd hp hsecond.sound haround₂ h.apart.2 h.sound h.defaultDir
    nodup_defaultNames isFileName_defaultNames (congrArg Prod.fst hset) hdefault
    fun here => FileCall.exists_free hsize here temporaryStem
  rw [run_installDefaults_eq]
  cases hset₃ : (installSet r.target r.defaultDir defaultNames).run cwd t₂ with
  | mk answer₃ t₃ =>
  rw [hset₃] at hagain
  obtain ⟨rfl, hsame⟩ : answer₃ = .ok () ∧ ∀ q, t₃.node? q = t₂.node? q := hagain
  have haround₃ : Around [p, d] t₁ t₃ := fun q hq => by
    rw [hsame]
    exact hsecond.around.mono (by simp) q hq
  have hagain₂ := installSet_again hp hd (hsecond.sound.congr hsame) haround₃ h.apart.1 h₁.sound
    h₁.aims_swapped nodup_priorityNames isFileName_priorityNames
    ((congrArg Prod.fst hset₂).trans hok) ((hsecond.replaced hok).congr fun q _ => hsame q)
    fun here => by
      obtain ⟨i, hi, hfree⟩ := FileCall.exists_free hsize here temporaryStem
      exact ⟨i, hi, (hsame _).trans hfree⟩
  exact ⟨hagain₂.1, fun q => (hagain₂.2 q).trans (hsame q)⟩

/-- Both directories of the sample stand in its tree, one of them with something else in it. -/
lemma installsAt_sample : sample.InstallsAt [] ["h", "bin"] ["h", "bin-priority"] sampleTree where
  sound := sound_sampleTree
  apart := by decide
  defaultDir := .ends (⟨⟨⟨[], ["h", "bin"], false⟩, ["h"], by rfl, rfl, rfl,
    .there (by rfl) (by rfl)⟩, by decide⟩ : FileTree.Ends _ _ _ ["h"] "bin")
  priorityDir := .ends (⟨⟨⟨[], ["h", "bin-priority"], false⟩, ["h"], by rfl, rfl, rfl,
    .there (by rfl) (by rfl)⟩, by decide⟩ : FileTree.Ends _ _ _ ["h"] "bin-priority")

/-- Both directories of the sample are installed, twice. -/
theorem installDefaults_whole_sample :
    let out := sample.installDefaults.run [] sampleTree
    out.1 = .ok () ∧ out.2.Holds ["h", "bin"] defaultNames "/h/ferry" ∧
      out.2.Holds ["h", "bin-priority"] priorityNames "/h/ferry" ∧
      (sample.installDefaults.run [] out.2).1 = .ok () ∧
      Around [["h", "bin"], ["h", "bin-priority"]] sampleTree out.2 := by
  have hok : (sample.installDefaults.run [] sampleTree).1 = .ok () := by decide +kernel
  have hfew : (sample.installDefaults.run [] sampleTree).2.nodes.size <
      FileCall.temporaryNames := by
    decide +kernel
  obtain ⟨hinstalled, -, haround⟩ := installDefaults_whole installsAt_sample
  obtain ⟨hdefault, hpriority, hagain⟩ := hinstalled hok
  exact ⟨hok, hdefault, hpriority, (hagain hfew).1, haround⟩

/-- The paths have to end in the names of the directories: behind a single dot a directory is
emptied before it turns out that it cannot be removed. -/
theorem installDefaults_behind_dot :
    let r : LinkRegistry := { sample with defaultDir := "/h/bin/." }
    let out := r.installDefaults.run [] sampleTree
    out.1 = .error (.file "/h/bin/." .invalidArgument) ∧
      sampleTree.node? ["h", "bin", "code"] = some (.link "/h/ferry") ∧
      out.2.node? ["h", "bin"] = some .directory ∧ out.2.node? ["h", "bin", "code"] = none ∧
      out.2.node? ["h", "bin", "ferry"] = none := by
  decide +kernel

end CommandRelay.LinkRegistry
