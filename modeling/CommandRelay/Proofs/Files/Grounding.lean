import CommandRelay.Proofs.Files.Operations
import CommandRelay.Proofs.Path.Parents

/-!
# Paths that stay where they are

What a path names may come and go while other programs work in the same tree.  The place stays the
same as long as nothing is taken away on the way to it, and nobody who keeps to files and missing
directories does that once the path has been used to make something new.

## Main definitions

* `FileTree.standing?` — what stands at the place that a path names.
* `FileTree.Habitable` — a tree in which a program can work.
* `FileTree.Grounded` — a path names a place, whatever stands there.
* `FileTree.Spares` — at most what stands at such a place is taken away.

## Main results

* `FileTree.Habitable.grounded` — a path is grounded where something new can be put.
* `FileTree.Grounded.put`, `FileTree.Grounded.erase` — whatever happens at the place.
* `FileTree.Grounded.run_makeDirectory` — the directories on the way need not be made.
* `FileTree.run_bindSocket`, `FileTree.Habitable.run_removeEntry` — what other operations do.
-/

namespace CommandRelay.FileTree

variable {t t' : FileTree} {cwd p : Place} {path : String}

/-- What stands at the place that a path names. -/
def standing? (t : FileTree) (cwd : Place) (path : String) : Option Node :=
  match t.locate cwd path with
  | .ok p => t.node? p
  | .error _ => none

/-- A path names the same place in a larger tree. -/
lemma Within.locate (h : t.Within t') (hlocate : t.locate cwd path = .ok p) :
    t'.locate cwd path = .ok p := by
  obtain ⟨w, hw⟩ := exists_way hlocate
  rcases List.eq_nil_or_concat w.names with hnil | ⟨front, name, hnames⟩
  · simpa [FileTree.locate, hw, hnil, bind, Except.bind] using hlocate
  · rw [List.concat_eq_append] at hnames
    rw [locate_eq hw hnames] at hlocate ⊢
    cases hwalk : t.walk maxLinks w.start front with
    | error e => simp [hwalk, Except.bind] at hlocate
    | ok here =>
      rw [hwalk] at hlocate
      rw [h.walk hwalk]
      exact h.child hlocate

/-- A tree in which a program can work: it is sound, and the program's current directory is there.
-/
structure Habitable (t : FileTree) (cwd : Place) : Prop where
  sound : t.Sound
  current : t.node? cwd = some .directory

/-- A path names a place, whatever stands there: it does so in a smaller tree already, in which
nothing stands there. -/
def Grounded (t : FileTree) (cwd : Place) (path : String) (p : Place) : Prop :=
  ∃ t₀ : FileTree, t₀.Habitable cwd ∧ t₀.locate cwd path = .ok p ∧ t₀.node? p = none ∧ t₀.Within t

/-- **A socket is bound** where nothing stands, or nothing happens. -/
lemma run_bindSocket (t : FileTree) (cwd : Place) (owner : Nat) (path : String) :
    let out := (FileCall.bindSocket owner path).run cwd t
    (∃ e, out = (.error e, t)) ∨ ∃ p, t.locate cwd path = .ok p ∧ t.node? p = none ∧
      out = (.ok (), t.put p (.socket owner)) := by
  intro out
  simp only [out, FileCall.run]
  cases hlocate : t.locate cwd path with
  | error e => exact .inl ⟨e, rfl⟩
  | ok p =>
    simp only
    split_ifs with hthere
    · exact .inl ⟨_, rfl⟩
    · exact .inr ⟨p, rfl, by simpa using hthere, rfl⟩

/-- A change that leaves a place at which the path is grounded as it is, or takes away what stands
there. -/
def Spares (cwd : Place) (path : String) (t t' : FileTree) : Prop :=
  ∀ p, t.Grounded cwd path p → t' = t ∨ (t.node? p).isSome = true ∧ t' = t.erase p

/-! ## Places where something new can be put -/

namespace Habitable

/-- **A missing place** that a path names is in a directory that is there, at the end of the names
on the way. -/
lemma exists_missing (h : t.Habitable cwd) (hlocate : t.locate cwd path = .ok p)
    (hnone : t.node? p = none) : ∃ w front here name, Way.ofPath cwd path = .ok w ∧
      w.names = front ++ [name] ∧ t.walk maxLinks w.start front = .ok here ∧
      t.node? here = some .directory ∧ IsFileName name ∧ p = here ++ [name] := by
  obtain ⟨w, hw⟩ := exists_way hlocate
  have hstart : t.node? w.start = some .directory := by
    rcases start_of_ofPath hw with hstart | hstart
    · rw [hstart, node?_root]
    · rw [hstart, h.current]
  obtain ⟨front, here, name, hnames, hwalk, hchild, hname, hp⟩ :=
    locate_missing hw hstart h.sound hlocate hnone
  exact ⟨w, front, here, name, hw, hnames, hwalk, isDirectory_of_child hchild, hname, hp⟩

/-- **A path is grounded** where something new can be put. -/
lemma grounded (h : t.Habitable cwd) (hlocate : t.locate cwd path = .ok p)
    (hnone : t.node? p = none) : t.Grounded cwd path p :=
  ⟨t, h, hlocate, hnone, .refl t⟩

/-- Something new is put where a path names a missing place. -/
lemma put (h : t.Habitable cwd) (hlocate : t.locate cwd path = .ok p) (hnone : t.node? p = none)
    (n : Node) : (t.put p n).Habitable cwd := by
  obtain ⟨w, front, here, name, -, -, -, hhere, hname, rfl⟩ := h.exists_missing hlocate hnone
  exact ⟨h.sound.put hhere hname hnone n, Within.put (by simp) hnone n _ _ h.current⟩

/-- Something that is no directory is taken away. -/
lemma erase (h : t.Habitable cwd) {n : Node} (hnode : t.node? p = some n) (hn : n ≠ .directory) :
    (t.erase p).Habitable cwd := by
  have hne : p ≠ [] := by
    rintro rfl
    rw [node?_root, Option.some.injEq] at hnode
    exact hn hnode.symm
  have hcurrent : cwd ≠ p := by
    rintro rfl
    rw [h.current, Option.some.injEq] at hnode
    exact hn hnode.symm
  refine ⟨h.sound.erase hne (by simpa [hnode] using hn), ?_⟩
  rw [node?_erase _ hne, if_neg hcurrent, h.current]

/-- A directory is made, or nothing happens. -/
lemma run_makeDirectory (h : t.Habitable cwd) (path : String) :
    ((FileCall.makeDirectory path).run cwd t).2.Habitable cwd := by
  simp only [FileCall.run]
  cases hlocate : t.locate cwd path with
  | error e => exact h
  | ok p =>
    simp only [FileCall.atPlace, FileCall.putNew]
    split_ifs with hthere
    · exact h
    · exact h.put hlocate (by simpa using hthere) .directory

end Habitable

/-! ## Grounded paths -/

namespace Grounded

/-- A grounded path is located at its place. -/
lemma locate_eq (h : t.Grounded cwd path p) : t.locate cwd path = .ok p := by
  obtain ⟨t₀, -, hlocate, -, hwithin⟩ := h
  exact hwithin.locate hlocate

/-- No grounded path names the root. -/
lemma ne_root (h : t.Grounded cwd path p) : p ≠ [] := by
  obtain ⟨t₀, -, -, hnone, -⟩ := h
  rintro rfl
  rw [node?_root] at hnone
  cases hnone

/-- What stands where a grounded path leads is what stands at its place. -/
lemma standing?_eq (h : t.Grounded cwd path p) : t.standing? cwd path = t.node? p := by
  rw [standing?, h.locate_eq]

/-- A grounded path names the same place in every larger tree. -/
lemma within (h : t.Grounded cwd path p) (hwithin : t.Within t') : t'.Grounded cwd path p := by
  obtain ⟨t₀, hhome, hlocate, hnone, hwithin₀⟩ := h
  exact ⟨t₀, hhome, hlocate, hnone, hwithin₀.trans hwithin⟩

/-- **Something is put at the place.** -/
lemma put (h : t.Grounded cwd path p) (hnone : t.node? p = none) (n : Node) :
    (t.put p n).Grounded cwd path p :=
  h.within (.put h.ne_root hnone n)

/-- **What stands at the place is taken away.** -/
lemma erase (h : t.Grounded cwd path p) : (t.erase p).Grounded cwd path p := by
  have hne := h.ne_root
  obtain ⟨t₀, hhome, hlocate, hnone, hwithin⟩ := h
  refine ⟨t₀, hhome, hlocate, hnone, ?_⟩
  intro q n hnode
  rw [node?_erase _ hne, if_neg, hwithin q n hnode]
  rintro rfl
  rw [hnone] at hnode
  cases hnode

/-- The directory that a grounded path stands in is there. -/
lemma leads_parent (h : t.Grounded cwd path p) {parent : String}
    (hparent : Path.parent? path = some parent) (hne : parent ≠ "") :
    ∃ here, t.PathLeads cwd parent here ∧ t.node? here = some .directory := by
  obtain ⟨t₀, hhome, hlocate, hnone, hwithin⟩ := h
  obtain ⟨w, front, here, name, hw, hnames, hwalk, hhere, hname, -⟩ :=
    hhome.exists_missing hlocate hnone
  have hdirectory := hwithin _ _ hhere
  have hleads : t.Leads w.start front here := .there (hwithin.walk hwalk) hdirectory
  obtain ⟨parent', hparent', hway⟩ := Path.ofPath_parent hw hnames hname.ne_dot
  obtain rfl : parent' = parent := Option.some.inj (hparent'.symm.trans hparent)
  have hpath : Path.IsPath parent' :=
    Path.IsPath.parent (Path.exists_way_iff.1 ⟨w, hw⟩) hparent hne
  have hparentWay : ∃ w', Way.ofPath cwd parent' = .ok w' := Path.exists_way_iff.2 hpath
  obtain ⟨w', hw'⟩ := hparentWay
  rcases hway with ⟨hempty, -⟩ | ⟨-, hway⟩
  · exact absurd hempty hne
  · obtain ⟨hstart, hbare⟩ := hway w' hw'
    exact ⟨here, ⟨w', hw', hstart ▸ hleads.congr hbare.symm⟩, hdirectory⟩

/-- **The directories on the way** are there, so none is made. -/
lemma run_makeDirectory (h : t.Grounded cwd path p) (hsound : t.Sound) {parent q : String}
    (hparent : Path.parent? path = some parent) (hne : parent ≠ "") (hq : q ∈ Path.lineage parent) :
    ((FileCall.makeDirectory q).run cwd t).2 = t := by
  obtain ⟨here, hleads, hhere⟩ := h.leads_parent hparent hne
  simp only [FileCall.run]
  cases hlocate : t.locate cwd q with
  | error e => rfl
  | ok x =>
    simp only [FileCall.atPlace, FileCall.putNew]
    split_ifs with hthere
    · rfl
    · have hnone : t.node? x = none := by simpa using hthere
      obtain ⟨hx, -⟩ := hleads.of_locate_lineage hsound hq hlocate hnone
      -- everything above a directory that is there is a directory
      have hdirectory : t.node? x = some .directory := by
        by_cases hsame : x = here
        · rw [hsame, hhere]
        · exact hsound.above hx hsame hhere
      rw [hnone] at hdirectory
      cases hdirectory

end Grounded

/-- **Removing an entry** takes away what stands at the place that the path names, or does nothing.
-/
lemma Habitable.run_removeEntry (h : t.Habitable cwd) (path : String) :
    ((FileCall.removeEntry path).run cwd t).2.Habitable cwd ∧
      Spares cwd path t ((FileCall.removeEntry path).run cwd t).2 := by
  simp only [FileCall.run]
  cases hlocate : t.locate cwd path with
  | error e => exact ⟨h, fun _ _ => .inl rfl⟩
  | ok p =>
    cases hnode : t.node? p with
    | none =>
      simp only [FileCall.atPlace, hnode]
      exact ⟨h, fun _ _ => .inl rfl⟩
    | some n =>
      have hsome : (t.node? p).isSome = true := by rw [hnode, Option.isSome_some]
      have hspares : Spares cwd path t (t.erase p) := by
        intro q hq
        obtain rfl : p = q := Except.ok.inj (hlocate.symm.trans hq.locate_eq)
        exact .inr ⟨hsome, rfl⟩
      simp only [FileCall.atPlace, hnode]
      cases n with
      | directory => exact ⟨h, fun _ _ => .inl rfl⟩
      | _ => exact ⟨h.erase hnode (by simp), hspares⟩

end CommandRelay.FileTree
