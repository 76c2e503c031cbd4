import CommandRelay.Files.Script
import CommandRelay.Proofs.Files.Leading

/-!
# Operations in a directory

What the operations of the file system do to a name behind a path that leads to a place: all that
can happen, and when.

## Main results

* `FileTree.PathLeads.run_makeDirectory` — a directory above the path.
* `FileTree.PathLeads.run_makeLink` — a link of a name behind the path.
* `FileTree.PathLeads.run_removeEntry` — removing a name behind the path.
* `FileTree.PathLeads.run_list`, `run_list_error` — what is in the directory.
-/

namespace CommandRelay.FileTree

/-! ## Why nothing is found -/

/-- No path fails because something is there. -/
lemma ofPath_ne_alreadyExists (cwd : Place) (path : String) :
    Way.ofPath cwd path ≠ .error .alreadyExists := by
  unfold Way.ofPath
  dsimp only
  split_ifs <;> simp

/-- A name in a directory is not refused because something stands there. -/
lemma child_ne_alreadyExists (t : FileTree) (here : Place) (name : String) :
    t.child here name ≠ .error .alreadyExists := by
  unfold child
  split
  · simp
  · split_ifs <;> simp
  · simp

namespace PathLeads

variable {t : FileTree} {cwd place : Place} {path name : String}

/-- Nor is the path of that name. -/
lemma locate_join_ne_alreadyExists (h : t.PathLeads cwd path place)
    (hname : Path.IsName name.toList) :
    t.locate cwd (Path.join path name) ≠ .error .alreadyExists := by
  obtain ⟨w, hw, hleads⟩ := h
  cases hjoin : Way.ofPath cwd (Path.join path name) with
  | error e =>
    have hne := ofPath_ne_alreadyExists cwd (Path.join path name)
    rw [hjoin] at hne
    simpa [locate, hjoin, bind, Except.bind] using hne
  | ok w' =>
    obtain ⟨-, -, rfl⟩ := (Path.ofPath_join hw hname.text_ne_empty hname.noSlash w').1 hjoin
    rw [locate_eq hjoin rfl]
    rcases hleads.directory_or_none with hplace | hnone
    · rw [hleads.walk_eq hplace]
      exact child_ne_alreadyExists t place name
    · rw [hleads.walk_error hnone]
      simp [Except.bind]

/-! ## One operation -/

/-- **Making a directory above a path** makes one on the way to the place or changes nothing. -/
lemma run_makeDirectory (h : t.PathLeads cwd path place) (hsound : t.Sound) {q : String}
    (hq : q ∈ Path.lineage path) :
    ((FileCall.makeDirectory q).run cwd t).2 = t ∨
      Paved place t ((FileCall.makeDirectory q).run cwd t).2 ∧
        ((FileCall.makeDirectory q).run cwd t).2.Sound := by
  simp only [FileCall.run]
  cases hlocate : t.locate cwd q with
  | error e => exact .inl rfl
  | ok p =>
    simp only [FileCall.atPlace, FileCall.putNew]
    split_ifs with hthere
    · exact .inl rfl
    · have hnone : t.node? p = none := by simpa using hthere
      obtain ⟨hp, here, name, rfl, hhere, hname⟩ := h.of_locate_lineage hsound hq hlocate hnone
      exact .inr ⟨.put (by simp) hp hnone, hsound.put hhere hname hnone _⟩

/-- The directory that was made last is the one that the path leads to. -/
lemma directory_of_makeDirectory (h : t.PathLeads cwd path place) (hsound : t.Sound)
    {t' : FileTree} (hrun : (FileCall.makeDirectory path).run cwd t = (.ok (), t')) :
    t'.node? place = some .directory := by
  simp only [FileCall.run] at hrun
  cases hlocate : t.locate cwd path with
  | error e =>
    rw [hlocate] at hrun
    cases hrun
  | ok p =>
    simp only [hlocate, FileCall.atPlace, FileCall.putNew] at hrun
    split_ifs at hrun with hthere
    · cases hrun
    · obtain ⟨-, rfl⟩ := Prod.ext_iff.1 hrun
      have hnone : t.node? p = none := by simpa using hthere
      have hp : p = place := h.of_locate hsound hlocate hnone
      have hne : p ≠ [] := fun hp => by simp [hp] at hnone
      rw [← hp, node?_put _ _ hne, if_pos rfl]

/-- A directory that is found at the end of the path is the one that it leads to. -/
lemma directory_of_isDirectory (h : t.PathLeads cwd path place)
    (hthere : t.isDirectory cwd path = true) : t.node? place = some .directory := by
  rcases h.directory_or_none with hplace | hnone
  · exact hplace
  · simp [isDirectory, stat, h.resolve_error hnone, bind, Except.bind] at hthere

/-- **Making a link of a name behind a path** makes it where nothing stands, finds that something
stands there, or fails because of what the target or the path is. -/
lemma run_makeLink (h : t.PathLeads cwd path place) (hname : Path.IsName name.toList)
    (target : String) :
    let out := (FileCall.makeLink target (Path.join path name)).run cwd t
    (out = (.ok (), t.put (place ++ [name]) (.link target)) ∧ t.node? place = some .directory ∧
      IsFileName name ∧ t.node? (place ++ [name]) = none) ∨
    (out = (.error .alreadyExists, t) ∧ (t.node? (place ++ [name])).isSome) ∨
    (∃ e, out = (.error e, t) ∧ e ≠ .alreadyExists ∧
      (Way.ofPath cwd target = .error e ∨
        t.locate cwd (Path.join path name) = .error e)) := by
  intro out
  simp only [out, FileCall.run]
  cases htarget : Way.ofPath cwd target with
  | error e =>
    refine .inr (.inr ⟨e, rfl, ?_, .inl rfl⟩)
    rintro rfl
    exact ofPath_ne_alreadyExists cwd target htarget
  | ok w =>
    cases hlocate : t.locate cwd (Path.join path name) with
    | error e =>
      refine .inr (.inr ⟨e, rfl, ?_, .inr rfl⟩)
      rintro rfl
      exact h.locate_join_ne_alreadyExists hname hlocate
    | ok p =>
      obtain ⟨hplace, hfile, -, rfl⟩ := (h.locate_join hname).1 hlocate
      simp only [FileCall.atPlace, FileCall.putNew]
      split_ifs with hthere
      · exact .inr (.inl ⟨rfl, hthere⟩)
      · exact .inl ⟨rfl, hplace, hfile, by simpa using hthere⟩

/-- **Removing a name behind a path** takes away what stands there and is no directory, or changes
nothing. -/
lemma run_removeEntry (h : t.PathLeads cwd path place) (hname : Path.IsName name.toList) :
    let out := (FileCall.removeEntry (Path.join path name)).run cwd t
    out.2 = t ∨ out = (.ok (), t.erase (place ++ [name])) ∧
      ∃ n, t.node? (place ++ [name]) = some n ∧ n ≠ .directory := by
  intro out
  simp only [out, FileCall.run]
  cases hlocate : t.locate cwd (Path.join path name) with
  | error e => exact .inl rfl
  | ok p =>
    obtain ⟨-, -, -, rfl⟩ := (h.locate_join hname).1 hlocate
    cases hnode : t.node? (place ++ [name]) with
    | none =>
      simp only [FileCall.atPlace, hnode]
      exact .inl trivial
    | some n =>
      simp only [FileCall.atPlace, hnode]
      cases n with
      | directory => exact .inl rfl
      | _ => exact .inr ⟨rfl, _, rfl, by simp⟩

/-- Something that is no directory can be removed. -/
lemma run_removeEntry_eq (h : t.PathLeads cwd path place) (hsound : t.Sound)
    (hroomy : Path.Roomy path) (hname : Path.IsName name.toList) {n : Node}
    (hnode : t.node? (place ++ [name]) = some n) (hn : n ≠ .directory) :
    (FileCall.removeEntry (Path.join path name)).run cwd t =
      (.ok (), t.erase (place ++ [name])) := by
  have hfile := hsound.name hnode
  have hlocate := (h.locate_join hname).2
    ⟨hsound.parent hnode, hfile, hroomy.join_lt hfile.short, rfl⟩
  simp only [FileCall.run, hlocate, FileCall.atPlace, hnode]
  cases n with
  | directory => exact absurd rfl hn
  | _ => rfl

/-- **What is in the directory that a path leads to.** -/
lemma run_list (h : t.PathLeads cwd path place) (hplace : t.node? place = some .directory) :
    (Script.list path).run cwd t = (.ok (t.entries place), t) := by
  simp only [Script.list, Script.run, FileCall.run, h.resolve_eq hplace, FileCall.atPlace, hplace]

/-- A directory that is missing is not listed, for this reason alone. -/
lemma run_list_error (h : t.PathLeads cwd path place) (hnone : t.node? place = none) :
    (Script.list path).run cwd t = (.error .notFound, t) := by
  simp only [Script.list, Script.run, FileCall.run, h.resolve_error hnone, FileCall.atPlace]

end PathLeads

end CommandRelay.FileTree
