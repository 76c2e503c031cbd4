import CommandRelay.Proofs.Files.Temporary

/-!
# Putting a directory in the place of another

A path that ends in a name, behind names that lead to a directory which is there, names a place in
that directory.  What stands there can be looked at, removed and moved to the place that another
such path names.

## Main definitions

* `FileTree.Names` — a path names a place in a directory that is there.
* `FileTree.Holds` — a directory that holds links of some names and nothing else.

## Main results

* `FileTree.Names.within` — directories that are made leave a path its place.
* `FileTree.Names.run_removeAll` — what stands at the place is removed, if it is a directory or a
  link.
* `FileTree.Names.run_move` — a move between two such places.
* `FileTree.node?_move` — what a move leaves where.
-/

namespace CommandRelay.FileTree

variable {t t' : FileTree} {cwd here : Place} {path name : String}

/-! ## Paths that name a place -/

/-- A path names a place in a directory that is there, and ends in the name there. -/
structure Names (t : FileTree) (cwd : Place) (path : String) (here : Place)
    (name : String) : Prop where
  way : ∃ w front, Way.ofPath cwd path = .ok w ∧ w.slash = false ∧ w.names = front ++ [name] ∧
    t.walk maxLinks w.start front = .ok here
  directory : t.node? here = some .directory
  fileName : IsFileName name

namespace Names

/-- **What else stands in a tree** leaves a path its place. -/
lemma within (h : t.Names cwd path here name) (hwithin : t.Within t') :
    t'.Names cwd path here name := by
  obtain ⟨w, front, hw, hslash, hnames, hwalk⟩ := h.way
  exact ⟨⟨w, front, hw, hslash, hnames, hwithin.walk hwalk⟩, hwithin _ _ h.directory, h.fileName⟩

/-- A path is located at the place that it names. -/
lemma locate_eq (h : t.Names cwd path here name) : t.locate cwd path = .ok (here ++ [name]) := by
  obtain ⟨w, front, hw, -, hnames, hwalk⟩ := h.way
  rw [FileTree.locate_eq hw hnames, hwalk]
  exact child_name h.directory h.fileName

/-- A path reaches the place that it names. -/
lemma reach_eq (h : t.Names cwd path here name) : t.reach cwd path = .ok (here ++ [name]) := by
  obtain ⟨w, front, hw, hslash, -, -⟩ := h.way
  have hreach : t.reach cwd path = t.locate cwd path := by
    simp [reach, hw, hslash, bind, Except.bind]
  rw [hreach, h.locate_eq]

/-- What stands at the place is seen. -/
lemma lstat_eq (h : t.Names cwd path here name) {n : Node}
    (hnode : t.node? (here ++ [name]) = some n) :
    t.lstat cwd path = .ok n := by
  simp [lstat, h.reach_eq, hnode, bind, Except.bind, pure, Except.pure]

/-- Nothing is found where nothing stands. -/
lemma lstat_notFound (h : t.Names cwd path here name) (hnone : t.node? (here ++ [name]) = none) :
    t.lstat cwd path = .error .notFound := by
  simp [lstat, h.reach_eq, hnone, bind, Except.bind, throw, throwThe, MonadExceptOf.throw]

/-- A path that ends in a name can be used to remove a directory of that name. -/
lemma removalError?_eq (h : t.Names cwd path here name)
    (hnode : t.node? (here ++ [name]) = some .directory) : t.removalError? cwd path = none := by
  obtain ⟨w, front, hw, -, hnames, -⟩ := h.way
  have hlast : w.names.getLast? = some name := by rw [hnames, List.getLast?_concat]
  simp only [removalError?, hw, hlast]
  split
  · next heq => exact absurd (Option.some.inj heq) h.fileName.ne_dot
  · next heq => exact absurd (Option.some.inj heq) h.fileName.ne_up
  · simp [h.locate_eq, hnode]

/-- A path leads to the directory that it names. -/
lemma pathLeads (h : t.Names cwd path here name)
    (hnode : t.node? (here ++ [name]) = some .directory) :
    t.PathLeads cwd path (here ++ [name]) := by
  obtain ⟨w, front, hw, -, hnames, hwalk⟩ := h.way
  refine ⟨w, hw, hnames ▸ .there ?_ hnode⟩
  exact walk_snoc hwalk (child_name h.directory h.fileName) hnode rfl

/-- A directory is found where one stands. -/
lemma stat_eq (h : t.Names cwd path here name)
    (hnode : t.node? (here ++ [name]) = some .directory) : t.stat cwd path = .ok .directory := by
  simp [stat, (h.pathLeads hnode).resolve_eq hnode, hnode, bind, Except.bind, pure, Except.pure]

/-- **Removing what stands at the place**, if it is a directory or a link. -/
lemma run_removeAll (h : t.Names cwd path here name) :
    (Script.removeAll path).run cwd t =
      match t.node? (here ++ [name]) with
      | none => (.error .notFound, t)
      | some .directory => (.ok (), t.eraseBelow (here ++ [name]))
      | some (.link _) => (.ok (), t.erase (here ++ [name]))
      | some _ => (.error .notDirectory, t) := by
  rw [Script.removeAll, Script.run_bind, Script.run_lstat]
  cases hnode : t.node? (here ++ [name]) with
  | none =>
    rw [h.lstat_notFound hnode]
    rfl
  | some n =>
    rw [h.lstat_eq hnode]
    cases n with
    | link target =>
      simp only [Script.removeEntry, Script.run, FileCall.run, h.locate_eq, FileCall.atPlace, hnode]
    | directory =>
      simp only [Script.removeTree, Script.run, FileCall.run, h.reach_eq, FileCall.atPlace, hnode,
        h.removalError?_eq hnode]
    | file content executable | socket listener =>
      simp only [Script.removeTree, Script.run, FileCall.run, h.reach_eq, FileCall.atPlace, hnode]

/-- **A move** from the place that one path names to that of another. -/
lemma run_move {target name' : String} {there : Place} (h : t.Names cwd path here name)
    (h' : t.Names cwd target there name') :
    (Script.move path target).run cwd t =
      FileCall.moveTo t (here ++ [name]) (there ++ [name']) := by
  simp only [Script.move, Script.run, FileCall.run, h.locate_eq, h'.locate_eq, FileCall.atPlace]

end Names

/-! ## Moves -/

section Move

variable {p q : Place}

/-- The entries that are moved, at their new places.

**Proof sketch.** An entry is found at `q ++ rest` just if it stood at `p ++ rest`, and the new
places are as different as the old ones.  So the last value at a place below `q` is the only one,
that of the old place, and at other places there is none. -/
lemma lastValue?_moved (t : FileTree) (p q x : Place) :
    Dictionary.lastValue? ((t.nodes.entries.filter fun e => p.isPrefixOf e.1).map fun e =>
      (q ++ e.1.drop p.length, e.2)) x =
        if q <+: x then t.nodes.get? (p ++ x.drop q.length) else none := by
  set moved := (t.nodes.entries.filter fun e => p.isPrefixOf e.1).map fun e =>
    (q ++ e.1.drop p.length, e.2) with hmoved
  have hmem : ∀ rest n, (q ++ rest, n) ∈ moved ↔ t.nodes.get? (p ++ rest) = some n := by
    intro rest n
    rw [hmoved, List.mem_map]
    constructor
    · rintro ⟨⟨k, m⟩, hmem, heq⟩
      obtain ⟨hentry, hbelow⟩ := List.mem_filter.1 hmem
      obtain ⟨rest', rfl⟩ := List.isPrefixOf_iff_prefix.1 hbelow
      simp only [List.drop_left, Prod.mk.injEq, List.append_cancel_left_eq] at heq
      obtain ⟨rfl, rfl⟩ := heq
      exact t.nodes.get?_of_mem hentry
    · intro hget
      have hbelow : p.isPrefixOf (p ++ rest) = true :=
        List.isPrefixOf_iff_prefix.2 (List.prefix_append p rest)
      exact ⟨(p ++ rest, n), List.mem_filter.2 ⟨Dictionary.mem_of_get? hget, hbelow⟩, by simp⟩
  have hkeys : ∀ k ∈ moved.map Prod.fst, q <+: k := by
    intro k hk
    obtain ⟨e, he, rfl⟩ := List.mem_map.1 hk
    obtain ⟨e', -, rfl⟩ := List.mem_map.1 he
    exact List.prefix_append _ _
  -- an entry is found again under its old place, so two of them do not meet at a new one
  have hnodup : (moved.map Prod.fst).Nodup := by
    refine List.pairwise_map.2 (List.pairwise_map.2 ((t.nodes.sorted.filter _).imp_of_mem ?_))
    intro a b ha hb hlt heq
    obtain ⟨rest, ha⟩ := List.isPrefixOf_iff_prefix.1 (List.mem_filter.1 ha).2
    obtain ⟨rest', hb⟩ := List.isPrefixOf_iff_prefix.1 (List.mem_filter.1 hb).2
    simp only [← ha, ← hb, List.drop_left, List.append_cancel_left_eq] at heq
    rw [← ha, ← hb, heq] at hlt
    exact Std.lt_irrefl hlt
  rw [← Dictionary.get?_ofList]
  split_ifs with hq
  · obtain ⟨rest, rfl⟩ := hq
    rw [List.drop_left]
    cases hget : t.nodes.get? (p ++ rest) with
    | some n => exact Dictionary.get?_ofList_of_mem hnodup ((hmem rest n).2 hget)
    | none =>
      refine Dictionary.get?_ofList_eq_none fun hk => ?_
      obtain ⟨⟨k, n⟩, he, rfl⟩ := List.mem_map.1 hk
      rw [(hmem rest n).1 he] at hget
      cases hget
  · exact Dictionary.get?_ofList_eq_none fun hk => hq (hkeys _ hk)

/-- **What a move leaves where.** -/
lemma node?_move (t : FileTree) (hp : p ≠ []) (hq : q ≠ []) (x : Place) :
    (t.move p q).node? x =
      if q <+: x then (t.node? (p ++ x.drop q.length)).or ((t.eraseBelow p).node? x)
      else (t.eraseBelow p).node? x := by
  by_cases hx : x = []
  · subst hx
    rw [if_neg fun h => hq (List.prefix_nil.1 h), node?_root, node?_root]
  · have hget : ∀ (t : FileTree) {x : Place}, x ≠ [] → t.node? x = t.nodes.get? x :=
      fun _ _ hx => if_neg hx
    rw [hget _ hx, hget t (by simp [hp] : p ++ x.drop q.length ≠ []), hget _ hx, move,
      Dictionary.get?_insertList, lastValue?_moved]
    split_ifs <;> rfl

end Move

/-! ## Directories of links -/

/-- A directory that holds links of some names and nothing else. -/
structure Holds (t : FileTree) (place : Place) (names : List String) (target : String) : Prop where
  directory : t.node? place = some .directory
  link : ∀ name ∈ names, t.node? (place ++ [name]) = some (.link target)
  other : ∀ q, place <+: q → q ≠ place → (∀ name ∈ names, q ≠ place ++ [name]) → t.node? q = none

namespace Holds

variable {place : Place} {names : List String} {target : String}

/-- Whether a directory holds the links depends on what stands there and below only. -/
lemma congr (h : t.Holds place names target) (hsame : ∀ q, place <+: q → t'.node? q = t.node? q) :
    t'.Holds place names target where
  directory := (hsame _ (List.prefix_refl _)).trans h.directory
  link name hname := (hsame _ (List.prefix_append _ _)).trans (h.link name hname)
  other q hq hne hother := (hsame q hq).trans (h.other q hq hne hother)

/-- Directories that hold the same links are the same. -/
lemma node?_eq (h : t.Holds place names target) (h' : t'.Holds place names target) {q : Place}
    (hq : place <+: q) : t'.node? q = t.node? q := by
  by_cases hne : q = place
  · rw [hne, h.directory, h'.directory]
  by_cases hname : ∃ name ∈ names, q = place ++ [name]
  · obtain ⟨name, hname, rfl⟩ := hname
    rw [h.link name hname, h'.link name hname]
  · push Not at hname
    rw [h.other q hq hne hname, h'.other q hq hne hname]

/-- A directory that was just made. -/
lemma made (hfree : ∀ q, place <+: q → t.node? q = none) (hne : place ≠ []) :
    (t.put place .directory).Holds place [] target where
  directory := by rw [node?_put _ _ hne, if_pos rfl]
  link name hname := absurd hname List.not_mem_nil
  other q hq hplace _ := by rw [node?_put _ _ hne, if_neg hplace, hfree q hq]

/-- One more link. -/
lemma put (h : t.Holds place names target) (name : String) :
    (t.put (place ++ [name]) (.link target)).Holds place (names ++ [name]) target where
  directory := by rw [node?_put _ _ (by simp), if_neg (by simp), h.directory]
  link x hx := by
    rw [node?_put _ _ (by simp)]
    split_ifs with heq
    · rfl
    · have hne : x ≠ name := fun hsame => heq (by rw [hsame])
      exact h.link x ((List.mem_append.1 hx).resolve_right (by simpa using hne))
  other q hq hne hother := by
    have hname : q ≠ place ++ [name] := hother name (by simp)
    rw [node?_put _ _ (by simp), if_neg hname]
    exact h.other q hq hne fun x hx => hother x (List.mem_append_left _ hx)

/-- **A directory that is moved** to where nothing stands holds there what it held before. -/
lemma move (h : t.Holds place names target) (hne : place ≠ []) {q : Place} (hq : q ≠ [])
    (hfree : ∀ x, q <+: x → t.node? x = none) : (t.move place q).Holds q names target := by
  have hnode : ∀ rest, (t.move place q).node? (q ++ rest) = t.node? (place ++ rest) := by
    intro rest
    have hnone : (t.eraseBelow place).node? (q ++ rest) = none := by
      rw [node?_eraseBelow _ hne]
      split_ifs
      · rfl
      · exact hfree _ (List.prefix_append _ _)
    rw [node?_move t hne hq, if_pos (List.prefix_append _ _), List.drop_left, hnone, Option.or_none]
  refine ⟨?_, fun name hname => (hnode [name]).trans (h.link name hname), ?_⟩
  · simpa using (hnode []).trans (by simpa using h.directory)
  · rintro _ ⟨rest, rfl⟩ hrest hother
    rw [hnode]
    refine h.other _ (List.prefix_append _ _) (by simpa using hrest) fun name hname heq => ?_
    exact hother name hname (by simpa using heq)

end Holds

/-- Whether a tree is sound depends on what stands where only. -/
lemma Sound.congr (h : t.Sound) (hsame : ∀ q, t'.node? q = t.node? q) : t'.Sound where
  parent hnode := by
    rw [hsame] at hnode ⊢
    exact h.parent hnode
  name hnode := by
    rw [hsame] at hnode
    exact h.name hnode

/-- A directory of links in a sound tree.

**Proof sketch.** What stands in the new tree is below the place of the directory or not.  If it is,
it is the directory or one of its links, whose parents and names are known.  If it is not, it stood
in the old tree, and so does its parent, which is not below the place either. -/
lemma Sound.of_holds {names : List String} {target : String} (h : t.Sound)
    (hhere : t.node? here = some .directory) (hname : IsFileName name)
    (hholds : t'.Holds (here ++ [name]) names target) (hnames : ∀ x ∈ names, IsFileName x)
    (hsame : ∀ q, ¬here ++ [name] <+: q → t'.node? q = t.node? q) : t'.Sound := by
  -- what stands in the directory or is the directory
  have hwithin : ∀ {p : Place} {x : String} {n : Node}, here ++ [name] <+: p ++ [x] →
      t'.node? (p ++ [x]) = some n →
      (p = here ∧ x = name) ∨ (p = here ++ [name] ∧ x ∈ names) := by
    intro p x n hunder hnode
    rcases List.prefix_concat_iff.1 hunder with heq | hp
    · obtain ⟨rfl, hx⟩ := List.append_inj' heq rfl
      exact .inl ⟨rfl, (by simpa using hx.symm)⟩
    · right
      by_contra hother
      refine absurd hnode ?_
      rw [hholds.other _ hunder (fun heq => not_prefix_of_concat here name ?_) fun y hy heq => ?_]
      · exact nofun
      · rwa [(List.append_inj' heq rfl).1] at hp
      · obtain ⟨rfl, hx⟩ := List.append_inj' heq rfl
        obtain rfl : x = y := by simpa using hx
        exact hother ⟨rfl, hy⟩
  have hhere' : t'.node? here = some .directory := by
    rw [hsame _ (not_prefix_of_concat here name), hhere]
  refine ⟨fun {p x n} hnode => ?_, fun {p x n} hnode => ?_⟩ <;>
    by_cases hunder : here ++ [name] <+: p ++ [x]
  · rcases hwithin hunder hnode with ⟨rfl, -⟩ | ⟨rfl, -⟩
    · exact hhere'
    · exact hholds.directory
  · rw [hsame _ hunder] at hnode
    rw [hsame _ fun hp => hunder (hp.trans (List.prefix_append _ _)), h.parent hnode]
  · rcases hwithin hunder hnode with ⟨-, rfl⟩ | ⟨-, hx⟩
    · exact hname
    · exact hnames x hx
  · rw [hsame _ hunder] at hnode
    exact h.name hnode

end CommandRelay.FileTree
