import CommandRelay.Proofs.Files.Soundness
import CommandRelay.Proofs.Path.Lineage

/-!
# Paths that lead to a place

A path leads to a place if the directory that it names is there, or would be there once the missing
directories on the way are made.  Links and `..` may occur on the way as long as what they refer to
is there; behind the first missing directory there are plain names only, and single dots.

## Main definitions

* `FileTree.Leads`, `FileTree.PathLeads` — names and paths that lead to a place.

## Main results

* `FileTree.Leads.walk_eq`, `FileTree.Leads.walk_error` — where the walk along the names ends.
* `FileTree.Leads.grow` — directories that are made on the way do not lead it astray.
* `FileTree.Leads.prefix_of_missing` — a missing directory on the way stands above the place.
* `FileTree.PathLeads.lstat_join` — what stands in the directory that a path leads to.
* `FileTree.PathLeads.of_locate_lineage` — which directories are made on the way.
-/

namespace CommandRelay.FileTree

variable {t t' : FileTree} {start place : Place} {names : List String}

/-- Names that lead to a place from another one, once the missing directories are made. -/
inductive Leads (t : FileTree) (start : Place) : List String → Place → Prop where
  | there {names : List String} {place : Place} (hwalk : t.walk maxLinks start names = .ok place)
      (hplace : t.node? place = some .directory) : Leads t start names place
  | dot {names : List String} {place : Place} (h : Leads t start names place) :
      Leads t start (names ++ ["."]) place
  | missing {names : List String} {place : Place} {name : String} (h : Leads t start names place)
      (hname : IsFileName name) (hnone : t.node? (place ++ [name]) = none) :
      Leads t start (names ++ [name]) (place ++ [name])

/-- Names end in a name and single dots if they do without single dots. -/
lemma exists_of_bare_concat {names init : List String} {name : String}
    (h : bare names = init ++ [name]) :
    ∃ front dots, names = front ++ name :: dots ∧ bare front = init ∧ bare dots = [] := by
  induction names using List.reverseRecOn generalizing init with
  | nil => simp at h
  | append_singleton names last ih =>
    by_cases hdot : last = "."
    · subst hdot
      obtain ⟨front, dots, rfl, hfront, hdots⟩ := ih (by simpa using h)
      exact ⟨front, dots ++ ["."], by simp, hfront, by simp [hdots]⟩
    · rw [bare_append, bare_cons hdot, bare_nil] at h
      obtain ⟨hinit, hlast⟩ := List.append_inj' h rfl
      obtain rfl : last = name := by simpa using hlast
      exact ⟨names, [], rfl, hinit, rfl⟩

namespace Leads

/-- There is a directory at the place or nothing yet. -/
lemma directory_or_none (h : t.Leads start names place) :
    t.node? place = some .directory ∨ t.node? place = none := by
  induction h with
  | there _ hplace => exact .inl hplace
  | dot _ ih => exact ih
  | missing _ _ hnone _ => exact .inr hnone

/-- The names start at a directory. -/
lemma isDirectory_start (h : t.Leads start names place) : t.node? start = some .directory := by
  induction h with
  | there hwalk hplace => exact FileTree.isDirectory_start hwalk hplace
  | dot _ ih => exact ih
  | missing _ _ _ ih => exact ih

/-- **A walk to a directory that is there** ends there. -/
lemma walk_eq (h : t.Leads start names place) (hplace : t.node? place = some .directory) :
    t.walk maxLinks start names = .ok place := by
  induction h with
  | there hwalk _ => exact hwalk
  | dot _ ih => exact walk_snoc (ih hplace) (child_dot hplace) hplace rfl
  | missing _ _ hnone _ =>
    rw [hnone] at hplace
    cases hplace

/-- **A walk to a directory that is missing** finds nothing. -/
lemma walk_error (h : t.Leads start names place) (hplace : t.node? place = none) :
    t.walk maxLinks start names = .error .notFound := by
  induction h with
  | there _ hdirectory =>
    rw [hdirectory] at hplace
    cases hplace
  | dot _ ih => exact walk_append_error (ih hplace) ["."]
  | missing h hname hnone ih =>
    rcases h.directory_or_none with hdirectory | habove
    · exact walk_snoc_error (h.walk_eq hdirectory) (child_name hdirectory hname) hnone
    · exact walk_append_error (ih habove) _

/-- Names that are walked end at the place that they lead to. -/
lemma eq_of_walk (h : t.Leads start names place) {q : Place}
    (hwalk : t.walk maxLinks start names = .ok q) : q = place := by
  rcases h.directory_or_none with hdirectory | hnone
  · rw [h.walk_eq hdirectory] at hwalk
    exact (Except.ok.inj hwalk).symm
  · rw [h.walk_error hnone] at hwalk
    cases hwalk

/-- **Directories that are made on the way** do not lead it astray. -/
lemma grow (h : t.Leads start names place) (hsound : t'.Sound) (hwithin : t.Within t')
    (hnew : ∀ q, t.node? q = none → t'.node? q = none ∨ t'.node? q = some .directory) :
    t'.Leads start names place := by
  induction h with
  | there hwalk hplace => exact .there (hwithin.walk hwalk) (hwithin _ _ hplace)
  | dot _ ih => exact ih.dot
  | missing _ hname hnone ih =>
    rcases hnew _ hnone with hnone' | hmade
    · exact ih.missing hname hnone'
    · have habove : t'.node? _ = some .directory := hsound.parent hmade
      exact .there (walk_snoc (ih.walk_eq habove) (child_name habove hname) hmade rfl) hmade

/-- What stands below a place does not matter to names that lead elsewhere, or to the place itself.
-/
lemma of_eraseInside {u : Place} (h : (t.eraseInside u).Leads start names place)
    (hplace : ¬u <+: place ∨ place = u) : t.Leads start names place := by
  induction h with
  | there hwalk hdirectory =>
    have hwithin : (t.eraseInside u).Within t := .eraseInside u
    exact .there (hwithin.walk hwalk) (hwithin _ _ hdirectory)
  | dot _ ih => exact (ih hplace).dot
  | @missing names place name h hname hnone ih =>
    have habove : ¬u <+: place := by
      intro hbelow
      rcases hplace with hnot | rfl
      · exact hnot (hbelow.trans (List.prefix_append _ _))
      · exact not_prefix_of_concat _ _ hbelow
    rw [node?_eraseInside, if_neg fun hbelow => hplace.elim (fun h => h hbelow.1) hbelow.2] at hnone
    exact (ih (.inl habove)).missing hname hnone

/-- What stands at a place and below it does not matter to names that lead elsewhere. -/
lemma of_eraseBelow {u : Place} (hne : u ≠ []) (h : (t.eraseBelow u).Leads start names place)
    (hplace : ¬u <+: place) : t.Leads start names place := by
  induction h with
  | there hwalk hdirectory =>
    have hwithin : (t.eraseBelow u).Within t := .eraseBelow hne
    exact .there (hwithin.walk hwalk) (hwithin _ _ hdirectory)
  | dot _ ih => exact (ih hplace).dot
  | missing _ hname hnone ih =>
    rw [node?_eraseBelow _ hne, if_neg hplace] at hnone
    exact (ih fun hbelow => hplace (hbelow.trans (List.prefix_append _ _))).missing hname hnone

/-- A name behind which there is nothing but single dots. -/
lemma missing_dots (h : t.Leads start names place) {name : String} (hname : IsFileName name)
    (hnone : t.node? (place ++ [name]) = none) {dots : List String} (hdots : bare dots = []) :
    t.Leads start (names ++ name :: dots) (place ++ [name]) := by
  induction dots using List.reverseRecOn with
  | nil => exact h.missing hname hnone
  | append_singleton dots last ih =>
    rw [bare_append, List.append_eq_nil_iff] at hdots
    have hlast : last = "." := by
      by_contra hne
      rw [bare_cons hne] at hdots
      cases hdots.2
    rw [hlast, ← List.cons_append, ← List.append_assoc]
    exact (ih hdots.1).dot

/-- **Names that are the same but for single dots** lead to the same place. -/
lemma congr (h : t.Leads start names place) {names' : List String}
    (hbare : bare names = bare names') :
    t.Leads start names' place := by
  induction h generalizing names' with
  | there hwalk hplace => exact .there (walk_congr hwalk hplace hbare) hplace
  | dot _ ih => exact ih (by simpa using hbare)
  | @missing names place name h hname hnone ih =>
    rw [bare_append, bare_cons hname.ne_dot, bare_nil] at hbare
    -- the last name that is no dot is the one that is missing
    obtain ⟨front, dots, rfl, hfront, hdots⟩ := exists_of_bare_concat hbare.symm
    exact (ih hfront.symm).missing_dots hname hnone hdots

/-- **A missing directory on the way** stands above the place.

**Proof sketch.** By induction on how the names lead there.  A walk that ends at a directory misses
nothing on the way; and the first names of those that lead to a missing directory are either those
that lead to its parent, or the parent lies on the way of them. -/
lemma prefix_of_missing (h : t.Leads start names place) {front rest : List String} {name : String}
    {here : Place} (hdot : name ≠ ".") (hbare : bare names = bare front ++ name :: rest)
    (hwalk : t.walk maxLinks start front = .ok here)
    (hchild : t.child here name = .ok (here ++ [name]))
    (hnone : t.node? (here ++ [name]) = none) : here ++ [name] <+: place := by
  have hhere := isDirectory_of_child hchild
  induction h generalizing rest with
  | @there names place hwalk' hplace =>
    have hsame : bare names = bare (front ++ [name] ++ rest) := by
      rw [← bare_bare names, hbare]
      simp
    have hgoes := walk_congr hwalk' hplace hsame
    rw [walk_append_error (walk_snoc_error hwalk hchild hnone)] at hgoes
    cases hgoes
  | dot h ih => exact ih (by simpa using hbare)
  | @missing names place last h hname hmissing ih =>
    rw [bare_append, bare_cons hname.ne_dot, bare_nil] at hbare
    rcases List.eq_nil_or_concat rest with rfl | ⟨rest, x, rfl⟩
    · obtain ⟨hfront, hlast⟩ := List.append_inj' hbare rfl
      obtain rfl : last = name := by simpa using hlast
      have hends : t.walk maxLinks start names = .ok here := walk_congr hwalk hhere hfront.symm
      rw [h.eq_of_walk hends]
    · rw [List.concat_eq_append, ← List.cons_append, ← List.append_assoc] at hbare
      exact (ih (List.append_inj' hbare rfl).1).trans (List.prefix_append _ _)

/-- If only the last directory is missing, the names lead to it. -/
lemma place_of_missing {front : List String} {name : String} {here : Place}
    (h : t.Leads start (front ++ [name]) place) (hdot : name ≠ ".")
    (hwalk : t.walk maxLinks start front = .ok here)
    (hchild : t.child here name = .ok (here ++ [name]))
    (hnone : t.node? (here ++ [name]) = none) : here ++ [name] = place := by
  generalize hnames : front ++ [name] = names at h
  cases h with
  | there hwalk' _ =>
    rw [← hnames, walk_snoc_error hwalk hchild hnone] at hwalk'
    cases hwalk'
  | dot _ => exact absurd (by simpa using (List.append_inj' hnames rfl).2) hdot
  | missing h _ _ =>
    obtain ⟨rfl, hname⟩ := List.append_inj' hnames rfl
    rw [h.eq_of_walk hwalk, hname]

end Leads

/-! ## Paths -/

/-- A path is located by walking along all names but the last. -/
lemma locate_eq {cwd : Place} {path : String} {w : Way} {front : List String} {name : String}
    (hw : Way.ofPath cwd path = .ok w) (hnames : w.names = front ++ [name]) :
    t.locate cwd path = (t.walk maxLinks w.start front).bind fun here => t.child here name := by
  have hlast : w.names.getLast? = some name := by simp [hnames]
  have hfront : w.names.dropLast = front := by simp [hnames]
  simp only [locate, hw, bind, Except.bind, hlast, hfront]

/-- A path that is located describes a way. -/
lemma exists_way {cwd : Place} {path : String} {p : Place} (h : t.locate cwd path = .ok p) :
    ∃ w, Way.ofPath cwd path = .ok w := by
  cases hw : Way.ofPath cwd path with
  | ok w => exact ⟨w, rfl⟩
  | error e => simp [locate, hw, bind, Except.bind] at h

/-- **A missing place is named by the last name of a path**, in a directory that is there.

**Proof sketch.** A path without names stands for its start, where a directory is.  The last name of
any other path is a dot, a double dot or a name in the directory that the names before it lead to; a
dot stands for that directory and a double dot for the one above, and both are there, so it is a
name. -/
lemma locate_missing {cwd : Place} {path : String} {w : Way} {p : Place}
    (hw : Way.ofPath cwd path = .ok w) (hstart : t.node? w.start = some .directory)
    (hsound : t.Sound) (hlocate : t.locate cwd path = .ok p) (hnone : t.node? p = none) :
    ∃ front here name, w.names = front ++ [name] ∧ t.walk maxLinks w.start front = .ok here ∧
      t.child here name = .ok (here ++ [name]) ∧ IsFileName name ∧ p = here ++ [name] := by
  rcases List.eq_nil_or_concat w.names with hnil | ⟨front, name, hnames⟩
  · have hp : w.start = p := by
      simpa [locate, hw, hnil, bind, Except.bind, pure, Except.pure] using hlocate
    rw [← hp, hstart] at hnone
    cases hnone
  rw [List.concat_eq_append] at hnames
  rw [locate_eq hw hnames] at hlocate
  cases hwalk : t.walk maxLinks w.start front with
  | error e => simp [hwalk, Except.bind] at hlocate
  | ok here =>
    have hchild : t.child here name = .ok p := by simpa [hwalk, Except.bind] using hlocate
    obtain ⟨hhere, ⟨-, rfl⟩ | ⟨-, rfl⟩ | ⟨hdot, hup, hshort, rfl⟩⟩ := child_eq_ok.1 hchild
    · rw [hhere] at hnone
      cases hnone
    · -- above a directory there is another one
      by_cases htop : here.dropLast = here
      · rw [htop, hhere] at hnone
        cases hnone
      · rw [hsound.above (List.dropLast_prefix here) htop hhere] at hnone
        cases hnone
    · have hmem : name ∈ w.names := by simp [hnames]
      obtain ⟨hne, hslash, hnul⟩ := Path.mem_names hw hmem
      refine ⟨front, here, name, hnames, hwalk, hchild, ⟨⟨hne, fun h => hdot ?_, fun h => hup ?_,
        hslash⟩, hnul, hshort⟩, rfl⟩
      · exact String.toList_injective h
      · exact String.toList_injective h

/-- A path leads to a place. -/
def PathLeads (t : FileTree) (cwd : Place) (path : String) (place : Place) : Prop :=
  ∃ w, Way.ofPath cwd path = .ok w ∧ t.Leads w.start w.names place

namespace PathLeads

variable {cwd : Place} {path name : String}

/-- A path that leads somewhere is not empty. -/
lemma path_ne_empty (h : t.PathLeads cwd path place) : path ≠ "" := by
  obtain ⟨w, hw, -⟩ := h
  rintro rfl
  exact (Path.ofPath_eq_ok.1 hw).2.1 rfl

/-- Where a path leads to, there is a directory or nothing. -/
lemma directory_or_none (h : t.PathLeads cwd path place) :
    t.node? place = some .directory ∨ t.node? place = none := by
  obtain ⟨w, -, hleads⟩ := h
  exact hleads.directory_or_none

/-- Directories that are made on the way do not lead a path astray. -/
lemma grow (h : t.PathLeads cwd path place) (hsound : t'.Sound) (hwithin : t.Within t')
    (hnew : ∀ q, t.node? q = none → t'.node? q = none ∨ t'.node? q = some .directory) :
    t'.PathLeads cwd path place := by
  obtain ⟨w, hw, hleads⟩ := h
  exact ⟨w, hw, hleads.grow hsound hwithin hnew⟩

/-- A path leads to a place if it does so without what is inside another place that is not on the
way. -/
lemma of_eraseInside {u : Place} (h : (t.eraseInside u).PathLeads cwd path place)
    (hplace : ¬u <+: place ∨ place = u) : t.PathLeads cwd path place := by
  obtain ⟨w, hw, hleads⟩ := h
  exact ⟨w, hw, hleads.of_eraseInside hplace⟩

/-- One more dot at the end of the way, as for a path that ends in a slash, leads to the same place.
-/
lemma leads_slash {w : Way} (h : t.Leads w.start w.names place) :
    t.Leads w.start (w.names ++ if w.slash then ["."] else []) place := by
  split_ifs
  · exact h.dot
  · simpa using h

/-- A path resolves to the directory that it leads to. -/
lemma resolve_eq (h : t.PathLeads cwd path place) (hplace : t.node? place = some .directory) :
    t.resolve cwd path = .ok place := by
  obtain ⟨w, hw, hleads⟩ := h
  simp only [resolve, hw]
  exact (leads_slash hleads).walk_eq hplace

/-- A path that leads to nothing does not resolve, for this reason alone. -/
lemma resolve_error (h : t.PathLeads cwd path place) (hplace : t.node? place = none) :
    t.resolve cwd path = .error .notFound := by
  obtain ⟨w, hw, hleads⟩ := h
  simp only [resolve, hw]
  exact (leads_slash hleads).walk_error hplace

/-- **The place of a name behind a path.** -/
lemma locate_join (h : t.PathLeads cwd path place) (hname : Path.IsName name.toList) {p : Place} :
    t.locate cwd (Path.join path name) = .ok p ↔
      t.node? place = some .directory ∧ IsFileName name ∧
        (Path.join path name).utf8ByteSize < Way.maxPath ∧ p = place ++ [name] := by
  obtain ⟨w, hw, hleads⟩ := h
  have hway := Path.ofPath_join hw hname.text_ne_empty hname.noSlash
  constructor
  · intro hlocate
    cases hjoin : Way.ofPath cwd (Path.join path name) with
    | error e => simp [locate, hjoin, bind, Except.bind] at hlocate
    | ok w' =>
      obtain ⟨hnul, hlong, rfl⟩ := (hway w').1 hjoin
      rw [locate_eq hjoin rfl] at hlocate
      rcases hleads.directory_or_none with hplace | hnone
      · rw [hleads.walk_eq hplace] at hlocate
        rcases (child_eq_ok.1 hlocate).2 with ⟨h, -⟩ | ⟨h, -⟩ | ⟨-, -, hshort, hp⟩
        · exact absurd h hname.text_ne_dot
        · exact absurd h hname.text_ne_up
        · exact ⟨hplace, ⟨hname, hnul, hshort⟩, hlong, hp⟩
      · rw [hleads.walk_error hnone] at hlocate
        cases hlocate
  · rintro ⟨hplace, hfile, hlong, rfl⟩
    have hjoin := (hway _).2 ⟨hfile.noNul, hlong, rfl⟩
    rw [locate_eq hjoin rfl, hleads.walk_eq hplace]
    exact child_name hplace hfile

/-- A name behind a path names no directory that it leads to. -/
lemma reach_join (h : t.PathLeads cwd path place) (hname : Path.IsName name.toList) :
    t.reach cwd (Path.join path name) = t.locate cwd (Path.join path name) := by
  obtain ⟨w, hw, hleads⟩ := h
  cases hjoin : Way.ofPath cwd (Path.join path name) with
  | error e => simp [reach, locate, hjoin, bind, Except.bind]
  | ok w' =>
    obtain ⟨-, -, rfl⟩ := (Path.ofPath_join hw hname.text_ne_empty hname.noSlash w').1 hjoin
    simp [reach, hjoin, bind, Except.bind]

/-- What is seen behind a path stands in the directory that it leads to. -/
lemma of_lstat_join (h : t.PathLeads cwd path place) (hname : Path.IsName name.toList) {n : Node}
    (hlstat : t.lstat cwd (Path.join path name) = .ok n) : t.node? (place ++ [name]) = some n := by
  rw [lstat, h.reach_join hname] at hlstat
  cases hlocate : t.locate cwd (Path.join path name) with
  | error e => simp [hlocate, bind, Except.bind] at hlstat
  | ok p =>
    obtain ⟨-, -, -, rfl⟩ := (h.locate_join hname).1 hlocate
    cases hnode : t.node? (place ++ [name]) with
    | none => simp [hlocate, hnode, bind, Except.bind, throw, throwThe,
        MonadExceptOf.throw] at hlstat
    | some m => simpa [hlocate, hnode, bind, Except.bind, pure, Except.pure] using hlstat

/-- **What stands in the directory that a path leads to** is seen behind the path. -/
lemma lstat_join (h : t.PathLeads cwd path place) (hsound : t.Sound) (hroomy : Path.Roomy path)
    (hname : Path.IsName name.toList) {n : Node} :
    t.lstat cwd (Path.join path name) = .ok n ↔ t.node? (place ++ [name]) = some n := by
  refine ⟨h.of_lstat_join hname, fun hnode => ?_⟩
  have hfile := hsound.name hnode
  have hlocate := (h.locate_join hname).2
    ⟨hsound.parent hnode, hfile, hroomy.join_lt hfile.short, rfl⟩
  rw [lstat, h.reach_join hname]
  simp [hlocate, hnode, bind, Except.bind, pure, Except.pure]

/-- Nothing stands where no name is seen behind the path. -/
lemma node?_of_lstat_join_error (h : t.PathLeads cwd path place) (hsound : t.Sound)
    (hroomy : Path.Roomy path) (hname : Path.IsName name.toList) {e : FileError}
    (herror : t.lstat cwd (Path.join path name) = .error e) : t.node? (place ++ [name]) = none := by
  rw [Option.eq_none_iff_forall_ne_some]
  intro n hn
  rw [(h.lstat_join hsound hroomy hname).2 hn] at herror
  cases herror

/-- A name that a directory can hold is not found where nothing stands. -/
lemma lstat_join_notFound (h : t.PathLeads cwd path place) (hroomy : Path.Roomy path)
    (hname : IsFileName name) (hnone : t.node? (place ++ [name]) = none) :
    t.lstat cwd (Path.join path name) = .error .notFound := by
  have hreach := h.reach_join hname.isName
  obtain ⟨w, hw, hleads⟩ := h
  have hjoin := (Path.ofPath_join hw hname.isName.text_ne_empty hname.isName.noSlash _).2
    ⟨hname.noNul, hroomy.join_lt hname.short, rfl⟩
  rw [lstat, hreach, locate_eq hjoin rfl]
  rcases hleads.directory_or_none with hplace | hmissing
  · rw [hleads.walk_eq hplace]
    have hchild := child_name hplace hname
    simp [Except.bind, bind, hchild, hnone, throw, throwThe, MonadExceptOf.throw]
  · rw [hleads.walk_error hmissing]
    rfl

/-- **Which directories are made on the way**: a directory above a path, if it is missing, stands
above the place and in a directory that is there. -/
lemma of_locate_lineage (h : t.PathLeads cwd path place) (hsound : t.Sound) {q : String}
    (hq : q ∈ Path.lineage path) {p : Place} (hlocate : t.locate cwd q = .ok p)
    (hnone : t.node? p = none) :
    p <+: place ∧ ∃ here name,
      p = here ++ [name] ∧ t.node? here = some .directory ∧ IsFileName name := by
  obtain ⟨w, hw, hleads⟩ := h
  obtain ⟨w', hw'⟩ := exists_way hlocate
  obtain ⟨hstart, rest, hrest⟩ := Path.ofPath_lineage hw hq hw'
  have hdirectory : t.node? w'.start = some .directory := by rw [hstart, hleads.isDirectory_start]
  obtain ⟨front, here, name, hnames, hwalk, hchild, hname, rfl⟩ :=
    locate_missing hw' hdirectory hsound hlocate hnone
  rw [hnames, bare_append, bare_cons hname.ne_dot, bare_nil, List.append_assoc] at hrest
  rw [hstart] at hwalk
  exact ⟨hleads.prefix_of_missing hname.ne_dot hrest hwalk hchild hnone, here, name, rfl,
    isDirectory_of_child hchild, hname⟩

/-- The directory that a path names, if it is missing, is the one that it leads to. -/
lemma of_locate (h : t.PathLeads cwd path place) (hsound : t.Sound) {p : Place}
    (hlocate : t.locate cwd path = .ok p) (hnone : t.node? p = none) : p = place := by
  obtain ⟨w, hw, hleads⟩ := h
  obtain ⟨front, here, name, hnames, hwalk, hchild, hname, rfl⟩ :=
    locate_missing hw hleads.isDirectory_start hsound hlocate hnone
  rw [hnames] at hleads
  exact hleads.place_of_missing hname.ne_dot hwalk hchild hnone

end PathLeads

end CommandRelay.FileTree
