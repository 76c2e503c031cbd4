import CommandRelay.Proofs.Files.Replacement

/-!
# The directory that a path stands in

What a path names stands in the directory that its parent leads to.  The parent may be the empty
path, which stands for the current directory.

## Main definitions

* `FileTree.Ends` — a path ends in a name, behind names that lead to a place.
* `FileTree.Enters` — names can be put behind a path to name what is in a directory.

## Main results

* `FileTree.Ends.run_makeParent` — making the directory that a path stands in.
* `FileTree.Ends.enters` — the parent of a path can be used to name what stands beside it.
* `FileTree.Enters.names` — a name behind the path of a directory.
-/

namespace CommandRelay.FileTree

variable {t t' : FileTree} {cwd here : Place} {path parent name : String}

/-! ## Names behind the path of a directory -/

/-- Names can be put behind a path, perhaps the empty one, to name what is in a directory that is
there. -/
def Enters (t : FileTree) (cwd : Place) (path : String) (here : Place) : Prop :=
  t.node? here = some .directory ∧ (path = "" ∧ here = cwd ∨ t.PathLeads cwd path here)

/-- **A name behind the path of a directory** names a place in it, if the path is not too long. -/
lemma Enters.names (h : t.Enters cwd path here) (hname : IsFileName name)
    (hshort : (Path.join path name).utf8ByteSize < Way.maxPath) :
    t.Names cwd (Path.join path name) here name := by
  have hplain := hname.isName
  obtain ⟨hdirectory, ⟨rfl, rfl⟩ | hleads⟩ := h
  · have hjoin : Path.join "" name = name := by simp [Path.join]
    rw [hjoin] at hshort ⊢
    have hrelative := Path.isAbsolute_of_noSlash hplain.noSlash
    have hlast : name.toList.getLast? ≠ some '/' := fun h =>
      hplain.noSlash (List.mem_of_getLast? h)
    refine ⟨⟨⟨here, [name], false⟩, [], ?_, rfl, rfl, walk_nil _ _ _⟩, hdirectory, hname⟩
    rw [Path.ofPath_eq_ok]
    refine ⟨hname.noNul, hplain.ne_nil, hshort, ?_⟩
    rw [Path.pieces_of_noSlash hplain.ne_nil hplain.noSlash]
    simp [hrelative, hlast]
  · obtain ⟨w, hw, hleads⟩ := hleads
    refine ⟨⟨⟨w.start, w.names ++ [name], false⟩, w.names, ?_, rfl, rfl, hleads.walk_eq hdirectory⟩,
      hdirectory, hname⟩
    exact (Path.ofPath_join hw hplain.text_ne_empty hplain.noSlash _).2 ⟨hname.noNul, hshort, rfl⟩

/-! ## The parent of a path -/

/-- A path ends in a name, and the names before it lead to a place. -/
structure Ends (t : FileTree) (cwd : Place) (path : String) (here : Place)
    (name : String) : Prop where
  way : ∃ w front, Way.ofPath cwd path = .ok w ∧ w.slash = false ∧ w.names = front ++ [name] ∧
    t.Leads w.start front here
  fileName : IsFileName name

namespace Ends

/-- The path names a place in the directory, if that is there. -/
lemma names (h : t.Ends cwd path here name) (hdirectory : t.node? here = some .directory) :
    t.Names cwd path here name := by
  obtain ⟨w, front, hw, hslash, hnames, hleads⟩ := h.way
  exact ⟨⟨w, front, hw, hslash, hnames, hleads.walk_eq hdirectory⟩, hdirectory, h.fileName⟩

/-- Directories that are made on the way do not lead the path astray. -/
lemma grow (h : t.Ends cwd path here name) (hsound : t'.Sound) (hwithin : t.Within t')
    (hnew : ∀ q, t.node? q = none → t'.node? q = none ∨ t'.node? q = some .directory) :
    t'.Ends cwd path here name := by
  obtain ⟨w, front, hw, hslash, hnames, hleads⟩ := h.way
  exact ⟨⟨w, front, hw, hslash, hnames, hleads.grow hsound hwithin hnew⟩, h.fileName⟩

/-- What stands at a place and below it does not matter to a path that does not lead there. -/
lemma of_eraseBelow {u : Place} (hne : u ≠ []) (h : (t.eraseBelow u).Ends cwd path here name)
    (hplace : ¬u <+: here) : t.Ends cwd path here name := by
  obtain ⟨w, front, hw, hslash, hnames, hleads⟩ := h.way
  exact ⟨⟨w, front, hw, hslash, hnames, hleads.of_eraseBelow hne hplace⟩, h.fileName⟩

/-- **Where the parent of a path leads**, if the system takes it for a path. -/
lemma exists_parent (h : t.Ends cwd path here name) : ∃ parent, Path.parent? path = some parent ∧
    (parent = "" ∧ here = cwd ∧ t.node? cwd = some .directory ∨
      parent ≠ "" ∧ (Path.IsPath parent → t.PathLeads cwd parent here)) := by
  obtain ⟨w, front, hw, -, hnames, hleads⟩ := h.way
  obtain ⟨parent, hparent, ⟨rfl, hstart, hbare⟩ | ⟨hne, hway⟩⟩ :=
    Path.ofPath_parent hw hnames h.fileName.ne_dot
  · refine ⟨"", hparent, .inl ⟨rfl, ?_⟩⟩
    have hdirectory := hleads.isDirectory_start
    rw [hstart] at hleads hdirectory
    -- single dots do not lead away from a directory
    have hhere : t.Leads cwd [] here := hleads.congr hbare
    exact ⟨(hhere.eq_of_walk (walk_nil _ _ _)).symm, hdirectory⟩
  · refine ⟨parent, hparent, .inr ⟨hne, fun hpath => ?_⟩⟩
    obtain ⟨w', hw'⟩ := Path.exists_way_iff.2 hpath
    obtain ⟨hstart, hbare⟩ := hway w' hw'
    exact ⟨w', hw', hstart ▸ hleads.congr hbare.symm⟩

/-- The parent of a path can be used to name what stands beside it. -/
lemma enters (h : t.Ends cwd path here name) (hparent : Path.parent? path = some parent)
    (hdirectory : t.node? here = some .directory) (hpath : parent = "" ∨ Path.IsPath parent) :
    t.Enters cwd parent here := by
  obtain ⟨_, hparent', hcases⟩ := h.exists_parent
  rw [hparent] at hparent'
  cases hparent'
  rcases hcases with ⟨rfl, hhere, -⟩ | ⟨hne, hleads⟩
  · exact ⟨hdirectory, .inl ⟨rfl, hhere⟩⟩
  · exact ⟨hdirectory, .inr (hleads (hpath.resolve_left hne))⟩

/-- **Making the directory that a path stands in** makes missing directories above the place only,
and that directory is there if the script succeeds. -/
lemma run_makeParent (h : t.Ends cwd path here name) (hsound : t.Sound)
    (hparent : Path.parent? path = some parent) :
    let out := (Script.makeDirectories parent).run cwd t
    out.2.Sound ∧ Paved here t out.2 ∧ (out.1 = .ok () →
      out.2.node? here = some .directory ∧ (parent = "" ∨ Path.IsPath parent)) := by
  intro out
  obtain ⟨_, hparent', hcases⟩ := h.exists_parent
  rw [hparent] at hparent'
  cases hparent'
  rcases hcases with ⟨rfl, rfl, hdirectory⟩ | ⟨hne, hleads⟩
  · exact ⟨hsound, .refl _ _, fun _ => ⟨hdirectory, .inl rfl⟩⟩
  by_cases hpath : Path.IsPath parent
  · obtain ⟨hsound', hpaved, hmade⟩ := (hleads hpath).run_makeDirectories hsound
    exact ⟨hsound', hpaved, fun hdone => ⟨hmade hdone, .inr hpath⟩⟩
  · have hbarred : t.Barred cwd parent := .of_not_isPath hne hpath
    obtain ⟨e, hrun⟩ := hbarred.run_makeDirectories hne
    have hout : out = (.error e, t) := hrun
    rw [hout]
    exact ⟨hsound, .refl _ _, nofun⟩

/-- The directory that a path stands in need not be made if it is there. -/
lemma run_makeParent_there (h : t.Ends cwd path here name)
    (hparent : Path.parent? path = some parent) (hdirectory : t.node? here = some .directory)
    (hpath : parent = "" ∨ Path.IsPath parent) :
    (Script.makeDirectories parent).run cwd t = (.ok (), t) := by
  obtain ⟨-, ⟨rfl, -⟩ | hleads⟩ := h.enters hparent hdirectory hpath
  · rfl
  · exact hleads.run_makeDirectories_there hdirectory

end Ends

end CommandRelay.FileTree
