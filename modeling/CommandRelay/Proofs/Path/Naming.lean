import CommandRelay.Path.Mapping
import CommandRelay.Proofs.Path.Segments

/-!
# Names of files, segment by segment

The mapping of names works on texts: it takes directories off the front of one and puts them on.
What it means is a mapping of segments, in which a directory is in front of a path if its segments
are the first ones of the path.

## Main definitions

* `Landmarks` — the directories that decide a name, by their segments.
* `Landmarks.toForeign`, `Landmarks.toLocal` — the names, by their segments.
* `PathMapping.IsTidy` — a mapping whose directories are written as they should be.

## Main results

* `PathMapping.toForeignChars_render`, `PathMapping.toLocalChars_render` — both ways, for absolute
  paths.
* `PathMapping.translate_bySegments` — both ways, for every path.
-/

namespace CommandRelay

open CommandRelay.Path

/-- The segments of a path. -/
abbrev Segments : Type := List (List Char)

/-- Everything that decides how a file is named on the other side, by segments. -/
structure Landmarks where
  /-- Directories with the same name on both sides. -/
  linked : List Segments
  /-- Where the foreign side sees this machine's files. -/
  mount : Segments
  /-- What a user writes in front of a path that is already foreign. -/
  explicit : Segments
  /-- Where explicitly foreign paths are rooted. -/
  foreignRoot : Segments
  /-- The directory that the container's files are exported to. -/
  exported : Option Segments
  home : Option Segments
  cwd : Option Segments
  mode : MappingMode

namespace Landmarks

/-- Whether some linked directory is in front. -/
def IsLinked (l : Landmarks) (segs : Segments) : Prop := ∃ dir ∈ l.linked, dir <+: segs

/-- The linked directories are gone through. -/
instance (l : Landmarks) (segs : Segments) : Decidable (l.IsLinked segs) :=
  inferInstanceAs (Decidable (∃ dir ∈ l.linked, dir <+: segs))

/-- Whether paths like this one are mapped at all. -/
def IsMapped (l : Landmarks) (segs : Segments) : Prop :=
  l.mode = .aggressive ∨ ∃ dir ∈ l.home, dir <+: segs

/-- The ways to be mapped are tried one by one. -/
instance (l : Landmarks) (segs : Segments) : Decidable (l.IsMapped segs) :=
  inferInstanceAs (Decidable (l.mode = .aggressive ∨ ∃ dir ∈ l.home, dir <+: segs))

/-- The foreign name of an absolute path. -/
def toForeign (l : Landmarks) (segs : Segments) : Segments :=
  if l.IsLinked segs then segs
  else if l.explicit <+: segs then l.foreignRoot ++ segs.drop l.explicit.length
  else if l.mount <+: segs then segs
  else if l.IsMapped segs then l.mount ++ segs
  else segs

/-- The name of an absolute path in the mount namespace of a session. -/
def toLocal (l : Landmarks) (segs : Segments) : Segments :=
  match l.exported.filter (· <+: segs) with
  | some dir => segs.drop dir.length
  | none =>
    if l.IsLinked segs then segs
    else if l.mount <+: segs then segs
    else l.mount ++ segs

/-- The segments from the root, if the current directory is known where it is needed. -/
def resolve? (l : Landmarks) (absolute : Bool) (segs : Segments) : Option Segments :=
  if absolute then some segs else l.cwd.map fun dir => descend dir segs

end Landmarks

namespace PathMapping

/-- The directories of a mapping by their segments; a container's export is the directory of its
name below the parent of all exports. -/
def landmarks (m : PathMapping) : Landmarks where
  linked := m.linked.map fun dir => segments dir.toList
  mount := segments m.mountPrefix.toList
  explicit := segments m.explicitPrefix.toList
  foreignRoot := segments m.foreignRoot.toList
  exported := match m.exportRoot, m.container with
    | some root, some container => some (segments root.toList ++ [container.toList])
    | _, _ => none
  home := m.home.map fun dir => segments dir.toList
  cwd := m.cwd.map fun dir => segments dir.toList
  mode := m.mode

/-- A mapping whose directories are absolute and clean but for slashes at their ends, where the home
directory only has to be absolute, and whose container is one name. -/
structure IsTidy (m : PathMapping) : Prop where
  linked : ∀ dir ∈ m.linked, Path.IsTidy dir.toList
  mount : Path.IsTidy m.mountPrefix.toList
  explicit : Path.IsTidy m.explicitPrefix.toList
  foreignRoot : Path.IsTidy m.foreignRoot.toList
  exportRoot : ∀ dir ∈ m.exportRoot, Path.IsTidy dir.toList
  container : ∀ name ∈ m.container, IsName name.toList
  home : ∀ dir ∈ m.home, isAbsolute dir.toList = true
  cwd : ∀ dir ∈ m.cwd, Path.IsTidy dir.toList

variable {m : PathMapping} (h : m.IsTidy) {segs : Segments} (hsegs : ∀ s ∈ segs, IsName s)

/-! ## The tests -/

include h hsegs in
/-- A rendered path is linked just if its segments are. -/
lemma isLinked_render :
    m.isLinked (render true segs) = decide (m.landmarks.IsLinked segs) := by
  rw [isLinked, Bool.eq_iff_iff, List.any_eq_true, decide_eq_true_eq, Landmarks.IsLinked]
  constructor
  · rintro ⟨dir, hdir, hunder⟩
    rw [isUnder_render (h.linked dir hdir) hsegs, decide_eq_true_eq] at hunder
    exact ⟨_, List.mem_map_of_mem hdir, hunder⟩
  · rintro ⟨_, hmem, hpre⟩
    obtain ⟨dir, hdir, rfl⟩ := List.mem_map.1 hmem
    refine ⟨dir, hdir, ?_⟩
    rw [isUnder_render (h.linked dir hdir) hsegs]
    exact decide_eq_true hpre

include h hsegs in
/-- A rendered path is in the home directory just if its segments start with those of the home. -/
lemma isHome_render :
    m.isHome (render true segs) = decide (∃ dir ∈ m.landmarks.home, dir <+: segs) := by
  cases hhome : m.home with
  | none => simp [isHome, landmarks, hhome]
  | some dir =>
    have habs : isAbsolute dir.toList = true := h.home dir hhome
    simp [isHome, landmarks, hhome, isUnder_render (isTidy_cleanChars habs) hsegs]

include h in
/-- The directory of a container's export is cleaned, and its segments are the landmark. -/
lemma exportDir?_eq : m.exportDir? = m.landmarks.exported.map (render true) ∧
    ∀ dir ∈ m.landmarks.exported, ∀ s ∈ dir, IsName s := by
  cases hroot : m.exportRoot with
  | none => simp [exportDir?, landmarks, hroot]
  | some root =>
    cases hcontainer : m.container with
    | none => simp [exportDir?, landmarks, hroot, hcontainer]
    | some container =>
      have htidy := h.exportRoot root hroot
      have hname := h.container container hcontainer
      have habs := isAbsolute_append htidy.absolute ('/' :: container.toList)
      have hexported :
          m.landmarks.exported = some (segments root.toList ++ [container.toList]) := by
        simp [landmarks, hroot, hcontainer]
      constructor
      · rw [hexported]
        simp only [exportDir?, hroot, hcontainer, Option.map_some]
        rw [cleanChars_of_isAbsolute habs, segments_name htidy.absolute hname]
      · intro dir hdir s hs
        rw [hexported, Option.mem_some_iff] at hdir
        subst hdir
        rcases List.mem_append.1 hs with hs | hs
        · exact isName_segments htidy.absolute s hs
        · exact List.mem_singleton.1 hs ▸ hname

/-! ## Absolute paths -/

include h hsegs in
/-- **The foreign name** of an absolute path, segment by segment.

**Proof sketch.** Every test in the definition has its form for segments: linked, under a directory,
at home.  With these the definition on characters goes through the same cases as that on segments,
in the same order, and each case writes the same path. -/
lemma toForeignChars_render :
    m.toForeignChars (render true segs) = render true (m.landmarks.toForeign segs) := by
  have hclean : cleanChars (render true segs) = render true segs :=
    cleanChars_render (isNormal_true_iff.2 hsegs)
  have habs : isAbsolute (render true segs) = true := rfl
  simp only [toForeignChars, hclean, habs, Bool.not_true, Bool.false_eq_true, if_false,
    isLinked_render h hsegs, remainderUnder?_render h.explicit hsegs,
    isUnder_render h.mount hsegs, isHome_render h hsegs, joinUnder_render h.mount hsegs,
    decide_eq_true_eq]
  rw [Landmarks.toForeign]
  by_cases hlinked : m.landmarks.IsLinked segs
  · rw [if_pos hlinked, if_pos hlinked]
  rw [if_neg hlinked, if_neg hlinked]
  by_cases hexplicit : segments m.explicitPrefix.toList <+: segs
  · have hrest : ∀ s ∈ segs.drop (segments m.explicitPrefix.toList).length, IsName s :=
      fun s hs => hsegs s (List.mem_of_mem_drop hs)
    rw [if_pos hexplicit, if_pos (show m.landmarks.explicit <+: segs from hexplicit)]
    exact joinUnder_render h.foreignRoot hrest
  rw [if_neg hexplicit, if_neg (show ¬m.landmarks.explicit <+: segs from hexplicit)]
  by_cases hmount : segments m.mountPrefix.toList <+: segs
  · rw [if_pos hmount]
    exact congrArg (render true) (if_pos hmount).symm
  rw [if_neg hmount, if_neg (show ¬m.landmarks.mount <+: segs from hmount)]
  -- only here the mode makes a difference
  cases hmode : m.mode with
  | aggressive =>
    have hmapped : m.landmarks.IsMapped segs := .inl hmode
    simp only [if_pos hmapped]
    rfl
  | relaxed =>
    have hiff : m.landmarks.IsMapped segs ↔ ∃ dir ∈ m.landmarks.home, dir <+: segs :=
      or_iff_right (by simp [landmarks, hmode])
    by_cases hhome : ∃ dir ∈ m.landmarks.home, dir <+: segs
    · simp only [if_pos hhome, if_pos (hiff.2 hhome)]
      rfl
    · simp only [if_neg hhome, if_neg (mt hiff.1 hhome)]

include h hsegs in
/-- **The name in a session** of an absolute path, segment by segment.

**Proof sketch.** An absolute path resolves to itself, and the exported directory is in front of it
just if its segments are.  Then the definition on characters goes through the same cases as that on
segments. -/
lemma toLocalChars_render :
    m.toLocalChars (render true segs) = render true (m.landmarks.toLocal segs) := by
  have hclean : cleanChars (render true segs) = render true segs :=
    cleanChars_render (isNormal_true_iff.2 hsegs)
  have hresolve : m.resolve? (render true segs) = some (render true segs) := by
    simp only [resolve?, hclean]
    rfl
  obtain ⟨hexport, hnames⟩ := exportDir?_eq h
  have hremainder : m.exportDir?.bind (remainderUnder? · (render true segs)) =
      (m.landmarks.exported.filter (· <+: segs)).map fun dir =>
        render true (segs.drop dir.length) := by
    rw [hexport]
    cases hdir : m.landmarks.exported with
    | none => rfl
    | some dir =>
      have hname := hnames dir hdir
      have htidy : Path.IsTidy (render true dir) := by
        rw [← cleanChars_render (isNormal_true_iff.2 hname)]
        exact isTidy_cleanChars rfl
      rw [Option.map_some, Option.bind_some, remainderUnder?_render htidy hsegs,
        segments_render (isNormal_true_iff.2 hname)]
      by_cases hpre : dir <+: segs <;> simp [Option.filter, hpre]
  simp only [toLocalChars, hresolve, hremainder, isLinked_render h hsegs,
    isUnder_render h.mount hsegs, joinUnder_render h.mount hsegs, decide_eq_true_eq]
  rw [Landmarks.toLocal]
  cases hfilter : m.landmarks.exported.filter (· <+: segs) with
  | some dir => rfl
  | none =>
    rw [Option.map_none]
    by_cases hlinked : m.landmarks.IsLinked segs
    · simp only [if_pos hlinked]
    by_cases hmount : segments m.mountPrefix.toList <+: segs
    · simp only [if_neg hlinked, if_pos hmount,
        if_pos (show m.landmarks.mount <+: segs from hmount)]
    · simp only [if_neg hlinked, if_neg hmount,
        if_neg (show ¬m.landmarks.mount <+: segs from hmount)]
      rfl

/-! ## Every path -/

/-- A path and its cleaned form have the same foreign name. -/
lemma toForeignChars_cleanChars (m : PathMapping) (path : List Char) :
    m.toForeignChars (cleanChars path) = m.toForeignChars path := by
  rw [toForeignChars, cleanChars_cleanChars, toForeignChars]

/-- What a path resolves to decides its name in a session. -/
lemma toLocalChars_of_resolve? {path p : List Char} (hp : m.resolve? path = some p)
    (hclean : cleanChars p = p) (habs : isAbsolute p = true) :
    m.toLocalChars path = m.toLocalChars p := by
  have hself : m.resolve? p = some p := by simp only [resolve?, hclean, habs, if_true]
  simp only [toLocalChars, hp, hself]

include h in
/-- What a path resolves to, by its segments. -/
lemma resolve?_eq (path : List Char) :
    m.resolve? path =
      (m.landmarks.resolve? (isAbsolute path) (segments path)).map (render true) ∧
    ∀ segs ∈ m.landmarks.resolve? (isAbsolute path) (segments path), ∀ s ∈ segs, IsName s := by
  cases habs : isAbsolute path with
  | true =>
    refine ⟨?_, fun segs hsegs => ?_⟩
    · simp only [resolve?, isAbsolute_cleanChars, habs, if_true, Landmarks.resolve?,
        Option.map_some]
      rw [cleanChars_of_isAbsolute habs]
    · rw [Landmarks.resolve?, if_pos rfl, Option.mem_some_iff] at hsegs
      exact hsegs ▸ isName_segments habs
  | false =>
    have hrelative : IsNormal false (segments path) := habs ▸ isNormal_segments path
    cases hcwd : m.cwd with
    | none => simp [resolve?, Landmarks.resolve?, landmarks, habs, hcwd]
    | some cwd =>
      have hdir : isAbsolute cwd.toList = true := (h.cwd cwd hcwd).absolute
      have hjoined := isAbsolute_append hdir ('/' :: cleanChars path)
      have hresolve : m.landmarks.resolve? false (segments path) =
          some (descend (segments cwd.toList) (segments path)) := by
        simp [Landmarks.resolve?, landmarks, hcwd]
      refine ⟨?_, fun segs hsegs => ?_⟩
      · rw [hresolve, Option.map_some, ← segments_join hdir habs,
          ← cleanChars_of_isAbsolute hjoined]
        simp [resolve?, habs, hcwd]
      · rw [hresolve, Option.mem_some_iff] at hsegs
        exact hsegs ▸ isName_descend (isName_segments hdir) hrelative

/-- **Names of files, segment by segment.** The foreign name of an absolute path is the rendering of
what its segments are mapped to, and a relative path is only cleaned.  The name in a session is
that of the segments that the path resolves to from the current directory, and without one a
relative path is only cleaned.

**Proof sketch.** A cleaned absolute path is the rendering of its segments.  On such texts every
test for a directory in front is a test of segments, and so is every change at the front. -/
theorem translate_bySegments (m : PathMapping) (h : m.IsTidy) (path : String) :
    m.translate .toForeign path =
        (if isAbsolute path.toList then
          String.ofList (render true (m.landmarks.toForeign (segments path.toList)))
        else clean path) ∧
      m.translate .toLocal path =
        match m.landmarks.resolve? (isAbsolute path.toList) (segments path.toList) with
        | some segs => String.ofList (render true (m.landmarks.toLocal segs))
        | none => clean path := by
  constructor
  · rw [translate, translateChars, ← toForeignChars_cleanChars]
    split_ifs with habs
    · rw [cleanChars_of_isAbsolute habs, toForeignChars_render h (isName_segments habs)]
    · rw [toForeignChars, cleanChars_cleanChars, isAbsolute_cleanChars, if_pos (by simp [habs])]
      rfl
  · rw [translate, translateChars]
    obtain ⟨hresolve, hnames⟩ := resolve?_eq h path.toList
    cases hsegs : m.landmarks.resolve? (isAbsolute path.toList) (segments path.toList) with
    | some segs =>
      have hname := hnames segs hsegs
      rw [hsegs, Option.map_some] at hresolve
      rw [toLocalChars_of_resolve? hresolve (cleanChars_render (isNormal_true_iff.2 hname)) rfl,
        toLocalChars_render h hname]
    | none =>
      rw [hsegs, Option.map_none] at hresolve
      simp only [toLocalChars, hresolve]
      rfl

/-- A mapping with directories written in several ways: a file of the home directory is mounted, and
a relative path leads out of the current directory into the export of the container.

**Proof sketch.** Every directory of the mapping is tidy or clean as it has to be, which is decided
one by one.  The theorem turns both translations into ones of segments, and these are computed. -/
theorem translate_bySegments_home :
    let m : PathMapping := { foreignRoot := "//", mountPrefix := "/mnt/mac/", linked := ["/tmp/"],
                             exportRoot := some "/Users/dev/Linux", container := some "ubuntu",
                             home := some "/home/x/../dev", cwd := some "/Users/dev/src/" }
    m.IsTidy ∧ m.translate .toForeign "/home//dev/./notes" = "/mnt/mac/home/dev/notes" ∧
      m.translate .toLocal "../Linux/ubuntu/etc" = "/etc" := by
  intro m
  have htidy : m.IsTidy := {
    linked := by
      intro dir hdir
      rw [List.mem_singleton.1 hdir]
      exact ⟨by decide, by decide⟩
    mount := ⟨by decide, by decide⟩
    explicit := ⟨by decide, by decide⟩
    foreignRoot := ⟨by decide, by decide⟩
    exportRoot := by
      rintro _ ⟨⟩
      exact ⟨by decide, by decide⟩
    container := by
      rintro _ ⟨⟩
      exact ⟨by decide, by decide, by decide, by decide⟩
    home := by
      rintro _ ⟨⟩
      decide
    cwd := by
      rintro _ ⟨⟩
      exact ⟨by decide, by decide⟩ }
  refine ⟨htidy, (translate_bySegments m htidy _).1.trans ?_,
    (translate_bySegments m htidy _).2.trans ?_⟩
  · decide
  · decide

end PathMapping

end CommandRelay
