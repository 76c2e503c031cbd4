import CommandRelay.Proofs.Path.Naming

/-!
# Names that are mapped twice

A name that has been mapped is not mapped again: the name that the mapping gives is a name that it
leaves alone.  The exceptions are names that were written as foreign ones and names of files in a
container's export; what is left of these is an ordinary path.

## Main definitions

* `Path.Apart` — directories of which neither is the other one or below it.

## Main results

* `Path.isUnder_joined` — what is below one of two such directories is not below the other.
* `PathMapping.toForeignChars_mounted`, `PathMapping.toLocalChars_mounted` — mounted names stay.
* `PathMapping.translate_translate` — both ways, for every path.
-/

namespace CommandRelay

namespace Path

/-- Neither directory is the other one or below it. -/
structure Apart (a b : List Char) : Prop where
  left : isUnder a (cleanChars b) = false
  right : isUnder b (cleanChars a) = false

/-- Nothing is below a relative directory if it starts at the root. -/
lemma isUnder_relative {dir p : List Char} (hne : dir ≠ []) (hdir : isAbsolute dir = false)
    (hp : isAbsolute p = true) : isUnder dir p = false := by
  obtain ⟨c, dir, rfl⟩ := List.exists_cons_of_ne_nil hne
  have hc : c ≠ '/' := by simpa [isAbsolute] using hdir
  obtain ⟨rest, hrest⟩ : ∃ rest, Text.dropTrailing '/' (c :: dir) = c :: rest := by
    have hkept : ((c :: dir).reverse.dropWhile (· == '/')).getLast? = some c := by
      rw [List.reverse_cons, List.dropWhile_append]
      split_ifs with hempty <;> simp [hc]
    rw [← List.head?_reverse] at hkept
    obtain ⟨rest, hrest⟩ := List.head?_eq_some_iff.1 hkept
    exact ⟨rest, hrest⟩
  obtain ⟨q, rfl⟩ : ∃ q, p = '/' :: q := by
    cases p with
    | nil => cases hp
    | cons d q => exact ⟨q, by rw [show d = '/' by simpa [isAbsolute] using hp]⟩
  simp [isUnder, remainderUnder?, hrest, Text.after?, List.isPrefixOf?, hc]

/-- **What is below one** of two directories that are apart is not below the other.

**Proof sketch.** Two lists in front of one list are in front of each other.  A directory that does
not start at the root is in front of nothing that does. -/
lemma isUnder_joined {dir b : List Char} (hb : IsTidy b) (h : Apart (cleanChars dir) b)
    {segs : List (List Char)} (hsegs : ∀ s ∈ segs, IsName s) :
    isUnder (cleanChars dir) (render true (segments b ++ segs)) = false := by
  have hbnames := isName_segments hb.absolute
  have hnames : ∀ s ∈ segments b ++ segs, IsName s := fun s hs =>
    (List.mem_append.1 hs).elim (hbnames s) (hsegs s)
  cases habs : isAbsolute dir with
  | false =>
    exact isUnder_relative (render_ne_nil (isNormal_segments dir))
      ((isAbsolute_cleanChars dir).trans habs) rfl
  | true =>
    have htidy : IsTidy (cleanChars dir) := isTidy_cleanChars habs
    have hleft := h.left
    have hright := h.right
    rw [cleanChars_of_isAbsolute hb.absolute, isUnder_render htidy hbnames,
      segments_cleanChars, decide_eq_false_iff_not] at hleft
    rw [cleanChars_cleanChars, cleanChars_of_isAbsolute habs,
      isUnder_render hb (isName_segments habs), decide_eq_false_iff_not] at hright
    rw [isUnder_render htidy hnames, segments_cleanChars, decide_eq_false_iff_not]
    intro hpre
    rcases List.prefix_or_prefix_of_prefix hpre (List.prefix_append _ _) with hpre | hpre
    · exact hleft hpre
    · exact hright hpre

/-- A tidy directory that is cleaned is apart from the same directories. -/
lemma Apart.clean {a b : List Char} (ha : IsTidy a) (h : Apart a b) : Apart (cleanChars a) b := by
  refine ⟨?_, (cleanChars_cleanChars a).symm ▸ h.right⟩
  have hdrop : Text.dropTrailing '/' (cleanChars a) = Text.dropTrailing '/' a := ha.clean.symm
  rw [isUnder, remainderUnder?, hdrop]
  exact h.left

/-- Nothing remains of a path that is not under a directory. -/
lemma remainderUnder?_eq_none {dir p : List Char} (h : isUnder dir p = false) :
    remainderUnder? dir p = none :=
  Option.isNone_iff_eq_none.1 (Option.isSome_eq_false_iff.1 h)

end Path

namespace PathMapping

open CommandRelay.Path

variable {m : PathMapping} (hmount : Path.IsTidy m.mountPrefix.toList)

/-! ## Foreign names -/

/-- A name that is not written as a foreign one is mounted or stays as it is. -/
lemma toForeignChars_cases {path : List Char}
    (h : m.isLinked (cleanChars path) = true ∨
      isUnder m.explicitPrefix.toList (cleanChars path) = false) :
    m.toForeignChars path = cleanChars path ∨
      isAbsolute path = true ∧
        m.toForeignChars path = joinUnder m.mountPrefix.toList (cleanChars path) := by
  simp only [toForeignChars, isAbsolute_cleanChars]
  cases habs : isAbsolute path with
  | false => exact .inl (if_pos rfl)
  | true =>
    rw [if_neg (by simp)]
    cases hlinked : m.isLinked (cleanChars path) with
    | true => exact .inl (if_pos rfl)
    | false =>
      have hunder := h.resolve_left (by simp [hlinked])
      rw [if_neg Bool.false_ne_true, remainderUnder?_eq_none hunder]
      by_cases hin : isUnder m.mountPrefix.toList (cleanChars path) = true
      · exact .inl (if_pos hin)
      · simp only [if_neg hin]
        cases m.mode with
        | aggressive => exact .inr ⟨trivial, rfl⟩
        | relaxed =>
          by_cases hhome : m.isHome (cleanChars path) = true
          · exact .inr ⟨trivial, if_pos hhome⟩
          · exact .inl (if_neg hhome)

include hmount in
/-- A mounted name is under the mount prefix. -/
lemma isUnder_mounted {segs : Segments} (hsegs : ∀ s ∈ segs, IsName s) :
    isUnder m.mountPrefix.toList (render true (segments m.mountPrefix.toList ++ segs)) = true := by
  rw [isUnder_render hmount fun s hs =>
    (List.mem_append.1 hs).elim (isName_segments hmount.absolute s) (hsegs s)]
  exact decide_eq_true (List.prefix_append _ _)

include hmount in
/-- A mounted name is clean. -/
lemma cleanChars_mounted {segs : Segments} (hsegs : ∀ s ∈ segs, IsName s) :
    cleanChars (render true (segments m.mountPrefix.toList ++ segs)) =
      render true (segments m.mountPrefix.toList ++ segs) :=
  cleanChars_render (isNormal_true_iff.2 fun s hs =>
    (List.mem_append.1 hs).elim (isName_segments hmount.absolute s) (hsegs s))

include hmount in
/-- **A mounted name** stays as it is on the foreign side. -/
lemma toForeignChars_mounted (hexplicit : Path.IsTidy m.explicitPrefix.toList)
    (hapart : Apart m.explicitPrefix.toList m.mountPrefix.toList) {segs : Segments}
    (hsegs : ∀ s ∈ segs, IsName s) :
    m.toForeignChars (render true (segments m.mountPrefix.toList ++ segs)) =
      render true (segments m.mountPrefix.toList ++ segs) := by
  set name := render true (segments m.mountPrefix.toList ++ segs)
  have hclean : cleanChars name = name := cleanChars_mounted hmount hsegs
  have habs : isAbsolute name = true := rfl
  have hunder : isUnder m.explicitPrefix.toList name = false := by
    have hjoined := isUnder_joined hmount (hapart.clean hexplicit) hsegs
    rwa [isUnder, remainderUnder?, ← hexplicit.clean] at hjoined
  have hin : isUnder m.mountPrefix.toList name = true := isUnder_mounted hmount hsegs
  simp only [toForeignChars, hclean, habs, Bool.not_true, Bool.false_eq_true,
    remainderUnder?_eq_none hunder, hin, if_true, ite_self]

include hmount in
/-- **A foreign name** is its own foreign name, unless the path is written as a foreign one. -/
lemma toForeignChars_twice (hexplicit : Path.IsTidy m.explicitPrefix.toList)
    (hapart : Apart m.explicitPrefix.toList m.mountPrefix.toList) {path : List Char}
    (hpath : m.isLinked (cleanChars path) = true ∨
      isUnder m.explicitPrefix.toList (cleanChars path) = false) :
    m.toForeignChars (m.toForeignChars path) = m.toForeignChars path := by
  rcases toForeignChars_cases hpath with hstays | ⟨habs, hmounted⟩
  · rw [hstays, toForeignChars_cleanChars, hstays]
  · have hnames := isName_segments habs
    rw [hmounted, cleanChars_of_isAbsolute habs, joinUnder_render hmount hnames,
      toForeignChars_mounted hmount hexplicit hapart hnames]

/-! ## Names in a session -/

/-- A path is resolved to one that is clean and absolute. -/
lemma resolve?_clean (hcwd : ∀ dir ∈ m.cwd, isAbsolute dir.toList = true) {path p : List Char}
    (hp : m.resolve? path = some p) : cleanChars p = p ∧ isAbsolute p = true := by
  simp only [resolve?, isAbsolute_cleanChars] at hp
  cases habs : isAbsolute path with
  | true =>
    rw [habs, if_pos rfl, Option.some.injEq] at hp
    exact hp ▸ ⟨cleanChars_cleanChars path, (isAbsolute_cleanChars path).trans habs⟩
  | false =>
    rw [habs, if_neg Bool.false_ne_true] at hp
    obtain ⟨dir, hdir, rfl⟩ := Option.map_eq_some_iff.1 hp
    have habs := isAbsolute_append (hcwd dir hdir) ('/' :: cleanChars path)
    exact ⟨cleanChars_cleanChars _, (isAbsolute_cleanChars _).trans habs⟩

/-- What a path resolves to is mounted or stays as it is, unless it is in a container's export. -/
lemma toLocalChars_cases {path p : List Char} (hp : m.resolve? path = some p)
    (h : ∀ dir ∈ m.exportDir?, isUnder dir p = false) :
    m.toLocalChars path = p ∨ m.toLocalChars path = joinUnder m.mountPrefix.toList p := by
  have hexport : m.exportDir?.bind (remainderUnder? · p) = none := by
    cases hdir : m.exportDir? with
    | none => rfl
    | some dir => exact remainderUnder?_eq_none (h dir hdir)
  simp only [toLocalChars, hp, hexport]
  split_ifs with hlinked hin
  · exact .inl rfl
  · exact .inl rfl
  · exact .inr rfl

include hmount in
/-- **A mounted name** stays as it is in a session. -/
lemma toLocalChars_mounted (hexport : ∀ dir ∈ m.exportDir?, Apart dir m.mountPrefix.toList)
    {segs : Segments} (hsegs : ∀ s ∈ segs, IsName s) :
    m.toLocalChars (render true (segments m.mountPrefix.toList ++ segs)) =
      render true (segments m.mountPrefix.toList ++ segs) := by
  set name := render true (segments m.mountPrefix.toList ++ segs)
  have hresolve : m.resolve? name = some name := by
    have hclean : cleanChars name = name := cleanChars_mounted hmount hsegs
    simp only [resolve?, hclean]
    rfl
  have hout : m.exportDir?.bind (remainderUnder? · name) = none := by
    cases hdir : m.exportDir? with
    | none => rfl
    | some dir =>
      obtain ⟨raw, rfl⟩ : ∃ raw, dir = cleanChars raw := by
        rw [exportDir?] at hdir
        split at hdir
        · exact ⟨_, (Option.some.inj hdir).symm⟩
        · cases hdir
      exact remainderUnder?_eq_none (isUnder_joined hmount (hexport _ hdir) hsegs)
  have hin : isUnder m.mountPrefix.toList name = true := isUnder_mounted hmount hsegs
  simp only [toLocalChars, hresolve, hout, hin, if_true, ite_self]

/-! ## Both ways -/

/-- **Names that are mapped twice.** Let the directory where this machine's files are mounted be
tidy.  Where the directory of explicitly foreign names is tidy and apart from it, the foreign name
of a path is its own foreign name, unless the path is written as a foreign one and not linked.
Where a container's export is apart from it and the current directory starts at the root, the name
in a session is its own name in a session, unless the path leads into the export.

**Proof sketch.** A name stays as it is or it is mounted.  In the first case the second pass sees
what the first one saw.  In the second case it sees a name that is linked or below the mounted
directory, and not below the other one. -/
theorem translate_translate (m : PathMapping) (path : String)
    (hmount : Path.IsTidy m.mountPrefix.toList) :
    (Path.IsTidy m.explicitPrefix.toList → Apart m.explicitPrefix.toList m.mountPrefix.toList →
      (m.isLinked (cleanChars path.toList) = true ∨
        isUnder m.explicitPrefix.toList (cleanChars path.toList) = false) →
      m.translate .toForeign (m.translate .toForeign path) = m.translate .toForeign path) ∧
    ((∀ dir ∈ m.cwd, isAbsolute dir.toList = true) →
      (∀ dir ∈ m.exportDir?, Apart dir m.mountPrefix.toList) →
      (∀ p ∈ m.resolve? path.toList, ∀ dir ∈ m.exportDir?, isUnder dir p = false) →
      m.translate .toLocal (m.translate .toLocal path) = m.translate .toLocal path) := by
  simp only [translate, translateChars, String.toList_ofList]
  constructor
  · intro hexplicit hapart hpath
    rw [toForeignChars_twice hmount hexplicit hapart hpath]
  · intro hcwd hexport hpath
    cases hp : m.resolve? path.toList with
    | none =>
      have hagain : m.resolve? (cleanChars path.toList) = none := by
        simpa only [resolve?, cleanChars_cleanChars, isAbsolute_cleanChars] using hp
      have hstays : m.toLocalChars path.toList = cleanChars path.toList := by
        simp only [toLocalChars, hp]
      have hstill : m.toLocalChars (cleanChars path.toList) = cleanChars path.toList := by
        simp only [toLocalChars, hagain, cleanChars_cleanChars]
      rw [hstays, hstill]
    | some p =>
      obtain ⟨hclean, habs⟩ := resolve?_clean hcwd hp
      rcases toLocalChars_cases hp (hpath p hp) with hstays | hmounted
      · rw [hstays, ← toLocalChars_of_resolve? hp hclean habs, hstays]
      · have hnames := isName_segments habs
        rw [hmounted, ← hclean, cleanChars_of_isAbsolute habs, joinUnder_render hmount hnames,
          toLocalChars_mounted hmount hexport hnames]

/-- The usual directories, with an export below the user's home: a file of the home directory is
mounted once on the foreign side, and a file beside the export once in a session. -/
theorem translate_translate_home :
    let m : PathMapping := { home := some "/home/dev", exportRoot := some "/srv/exports",
                             container := some "alpine", cwd := some "/home//dev" }
    m.translate .toForeign (m.translate .toForeign "/home/dev/notes") =
        m.translate .toForeign "/home/dev/notes" ∧
      m.translate .toLocal (m.translate .toLocal "../notes") = m.translate .toLocal "../notes" := by
  intro m
  have hmount : Path.IsTidy m.mountPrefix.toList := ⟨by decide, by decide⟩
  constructor
  · exact (translate_translate m _ hmount).1 ⟨by decide, by decide⟩ ⟨by decide, by decide⟩
      (.inr (by decide))
  · refine (translate_translate m _ hmount).2 ?_ ?_ ?_
    · rintro _ ⟨⟩
      decide
    · rintro _ ⟨⟩
      exact ⟨by decide, by decide⟩
    · rintro _ ⟨⟩ _ ⟨⟩
      decide

end PathMapping

end CommandRelay
