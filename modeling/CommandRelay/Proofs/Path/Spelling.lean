import CommandRelay.Proofs.Path.Idempotence
import Mathlib.Data.List.DropRight

/-!
# Directories in several spellings

A directory can be written with doubled slashes, with `.` and with `..`.  A mapping cleans the paths
it is asked about, but it takes most of its own directories as they are written and only drops
slashes at their ends.  So the spelling of such a directory matters: one that is not clean up to
slashes at its end stands in front of no path at all, and what is put under it is not clean either.

Where the directories that decide about a path are clean up to slashes at their ends, their spelling
does not matter, whatever the others look like.

## Main definitions

* `PathMapping.cleaned` — a mapping with these directories cleaned.
* `PathMapping.IsRooted` — a mapping whose directories start at the root.
* `PathMapping.SpeltCleanly` — the directories that decide about a path are clean.

## Main results

* `Path.IsTidy.of_isUnder` — what stands in front of a clean path is clean.
* `PathMapping.translate_cleaned` — where the spelling of directories does not matter.
* `PathMapping.translate_doubledSlash` — a directory whose spelling matters.
-/

namespace CommandRelay

namespace Path

/-! ## Slashes at the end -/

/-- What is dropped from the end of a text is a run. -/
lemma exists_dropTrailing_append (c : Char) (s : List Char) :
    ∃ n, Text.dropTrailing c s ++ List.replicate n c = s := by
  have hrun : ∀ d ∈ s.rtakeWhile (· == c), d = c := fun d hd => by
    simpa using List.mem_rtakeWhile_imp hd
  refine ⟨(s.rtakeWhile (· == c)).length, ?_⟩
  rw [← List.eq_replicate_of_mem hrun]
  exact List.rdropWhile_append_rtakeWhile

/-- Slashes at the end of a directory of names are no segments. -/
lemma segments_below_append {segs : List (List Char)} (hsegs : ∀ s ∈ segs, IsName s) {n : Nat}
    (hroot : isAbsolute (below segs ++ List.replicate n '/') = true) :
    segments (below segs ++ List.replicate n '/') = segs := by
  have hempty : ∀ n (kept : List (List Char)),
      ((List.replicate n '/').splitOn '/').foldl (keep true) kept = kept := by
    intro n kept
    induction n with
    | zero => rfl
    | succ n ih =>
      rw [List.replicate_succ, ← List.nil_append ('/' :: _), List.splitOn_append_cons_self]
      exact ih
  cases segs with
  | nil =>
    rw [segments, hroot]
    exact congrArg List.reverse (hempty n [])
  | cons s segs =>
    have hnormal : segments (below (s :: segs)) = s :: segs := by
      rw [← render_true_cons]
      exact segments_render (isNormal_true_iff.2 hsegs)
    cases n with
    | zero => simpa using hnormal
    | succ n =>
      rw [List.replicate_succ, segments_append_slash rfl, hempty, hnormal, List.reverse_reverse]

/-- A directory of names with slashes at its end is tidy. -/
lemma IsTidy.of_below {dir : List Char} (hdir : isAbsolute dir = true)
    {segs : List (List Char)} (hsegs : ∀ s ∈ segs, IsName s)
    (h : Text.dropTrailing '/' dir = below segs) : IsTidy dir := by
  obtain ⟨n, hn⟩ := exists_dropTrailing_append '/' dir
  rw [h] at hn
  have hsegments : segments dir = segs := by
    rw [← hn] at hdir ⊢
    exact segments_below_append hsegs hdir
  refine ⟨hdir, ?_⟩
  rw [h, cleanChars_of_isAbsolute hdir, hsegments, dropTrailing_render hsegs]

/-- The directory is compared with its cleaned form. -/
instance (dir : List Char) : Decidable (IsTidy dir) :=
  decidable_of_iff (isAbsolute dir = true ∧
      Text.dropTrailing '/' dir = Text.dropTrailing '/' (cleanChars dir))
    ⟨fun h => ⟨h.1, h.2⟩, fun h => ⟨h.absolute, h.clean⟩⟩

/-! ## What stands in front of a path -/

/-- What stands in front of names after slashes, up to the end of a name, are names after slashes.

**Proof sketch.** Induction on the names.  A text that ends inside the first name would have to go
on with a slash there. -/
lemma exists_below_of_append {segs : List (List Char)} (hsegs : ∀ s ∈ segs, '/' ∉ s)
    {dir rest : List Char} (hrest : EndsSegment rest) (h : dir ++ rest = below segs) :
    ∃ front, front <+: segs ∧ dir = below front := by
  induction segs generalizing dir with
  | nil =>
    have hnil : dir = [] := (List.append_eq_nil_iff.1 h).1
    exact ⟨[], List.nil_prefix, hnil⟩
  | cons s segs ih =>
    cases dir with
    | nil => exact ⟨[], List.nil_prefix, rfl⟩
    | cons c dir =>
      obtain ⟨rfl, htail⟩ : c = '/' ∧ dir ++ rest = s ++ below segs := by simpa [below] using h
      rcases List.append_eq_append_iff.1 htail with ⟨inside, hs, hinside⟩ | ⟨later, rfl, hlater⟩
      · have hend : inside = [] := by
          cases inside with
          | nil => rfl
          | cons d inside =>
            have hd : d = '/' := by
              rcases hrest with hnil | habs
              · simp [hnil] at hinside
              · simpa [hinside, isAbsolute] using habs
            exact absurd (show '/' ∈ s by simp [hs, hd]) (hsegs s (by simp))
        refine ⟨[s], ⟨segs, rfl⟩, ?_⟩
        rw [hs, hend]
        simp [below]
      · obtain ⟨front, hfront, rfl⟩ := ih (fun t ht => hsegs t (by simp [ht])) hlater.symm
        exact ⟨s :: front, List.cons_prefix_cons.2 ⟨rfl, hfront⟩, rfl⟩

/-- A directory that starts at the root stands in front of nothing that does not. -/
lemma isAbsolute_of_isUnder {dir p : List Char} (hdir : isAbsolute dir = true)
    (h : isUnder dir p = true) : isAbsolute p = true := by
  obtain ⟨rest, hrest⟩ := Option.isSome_iff_exists.1 h
  by_cases hroot : Text.dropTrailing '/' dir = []
  · rw [remainderUnder?, if_pos hroot] at hrest
    split_ifs at hrest with habs
    exact habs
  · obtain ⟨more, hmore⟩ : Text.dropTrailing '/' dir <+: dir := List.rdropWhile_prefix _ _
    obtain ⟨c, d, hd⟩ := List.exists_cons_of_ne_nil hroot
    rw [← hmore, hd] at hdir
    have hc : c = '/' := by simpa [isAbsolute] using hdir
    rw [remainderUnder?, if_neg hroot, hd, hc] at hrest
    cases p with
    | nil => simp [Text.after?, List.isPrefixOf?] at hrest
    | cons e p =>
      by_cases he : e = '/'
      · simp [isAbsolute, he]
      · simp [Text.after?, List.isPrefixOf?, Ne.symm he] at hrest

/-- **What stands in front of a clean path** is itself clean but for slashes at its end.

**Proof sketch.** A directory without anything but slashes is the root.  Any other one, without its
trailing slashes, stands in front of the rendered segments of the path, and ends where one of them
ends.  So it is written as the segments up to there, which are names. -/
lemma IsTidy.of_isUnder {dir p : List Char} (hdir : isAbsolute dir = true)
    (h : isUnder dir (cleanChars p) = true) : IsTidy dir := by
  have hp : isAbsolute p = true := by simpa using isAbsolute_of_isUnder hdir h
  have hnames := isName_segments hp
  have hslash : ∀ s ∈ segments p, '/' ∉ s := fun s hs => (hnames s hs).noSlash
  obtain ⟨rest, hafter⟩ := Option.isSome_iff_exists.1 h
  have hnone : ∀ s ∈ ([] : List (List Char)), IsName s := by simp
  by_cases hroot : Text.dropTrailing '/' dir = []
  · exact .of_below hdir hnone hroot
  obtain ⟨rest, hrest, hends⟩ : ∃ rest, Text.dropTrailing '/' dir ++ rest = cleanChars p ∧
      EndsSegment rest := by
    rw [remainderUnder?, if_neg hroot] at hafter
    split at hafter
    · cases hafter
    · next hsplit => exact ⟨[], Text.after?_eq_some_iff.1 hsplit, .inl rfl⟩
    · next hsplit =>
      split_ifs at hafter with habs
      exact ⟨_, Text.after?_eq_some_iff.1 hsplit, .inr habs⟩
  rw [cleanChars_of_isAbsolute hp] at hrest
  by_cases hsegs : segments p = []
  · -- only the slash of the root stands in front of the root, and it would have been dropped
    have hagain : Text.dropTrailing '/' (Text.dropTrailing '/' dir) = Text.dropTrailing '/' dir :=
      List.rdropWhile_idempotent _ _
    rw [hsegs, render_true_nil, List.append_eq_singleton_iff] at hrest
    rcases hrest with ⟨hnil, -⟩ | ⟨hslash, -⟩
    · exact absurd hnil hroot
    · rw [hslash] at hagain
      exact absurd hagain (by decide)
  · rw [render_true_of_ne_nil hsegs] at hrest
    obtain ⟨front, ⟨back, hback⟩, hfront⟩ := exists_below_of_append hslash hends hrest
    refine .of_below hdir (fun s hs => hnames s ?_) hfront
    rw [← hback]
    exact List.mem_append_left _ hs

section Tidy

variable {dir : List Char} (h : IsTidy dir) (p : List Char)

include h

/-- A tidy directory stands in front of the paths that its cleaned form stands in front of. -/
lemma IsTidy.isUnder_cleanChars : isUnder (cleanChars dir) p = isUnder dir p := by
  rw [isUnder, isUnder, remainderUnder?, remainderUnder?, ← h.clean]

/-- Putting a path under a tidy directory is putting it under its cleaned form. -/
lemma IsTidy.joinUnder_cleanChars : joinUnder (cleanChars dir) p = joinUnder dir p := by
  rw [joinUnder, joinUnder, ← h.clean]

end Tidy

/-- Looking for a directory is looking for its cleaned form, unless that is found and the directory
is not tidy. -/
lemma remainderUnder?_cleanChars {dir p : List Char} (hdir : isAbsolute dir = true)
    (hclean : cleanChars p = p)
    (h : isUnder (cleanChars dir) p = true → IsTidy dir) :
    remainderUnder? (cleanChars dir) p = remainderUnder? dir p := by
  by_cases htidy : IsTidy dir
  · rw [remainderUnder?, remainderUnder?, ← htidy.clean]
  · have hcleaned : isUnder (cleanChars dir) p = false := by simpa using mt h htidy
    have hwritten : isUnder dir p = false := by
      rw [← Bool.not_eq_true, ← hclean]
      exact mt (IsTidy.of_isUnder hdir) htidy
    rw [remainderUnder?_eq_none hcleaned, remainderUnder?_eq_none hwritten]

end Path

namespace PathMapping

open CommandRelay.Path

/-- The mapping with cleaned directories; the home directory and the container's export are cleaned
wherever they are looked for. -/
def cleaned (m : PathMapping) : PathMapping :=
  { m with
    linked := m.linked.map clean
    mountPrefix := clean m.mountPrefix
    explicitPrefix := clean m.explicitPrefix
    foreignRoot := clean m.foreignRoot }

section Cleaned

variable (m : PathMapping)

/-- The mount prefix is cleaned. -/
@[simp] lemma mountPrefix_cleaned :
    m.cleaned.mountPrefix.toList = cleanChars m.mountPrefix.toList := String.toList_ofList

/-- The explicit prefix is cleaned. -/
@[simp] lemma explicitPrefix_cleaned :
    m.cleaned.explicitPrefix.toList = cleanChars m.explicitPrefix.toList := String.toList_ofList

/-- The foreign root is cleaned. -/
@[simp] lemma foreignRoot_cleaned :
    m.cleaned.foreignRoot.toList = cleanChars m.foreignRoot.toList := String.toList_ofList

/-- The mode stays. -/
@[simp] lemma mode_cleaned : m.cleaned.mode = m.mode := rfl

/-- What is in the home directory stays. -/
@[simp] lemma isHome_cleaned : m.cleaned.isHome = m.isHome := rfl

/-- What paths are resolved to stays. -/
@[simp] lemma resolve?_cleaned : m.cleaned.resolve? = m.resolve? := rfl

/-- The exported directory stays. -/
@[simp] lemma exportDir?_cleaned : m.cleaned.exportDir? = m.exportDir? := rfl

end Cleaned

/-- A mapping whose directories start at the root. -/
structure IsRooted (m : PathMapping) : Prop where
  linked : ∀ dir ∈ m.linked, isAbsolute dir.toList = true
  mount : isAbsolute m.mountPrefix.toList = true
  explicit : isAbsolute m.explicitPrefix.toList = true
  foreignRoot : isAbsolute m.foreignRoot.toList = true

/-- The directories that decide about the cleaned path `p` are clean but for slashes at their ends:
the linked ones in front of it, and, unless it is linked, the one where files are mounted and those
of explicitly foreign paths if it is such a path. -/
structure SpeltCleanly (m : PathMapping) (direction : Direction) (p : List Char) : Prop where
  linked : ∀ dir ∈ m.linked, isUnder (cleanChars dir.toList) p = true → Path.IsTidy dir.toList
  mount : m.cleaned.isLinked p = false → Path.IsTidy m.mountPrefix.toList
  explicit : direction = .toForeign → m.cleaned.isLinked p = false →
    isUnder (cleanChars m.explicitPrefix.toList) p = true →
      Path.IsTidy m.explicitPrefix.toList ∧ Path.IsTidy m.foreignRoot.toList

/-- The cleaned path whose directories decide about a name; no directory decides about the foreign
name of a relative path. -/
def judged? (m : PathMapping) (direction : Direction) (path : List Char) : Option (List Char) :=
  match direction with
  | .toForeign => if isAbsolute path then some (cleanChars path) else none
  | .toLocal => m.resolve? path

section Judged

variable {m : PathMapping} (hm : m.IsRooted) {direction : Direction} {p : List Char}
  (hclean : cleanChars p = p) (h : m.SpeltCleanly direction p)

include hm hclean h

/-- What is linked stays. -/
lemma isLinked_cleaned : m.cleaned.isLinked p = m.isLinked p := by
  rw [isLinked, isLinked, cleaned, List.any_map, Bool.eq_iff_iff, List.any_eq_true,
    List.any_eq_true]
  refine exists_congr fun dir => and_congr_right fun hdir => ?_
  have hsame := remainderUnder?_cleanChars (hm.linked dir hdir) hclean (h.linked dir hdir)
  simp [isUnder, clean, hsame]

/-- The foreign name of a cleaned path. -/
lemma toForeignChars_cleaned (hd : direction = .toForeign) :
    m.cleaned.toForeignChars p = m.toForeignChars p := by
  have hlinked := isLinked_cleaned hm hclean h
  simp only [toForeignChars, hclean]
  rw [hlinked]
  by_cases hout : m.isLinked p = true
  · simp only [if_pos hout]
  rw [← hlinked, Bool.not_eq_true] at hout
  have hmount := h.mount hout
  have hexplicit : remainderUnder? (cleanChars m.explicitPrefix.toList) p =
      remainderUnder? m.explicitPrefix.toList p :=
    remainderUnder?_cleanChars hm.explicit hclean fun hunder => (h.explicit hd hout hunder).1
  rw [explicitPrefix_cleaned, hexplicit]
  cases hrest : remainderUnder? m.explicitPrefix.toList p with
  | some rest =>
    have hunder : isUnder (cleanChars m.explicitPrefix.toList) p = true := by
      rw [isUnder, hexplicit, hrest]
      rfl
    have hroot := (h.explicit hd hout hunder).2.joinUnder_cleanChars rest
    simp only [foreignRoot_cleaned, hroot]
  | none =>
    rw [mountPrefix_cleaned, hmount.isUnder_cleanChars, hmount.joinUnder_cleanChars, mode_cleaned,
      isHome_cleaned]

/-- The name in a session of what a path resolves to. -/
lemma toLocalChars_cleaned {path : List Char} (hp : m.resolve? path = some p) :
    m.cleaned.toLocalChars path = m.toLocalChars path := by
  have hlinked := isLinked_cleaned hm hclean h
  simp only [toLocalChars, resolve?_cleaned, hp]
  rw [exportDir?_cleaned, hlinked]
  by_cases hout : m.isLinked p = true
  · simp only [if_pos hout]
  rw [← hlinked, Bool.not_eq_true] at hout
  have hmount := h.mount hout
  rw [mountPrefix_cleaned, hmount.isUnder_cleanChars, hmount.joinUnder_cleanChars]

end Judged

/-- **The spelling of a directory** does not matter, both ways, if the directories that decide about
the path are clean but for slashes at their ends: then doubled slashes, `.` and `..` in the other
directories change no name.

**Proof sketch.** A directory that stands in front of a clean path is clean up to slashes at its
end.  So one that is not tidy is found nowhere, and its cleaned form is not looked for here.  Of a
tidy one, the mapping uses the text without slashes at its end, which is that of its cleaned
form. -/
theorem translate_cleaned (m : PathMapping) (hm : m.IsRooted) (direction : Direction)
    (path : String) (h : ∀ p ∈ m.judged? direction path.toList, m.SpeltCleanly direction p) :
    m.cleaned.translate direction path = m.translate direction path := by
  rw [translate, translate]
  congr 1
  cases direction with
  | toForeign =>
    simp only [translateChars]
    cases habs : isAbsolute path.toList with
    | true =>
      have hspelt : m.SpeltCleanly .toForeign (cleanChars path.toList) :=
        h _ (by simp [judged?, habs])
      rw [← toForeignChars_cleanChars, ← toForeignChars_cleanChars m]
      exact toForeignChars_cleaned hm (cleanChars_cleanChars _) hspelt rfl
    | false => simp [toForeignChars, habs]
  | toLocal =>
    simp only [translateChars]
    cases hp : m.resolve? path.toList with
    | some p =>
      have hclean : cleanChars p = p := by
        rw [resolve?] at hp
        split_ifs at hp with habs
        · rw [← Option.some.inj hp, cleanChars_cleanChars]
        · obtain ⟨dir, -, rfl⟩ := Option.map_eq_some_iff.1 hp
          exact cleanChars_cleanChars _
      exact toLocalChars_cleaned hm hclean (h p hp) hp
    | none => simp only [toLocalChars, resolve?_cleaned, hp]

/-- Directories in several spellings: a linked one with a doubled slash and an untidy one for
explicitly foreign paths do not matter to a path that is below neither. -/
theorem translate_cleaned_beside :
    let m : PathMapping := { linked := ["/srv//data", "/tmp/"], mountPrefix := "/mnt/mac//",
                             explicitPrefix := "/mnt/./linux", mode := .aggressive }
    m.cleaned.translate .toForeign "/opt/./tool" = m.translate .toForeign "/opt/./tool" ∧
      m.translate .toForeign "/opt/./tool" = "/mnt/mac/opt/tool" := by
  intro m
  have hm : m.IsRooted := ⟨by decide, by decide, by decide, by decide⟩
  refine ⟨translate_cleaned m hm .toForeign "/opt/./tool" ?_, by decide⟩
  rintro _ ⟨⟩
  exact ⟨by decide, by decide, by decide⟩

/-- **A directory whose spelling matters.** Files that are mounted below a directory with a doubled
slash get a name that is not clean, and that name is mapped again. -/
theorem translate_doubledSlash :
    let m : PathMapping := { mountPrefix := "/mnt//mac", mode := .aggressive }
    m.IsRooted ∧ m.cleaned.translate .toForeign "/opt/tool" = "/mnt/mac/opt/tool" ∧
      m.translate .toForeign "/opt/tool" = "/mnt//mac/opt/tool" ∧
      m.translate .toForeign (m.translate .toForeign "/opt/tool") =
        "/mnt//mac/mnt/mac/opt/tool" := by
  intro m
  exact ⟨⟨by decide, by decide, by decide, by decide⟩, by decide, by decide, by decide⟩

end PathMapping

end CommandRelay
