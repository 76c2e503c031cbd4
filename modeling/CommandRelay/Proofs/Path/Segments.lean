import CommandRelay.Path.Clean
import CommandRelay.Proofs.Text.Ends
import Mathlib.Data.List.Basic
import Mathlib.Data.List.Infix
import Mathlib.Tactic.Common

/-!
# Paths and their segments

The segments of a cleaned path have one form: some `..` that climb, none of them from the root,
and then names.  Segments of this form and cleaned paths stand for each other, and so do
directories in front of a path and segments in front of its segments.

## Main definitions

* `Path.IsName` — a segment that names something in a directory.
* `Path.IsNormal` — the form of the segments of a cleaned path.
* `Path.descend` — the segments of a path that starts from a directory.
* `Path.IsTidy` — an absolute path that is clean but for slashes at its end.

## Main results

* `Path.isNormal_segments`, `Path.segments_render` — cleaned paths and segments of this form.
* `Path.cleanChars_cleanChars` — cleaning twice is cleaning once.
* `Path.segments_join` — a relative path behind a directory.
* `Path.remainderUnder?_render`, `Path.joinUnder_render` — directories as segments in front.
-/

namespace CommandRelay.Path

/-- The segment that stands for the directory above. -/
def up : List Char := ['.', '.']

/-- A segment that names something in a directory. -/
structure IsName (s : List Char) : Prop where
  ne_nil : s ≠ []
  ne_dot : s ≠ ['.']
  ne_up : s ≠ up
  noSlash : '/' ∉ s

/-- The form of the segments of a cleaned path: some that climb, none of them from the root, and
then names. -/
def IsNormal (absolute : Bool) (segs : List (List Char)) : Prop :=
  ∃ climbs names, segs = List.replicate climbs up ++ names ∧ (absolute = true → climbs = 0) ∧
    ∀ s ∈ names, IsName s

/-- Segments below the root are normal just if all are names. -/
lemma isNormal_true_iff {segs : List (List Char)} :
    IsNormal true segs ↔ ∀ s ∈ segs, IsName s := by
  constructor
  · rintro ⟨climbs, names, rfl, hclimbs, hnames⟩
    simpa [hclimbs rfl] using hnames
  · intro h
    exact ⟨0, segs, rfl, fun _ => rfl, h⟩

/-- Every segment of a normal form is a name or leads upwards. -/
lemma IsNormal.up_or_isName {absolute : Bool} {segs : List (List Char)}
    (h : IsNormal absolute segs) :
    ∀ s ∈ segs, s = up ∨ IsName s := by
  obtain ⟨climbs, names, rfl, -, hnames⟩ := h
  intro s hs
  rcases List.mem_append.1 hs with hs | hs
  · exact .inl (List.eq_of_mem_replicate hs)
  · exact .inr (hnames s hs)

/-- No segment of a normal form has a slash. -/
lemma IsNormal.noSlash {absolute : Bool} {segs : List (List Char)} (h : IsNormal absolute segs) :
    ∀ s ∈ segs, '/' ∉ s := by
  intro s hs
  rcases h.up_or_isName s hs with rfl | hname
  · decide
  · exact hname.noSlash

/-- No segment of a normal form is empty. -/
lemma IsNormal.ne_nil {absolute : Bool} {segs : List (List Char)} (h : IsNormal absolute segs) :
    ∀ s ∈ segs, s ≠ [] := by
  intro s hs
  rcases h.up_or_isName s hs with rfl | hname
  · decide
  · exact hname.ne_nil

/-! ## One more piece -/

/-- A name is kept in front of what was kept before it. -/
lemma keep_name (absolute : Bool) (kept : List (List Char)) {s : List Char} (h : IsName s) :
    keep absolute kept s = s :: kept := by
  have hskip : ¬(s = [] ∨ s = ['.']) := fun hs => hs.elim h.ne_nil h.ne_dot
  have hup : s ≠ ['.', '.'] := h.ne_up
  simp only [keep, if_neg hskip, if_neg hup]

/-- A step up takes a name away. -/
lemma keep_up_name (absolute : Bool) (kept : List (List Char)) {s : List Char} (h : IsName s) :
    keep absolute (s :: kept) up = kept := by
  have hs : s ≠ ['.', '.'] := h.ne_up
  simp [keep, up, hs]

/-- Climbing from the root leads nowhere, and from elsewhere it adds up. -/
lemma keep_up_climbs (absolute : Bool) (n : Nat) (h : absolute = true → n = 0) :
    keep absolute (List.replicate n up) up =
      List.replicate (if absolute then 0 else n + 1) up := by
  cases absolute with
  | true => rw [h rfl]; rfl
  | false =>
    cases n with
    | zero => rfl
    | succ n => rfl

/-- **One more piece** keeps the segments normal.

**Proof sketch.** A piece that means nothing changes nothing, and a name is added.  A `..` takes
the last name back; without a name, all segments climb. -/
lemma isNormal_keep {absolute : Bool} {segs : List (List Char)} (h : IsNormal absolute segs)
    {piece : List Char} (hpiece : '/' ∉ piece) :
    IsNormal absolute (keep absolute segs.reverse piece).reverse := by
  obtain ⟨climbs, names, rfl, hclimbs, hnames⟩ := h
  by_cases hskip : piece = [] ∨ piece = ['.']
  · simp only [keep, if_pos hskip, List.reverse_reverse]
    exact ⟨climbs, names, rfl, hclimbs, hnames⟩
  by_cases hup : piece = up
  · subst hup
    rcases List.eq_nil_or_concat names with rfl | ⟨front, last, rfl⟩
    · rw [List.append_nil, List.reverse_replicate, keep_up_climbs absolute climbs hclimbs,
        List.reverse_replicate]
      exact ⟨if absolute then 0 else climbs + 1, [], by simp, fun ha => by simp [ha], by simp⟩
    · rw [List.concat_eq_append] at hnames ⊢
      rw [← List.append_assoc, List.reverse_append]
      simp only [List.reverse_singleton, List.singleton_append]
      rw [keep_up_name absolute _ (hnames last (by simp)), List.reverse_reverse]
      exact ⟨climbs, front, rfl, hclimbs, fun s hs => hnames s (by simp [hs])⟩
  · have hname : IsName piece :=
      ⟨fun hs => hskip (.inl hs), fun hs => hskip (.inr hs), hup, hpiece⟩
    rw [keep_name absolute _ hname, List.reverse_cons, List.reverse_reverse, List.append_assoc]
    refine ⟨climbs, names ++ [piece], rfl, hclimbs, fun s hs => ?_⟩
    rcases List.mem_append.1 hs with hs | hs
    · exact hnames s hs
    · exact List.mem_singleton.1 hs ▸ hname

/-! ## All pieces -/

/-- No piece of a path has a slash. -/
lemma slash_notMem_piece (p : List Char) : ∀ piece ∈ p.splitOn '/', '/' ∉ piece :=
  Text.notMem_of_mem_splitOn '/' p

/-- Keeping pieces behind normal segments leaves normal segments. -/
lemma isNormal_foldl_keep {absolute : Bool} (pieces : List (List Char))
    (hpieces : ∀ piece ∈ pieces, '/' ∉ piece) {segs : List (List Char)}
    (h : IsNormal absolute segs) :
    IsNormal absolute (pieces.foldl (keep absolute) segs.reverse).reverse := by
  induction pieces generalizing segs with
  | nil => simpa using h
  | cons piece pieces ih =>
    have hstep := isNormal_keep h (hpieces piece (by simp))
    simpa using ih (fun s hs => hpieces s (by simp [hs])) hstep

/-- **Cleaning** leads to normal segments. -/
lemma isNormal_segments (p : List Char) : IsNormal (isAbsolute p) (segments p) :=
  isNormal_foldl_keep _ (slash_notMem_piece p)
    (show IsNormal (isAbsolute p) [] from ⟨0, [], rfl, fun _ => rfl, by simp⟩)

/-- Names are kept one after another. -/
lemma foldl_keep_names (absolute : Bool) (kept : List (List Char)) {names : List (List Char)}
    (h : ∀ s ∈ names, IsName s) : names.foldl (keep absolute) kept = names.reverse ++ kept := by
  induction names generalizing kept with
  | nil => rfl
  | cons s names ih =>
    rw [List.foldl_cons, keep_name absolute kept (h s (by simp)),
      ih _ fun t ht => h t (by simp [ht])]
    simp

/-- Climbing from a directory below the root takes its last segments away. -/
lemma foldl_keep_climbs {base : List (List Char)} (h : ∀ s ∈ base, IsName s) (n : Nat) :
    (List.replicate n up).foldl (keep true) base.reverse = base.reverse.drop n := by
  induction n generalizing base with
  | zero => rfl
  | succ n ih =>
    rw [List.replicate_succ, List.foldl_cons]
    rcases List.eq_nil_or_concat base with rfl | ⟨front, last, rfl⟩
    · have hroot := @ih [] (by simp)
      simpa [keep, up] using hroot
    · rw [List.concat_eq_append] at h ⊢
      rw [List.reverse_append]
      simp only [List.reverse_singleton, List.singleton_append, List.drop_succ_cons]
      rw [keep_up_name true _ (h last (by simp))]
      exact ih fun s hs => h s (by simp [hs])

/-- Steps up in a relative path are kept behind others. -/
lemma foldl_keep_relative_climbs (n m : Nat) :
    (List.replicate n up).foldl (keep false) (List.replicate m up) =
      List.replicate (m + n) up := by
  induction n generalizing m with
  | zero => rfl
  | succ n ih =>
    rw [List.replicate_succ, List.foldl_cons, keep_up_climbs false m (by simp)]
    exact (ih (m + 1)).trans (by rw [Nat.add_right_comm, Nat.add_assoc])

/-- Normal segments stay as they are. -/
lemma foldl_keep_normal {absolute : Bool} {segs : List (List Char)} (h : IsNormal absolute segs) :
    segs.foldl (keep absolute) [] = segs.reverse := by
  obtain ⟨climbs, names, rfl, hclimbs, hnames⟩ := h
  rw [List.foldl_append, List.reverse_append, List.reverse_replicate]
  cases absolute with
  | true =>
    rw [hclimbs rfl]
    exact foldl_keep_names true [] hnames
  | false =>
    have := foldl_keep_relative_climbs climbs 0
    rw [Nat.zero_add] at this
    rw [show ([] : List (List Char)) = List.replicate 0 up from rfl, this,
      foldl_keep_names false _ hnames]

/-! ## Rendered segments -/

/-- The pieces of a rendered path are its segments, apart from pieces that mean nothing. -/
lemma foldl_keep_render (absolute rendered : Bool) (kept : List (List Char))
    {segs : List (List Char)} (h : ∀ s ∈ segs, '/' ∉ s) :
    ((render rendered segs).splitOn '/').foldl (keep absolute) kept =
      segs.foldl (keep absolute) kept := by
  have hpieces : segs ≠ [] → (['/'].intercalate segs).splitOn '/' = segs :=
    List.splitOn_intercalate '/' h
  have hnil : keep absolute kept [] = kept := by simp [keep]
  have hdot : keep absolute kept ['.'] = kept := by simp [keep]
  cases rendered with
  | true =>
    rw [render, if_pos rfl, ← List.nil_append ('/' :: _), List.splitOn_append_cons_self]
    by_cases hsegs : segs = []
    · simp [hsegs, hnil]
    · simp [hpieces hsegs, hnil]
  | false =>
    by_cases hsegs : segs = []
    · subst hsegs
      exact hdot
    · rw [render, if_neg Bool.false_ne_true, if_neg hsegs, hpieces hsegs]

/-- The path of normal segments starts at the root just if it is to. -/
@[simp] lemma isAbsolute_render {absolute : Bool} {segs : List (List Char)}
    (h : IsNormal absolute segs) : isAbsolute (render absolute segs) = absolute := by
  cases absolute with
  | true => rfl
  | false =>
    cases segs with
    | nil => rfl
    | cons s segs =>
      obtain ⟨c, t, rfl⟩ := List.exists_cons_of_ne_nil (h.ne_nil s (by simp))
      have hc : c ≠ '/' := fun hc => h.noSlash (c :: t) (by simp) (by simp [hc])
      cases segs <;> simp [render, isAbsolute, List.intercalate, hc]

/-- The path of normal segments is not empty. -/
lemma render_ne_nil {absolute : Bool} {segs : List (List Char)} (h : IsNormal absolute segs) :
    render absolute segs ≠ [] := by
  cases absolute with
  | true => simp [render]
  | false =>
    cases segs with
    | nil => simp [render]
    | cons s segs =>
      have hs : s ≠ [] := h.ne_nil s (by simp)
      cases segs <;> simp [render, List.intercalate, hs]

/-- **Normal segments** are those of the path that they are rendered to. -/
lemma segments_render {absolute : Bool} {segs : List (List Char)} (h : IsNormal absolute segs) :
    segments (render absolute segs) = segs := by
  rw [segments, isAbsolute_render h, foldl_keep_render _ _ _ h.noSlash, foldl_keep_normal h,
    List.reverse_reverse]

/-- A path that is cleaned starts at the root just if it did before. -/
@[simp] lemma isAbsolute_cleanChars (p : List Char) : isAbsolute (cleanChars p) = isAbsolute p :=
  isAbsolute_render (isNormal_segments p)

/-- A path that is cleaned has the segments that it had before. -/
@[simp] lemma segments_cleanChars (p : List Char) : segments (cleanChars p) = segments p :=
  segments_render (isNormal_segments p)

/-- **Cleaning** a clean path changes nothing. -/
@[simp] lemma cleanChars_cleanChars (p : List Char) : cleanChars (cleanChars p) = cleanChars p := by
  rw [cleanChars, isAbsolute_cleanChars, segments_cleanChars, cleanChars]

/-- The path of normal segments is clean. -/
lemma cleanChars_render {absolute : Bool} {segs : List (List Char)} (h : IsNormal absolute segs) :
    cleanChars (render absolute segs) = render absolute segs := by
  rw [cleanChars, isAbsolute_render h, segments_render h]

/-! ## Relative paths behind a directory -/

/-- The segments of a path that starts from a directory below the root: the segments of the path
that climb take the last ones of the directory away. -/
def descend (base segs : List (List Char)) : List (List Char) :=
  base.take (base.length - (segs.takeWhile (· = up)).length) ++ segs.dropWhile (· = up)

/-- Keeping normal relative segments below names is descending from there. -/
lemma foldl_keep_descend {base segs : List (List Char)} (hbase : ∀ s ∈ base, IsName s)
    (hsegs : IsNormal false segs) :
    segs.foldl (keep true) base.reverse = (descend base segs).reverse := by
  obtain ⟨climbs, names, rfl, -, hnames⟩ := hsegs
  have hfirst : names.takeWhile (· = up) = [] := by
    cases names with
    | nil => rfl
    | cons s names => simp [(hnames s (by simp)).ne_up]
  have hclimbs : ((List.replicate climbs up ++ names).takeWhile (· = up)).length = climbs := by
    rw [List.takeWhile_append_of_pos (by simp), hfirst]
    simp
  have hrest : (List.replicate climbs up ++ names).dropWhile (· = up) = names := by
    rw [List.dropWhile_append_of_pos (by simp)]
    simpa [hfirst] using List.takeWhile_append_dropWhile (p := (· = up)) (l := names)
  rw [List.foldl_append, foldl_keep_climbs hbase, foldl_keep_names true _ hnames, descend, hclimbs,
    hrest, List.reverse_append, List.drop_reverse]

/-- A path stays absolute with more behind it. -/
lemma isAbsolute_append {base : List Char} (h : isAbsolute base = true) (rest : List Char) :
    isAbsolute (base ++ rest) = true := by
  cases base with
  | nil => cases h
  | cons c base => simpa [isAbsolute] using h

/-- The segments of an absolute path are names. -/
lemma isName_segments {p : List Char} (h : isAbsolute p = true) : ∀ s ∈ segments p, IsName s :=
  isNormal_true_iff.1 (h ▸ isNormal_segments p)

/-- The pieces of a text behind a directory go on from the segments of the directory. -/
lemma segments_append_slash {base : List Char} (h : isAbsolute base = true) (rest : List Char) :
    segments (base ++ '/' :: rest) =
      ((rest.splitOn '/').foldl (keep true) (segments base).reverse).reverse := by
  rw [segments, isAbsolute_append h, List.splitOn_append_cons_self, List.foldl_append, segments, h,
    List.reverse_reverse]

/-- **A relative path** behind a directory has the segments that the directory leads to. -/
lemma segments_join {base p : List Char} (hbase : isAbsolute base = true)
    (hp : isAbsolute p = false) :
    segments (base ++ '/' :: cleanChars p) = descend (segments base) (segments p) := by
  have hnormal : IsNormal false (segments p) := hp ▸ isNormal_segments p
  rw [segments_append_slash hbase, cleanChars, foldl_keep_render _ _ _ hnormal.noSlash,
    foldl_keep_descend (isName_segments hbase) hnormal, List.reverse_reverse]

/-- A name behind a directory is one more segment. -/
lemma segments_name {base name : List Char} (hbase : isAbsolute base = true) (hname : IsName name) :
    segments (base ++ '/' :: name) = segments base ++ [name] := by
  rw [segments_append_slash hbase, List.splitOn_eq_singleton hname.noSlash, List.foldl_cons,
    keep_name true _ hname]
  simp

/-- Descending from names leaves names. -/
lemma isName_descend {base segs : List (List Char)} (hbase : ∀ s ∈ base, IsName s)
    (hsegs : IsNormal false segs) : ∀ s ∈ descend base segs, IsName s := by
  have hnormal := isNormal_foldl_keep segs hsegs.noSlash (isNormal_true_iff.2 hbase)
  rw [foldl_keep_descend hbase hsegs, List.reverse_reverse] at hnormal
  exact isNormal_true_iff.1 hnormal

/-! ## Directories in front -/

/-- Segments with a slash before each. -/
def below (segs : List (List Char)) : List Char := segs.flatMap ('/' :: ·)

/-- Segments one after another are written one after another. -/
@[simp] lemma below_append (a b : List (List Char)) : below (a ++ b) = below a ++ below b :=
  List.flatMap_append

/-- Only no segments are written as nothing. -/
@[simp] lemma below_eq_nil_iff {segs : List (List Char)} : below segs = [] ↔ segs = [] := by
  cases segs <;> simp [below]

/-- Segments below the root are written with a slash before each. -/
lemma render_true_cons (s : List Char) (segs : List (List Char)) :
    render true (s :: segs) = below (s :: segs) := by
  induction segs generalizing s with
  | nil => simp [render, below]
  | cons t segs ih =>
    have htail :
        ['/'].intercalate (s :: t :: segs) = s ++ '/' :: ['/'].intercalate (t :: segs) := by
      simp
    have hrest : '/' :: ['/'].intercalate (t :: segs) = below (t :: segs) := ih t
    rw [render, if_pos rfl, htail, hrest]
    rfl

/-- The same for segments that are not none. -/
lemma render_true_of_ne_nil {segs : List (List Char)} (h : segs ≠ []) :
    render true segs = below segs := by
  obtain ⟨s, rest, rfl⟩ := List.exists_cons_of_ne_nil h
  exact render_true_cons s rest

/-- The root is written as a slash. -/
@[simp] lemma render_true_nil : render true [] = ['/'] := rfl

/-- Names after slashes end in no slash. -/
lemma dropTrailing_below {segs : List (List Char)} (h : ∀ s ∈ segs, IsName s) :
    Text.dropTrailing '/' (below segs) = below segs := by
  rcases List.eq_nil_or_concat segs with rfl | ⟨front, last, rfl⟩
  · rfl
  · rw [List.concat_eq_append] at h ⊢
    have hlast := h last (by simp)
    obtain ⟨c, t, ht⟩ := List.exists_cons_of_ne_nil (mt List.reverse_eq_nil_iff.1 hlast.ne_nil)
    have hc : c ≠ '/' := by
      rintro rfl
      exact hlast.noSlash (List.mem_reverse.1 (ht ▸ List.mem_cons_self))
    have hrev : (below (front ++ [last])).reverse = c :: (t ++ '/' :: (below front).reverse) := by
      simp [below, ht]
    rw [Text.dropTrailing, hrev, List.dropWhile_cons_of_neg (by simpa using hc), ← hrev,
      List.reverse_reverse]

/-- An absolute path without its trailing slashes has a slash before each segment. -/
lemma dropTrailing_render {segs : List (List Char)} (h : ∀ s ∈ segs, IsName s) :
    Text.dropTrailing '/' (render true segs) = below segs := by
  by_cases hsegs : segs = []
  · subst hsegs
    rfl
  · rw [render_true_of_ne_nil hsegs, dropTrailing_below h]

/-- An absolute path that is clean but for slashes at its end. -/
structure IsTidy (dir : List Char) : Prop where
  absolute : isAbsolute dir = true
  clean : Text.dropTrailing '/' dir = Text.dropTrailing '/' (cleanChars dir)

/-- An absolute path is cleaned by rendering its segments below the root. -/
lemma cleanChars_of_isAbsolute {p : List Char} (h : isAbsolute p = true) :
    cleanChars p = render true (segments p) := by
  rw [cleanChars, h]

/-- A tidy directory without its trailing slashes has a slash before each segment. -/
lemma IsTidy.dropTrailing {dir : List Char} (h : IsTidy dir) :
    Text.dropTrailing '/' dir = below (segments dir) := by
  rw [h.clean, cleanChars_of_isAbsolute h.absolute,
    dropTrailing_render (isName_segments h.absolute)]

/-- A cleaned absolute path is tidy. -/
lemma isTidy_cleanChars {p : List Char} (h : isAbsolute p = true) : IsTidy (cleanChars p) :=
  ⟨(isAbsolute_cleanChars p).trans h, by rw [cleanChars_cleanChars]⟩

/-- What a text may go on with after a segment. -/
def EndsSegment (rest : List Char) : Prop := rest = [] ∨ isAbsolute rest = true

/-- What is written below a directory ends the segment before it. -/
lemma endsSegment_below (segs : List (List Char)) : EndsSegment (below segs) := by
  cases segs with
  | nil => exact .inl rfl
  | cons s segs => exact .inr rfl

/-- A segment goes up to the next slash. -/
lemma takeWhile_segment {s rest : List Char} (hs : '/' ∉ s) (hrest : EndsSegment rest) :
    (s ++ rest).takeWhile (· ≠ '/') = s := by
  have hnone : rest.takeWhile (· ≠ '/') = [] := by
    rcases hrest with rfl | hrest
    · rfl
    · cases rest with
      | nil => rfl
      | cons c rest =>
        have hc : c = '/' := by simpa [isAbsolute] using hrest
        simp [hc]
  have hall : ∀ c ∈ s, (decide (c ≠ '/')) = true := by
    intro c hc
    simpa using fun h : c = '/' => hs (h ▸ hc)
  rw [List.takeWhile_append_of_pos hall, hnone, List.append_nil]

/-- Two texts that go on after a first segment have the same one if they are equal. -/
lemma segment_inj {s t r r' : List Char} (hs : '/' ∉ s) (ht : '/' ∉ t) (hr : EndsSegment r)
    (hr' : EndsSegment r') (h : s ++ r = t ++ r') : s = t ∧ r = r' := by
  have hst : s = t := by
    rw [← takeWhile_segment hs hr, h, takeWhile_segment ht hr']
  subst hst
  exact ⟨rfl, List.append_cancel_left h⟩

/-- **Segments in front.** A text of segments starts with another one, up to the end of a segment,
just if the segments start with the others.

**Proof sketch.** Induction on the segments in front.  The first segments of both are equal, since
each of them ends where the first slash is. -/
lemma below_append_eq_iff {dir segs : List (List Char)} (hdir : ∀ s ∈ dir, '/' ∉ s)
    (hsegs : ∀ s ∈ segs, '/' ∉ s) {rest : List Char} (hrest : EndsSegment rest) :
    below dir ++ rest = below segs ↔ ∃ t, segs = dir ++ t ∧ rest = below t := by
  constructor
  · intro h
    induction dir generalizing segs with
    | nil => exact ⟨segs, rfl, h⟩
    | cons d dir ih =>
      cases segs with
      | nil => simp [below] at h
      | cons s segs =>
        have hcons : d ++ (below dir ++ rest) = s ++ below segs := by
          simpa [below] using h
        have hgoes : EndsSegment (below dir ++ rest) := by
          cases dir with
          | nil => exact hrest
          | cons e dir => exact .inr rfl
        obtain ⟨rfl, hmore⟩ := segment_inj (hdir d (by simp)) (hsegs s (by simp)) hgoes
          (endsSegment_below segs) hcons
        obtain ⟨t, rfl, ht⟩ := ih (fun s hs => hdir s (by simp [hs]))
          (fun s hs => hsegs s (by simp [hs])) hmore
        exact ⟨t, rfl, ht⟩
  · rintro ⟨t, rfl, rfl⟩
    rw [below_append]

/-- **The remainder** of a path below a directory is what is left of its segments.

**Proof sketch.** The directory without slashes at its end is its segments with a slash before
each, and so is the path unless it is the root. -/
lemma remainderUnder?_render {dir : List Char} (hdir : IsTidy dir) {segs : List (List Char)}
    (hsegs : ∀ s ∈ segs, IsName s) :
    remainderUnder? dir (render true segs) =
      if segments dir <+: segs then some (render true (segs.drop (segments dir).length))
      else none := by
  have hnames := isName_segments hdir.absolute
  rw [remainderUnder?, hdir.dropTrailing]
  by_cases hroot : segments dir = []
  · simp [hroot, below, isAbsolute, render]
  rw [if_neg (mt below_eq_nil_iff.1 hroot)]
  by_cases hsegs' : segs = []
  · -- the root is written with a slash of its own, so this is not the text of no segments
    subst hsegs'
    have hpre : ¬segments dir <+: [] := mt List.prefix_nil.1 hroot
    rw [if_neg hpre]
    obtain ⟨d, rest, hd⟩ := List.exists_cons_of_ne_nil hroot
    have hdname : d ≠ [] := (hnames d (by simp [hd])).ne_nil
    have hafter : Text.after? (below (segments dir)) ['/'] = none := by
      obtain ⟨c, d, rfl⟩ := List.exists_cons_of_ne_nil hdname
      simp [Text.after?, hd, below, List.isPrefixOf?]
    rw [render_true_nil, hafter]
  rw [render_true_of_ne_nil hsegs']
  have hiff : ∀ {rest : List Char}, EndsSegment rest →
      (Text.after? (below (segments dir)) (below segs) = some rest ↔
        ∃ t, segs = segments dir ++ t ∧ rest = below t) := fun hrest =>
    Text.after?_eq_some_iff.trans (below_append_eq_iff
      (fun s hs => (hnames s hs).noSlash) (fun s hs => (hsegs s hs).noSlash) hrest)
  by_cases hpre : segments dir <+: segs
  · obtain ⟨t, rfl⟩ := hpre
    rw [if_pos (List.prefix_append _ _), (hiff (endsSegment_below t)).2 ⟨t, rfl, rfl⟩,
      List.drop_left]
    cases t with
    | nil => rfl
    | cons s t => rw [render_true_cons]; rfl
  · rw [if_neg hpre]
    cases hafter : Text.after? (below (segments dir)) (below segs) with
    | none => rfl
    | some rest =>
      -- the directory ends inside a segment of the path
      have hrest : ¬EndsSegment rest := by
        intro hrest
        obtain ⟨t, ht, -⟩ := (hiff hrest).1 hafter
        exact hpre ⟨t, ht.symm⟩
      rw [EndsSegment, not_or] at hrest
      cases rest with
      | nil => exact absurd rfl hrest.1
      | cons c rest => simp [hrest.2]

/-- A rendered path is under a tidy directory just if its segments start with those of the
directory. -/
lemma isUnder_render {dir : List Char} (hdir : IsTidy dir) {segs : List (List Char)}
    (hsegs : ∀ s ∈ segs, IsName s) :
    isUnder dir (render true segs) = decide (segments dir <+: segs) := by
  rw [isUnder, remainderUnder?_render hdir hsegs]
  split_ifs with h <;> simp [h]

/-- **A path put under a directory** has the segments of both. -/
lemma joinUnder_render {dir : List Char} (hdir : IsTidy dir) {segs : List (List Char)}
    (hsegs : ∀ s ∈ segs, IsName s) :
    joinUnder dir (render true segs) = render true (segments dir ++ segs) := by
  rw [joinUnder, hdir.dropTrailing]
  cases segs with
  | nil =>
    rw [List.append_nil, render_true_nil, if_pos rfl]
    split_ifs with hroot
    · rw [below_eq_nil_iff.1 hroot, render_true_nil]
    · rw [render_true_of_ne_nil (mt below_eq_nil_iff.2 hroot)]
  | cons s segs =>
    obtain ⟨c, t, rfl⟩ := List.exists_cons_of_ne_nil (hsegs s (by simp)).ne_nil
    have hroot : render true ((c :: t) :: segs) ≠ ['/'] := by
      simp [render_true_cons, below]
    rw [if_neg hroot, render_true_cons, render_true_of_ne_nil (by simp), below_append]

end CommandRelay.Path
