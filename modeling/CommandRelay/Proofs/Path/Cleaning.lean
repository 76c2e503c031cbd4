import CommandRelay.Proofs.Path.Segments
import Mathlib.Logic.Relation

/-!
# The normal form of a path

Cleaning a path is shortening the row of its pieces by three rules: a piece that is empty or `.`
goes, a name goes together with a `..` right behind it, and a `..` at the root goes.  The rules can
be used in any order and at any place; where none of them applies any more, the pieces are the
segments of the cleaned path.  So it does not matter whether a directory is cleaned before or after
something is put behind it, nor whether a relative path is cleaned before it is put behind one.

## Main definitions

* `Path.IsClean` — the texts that paths are cleaned to.
* `Path.Shortens` — one use of a rule.
* `Path.Settles` — using rules until none applies.

## Main results

* `Path.settles_iff` — the rules lead to the segments of the cleaned path and nowhere else.
* `Path.cleanChars_append_slash`, `Path.cleanChars_append_slash_cleanChars` — cleaning the front and
  the back of a path.
* `Path.clean_normalForm` — these together.
-/

namespace CommandRelay.Path

/-! ## Clean texts -/

/-- A clean text: the current directory, the root, or normal segments joined by single slashes,
behind one more slash if they start at the root. -/
def IsClean (absolute : Bool) (t : List Char) : Prop :=
  absolute = false ∧ t = ['.'] ∨ absolute = true ∧ t = ['/'] ∨
    ∃ segs ≠ [], IsNormal absolute segs ∧
      t = (if absolute then ['/'] else []) ++ ['/'].intercalate segs

/-- No segments are normal. -/
lemma isNormal_nil (absolute : Bool) : IsNormal absolute [] := ⟨0, [], rfl, fun _ => rfl, by simp⟩

/-- Cleaned paths are the rendered normal segments. -/
lemma isClean_iff {absolute : Bool} {t : List Char} :
    IsClean absolute t ↔ ∃ segs, IsNormal absolute segs ∧ t = render absolute segs := by
  constructor
  · rintro (⟨rfl, rfl⟩ | ⟨rfl, rfl⟩ | ⟨segs, hsegs, hnormal, rfl⟩)
    · exact ⟨[], isNormal_nil false, rfl⟩
    · exact ⟨[], isNormal_nil true, rfl⟩
    · exact ⟨segs, hnormal, by cases absolute <;> simp [render, hsegs]⟩
  · rintro ⟨segs, hnormal, rfl⟩
    by_cases hsegs : segs = []
    · subst hsegs
      cases absolute with
      | false => exact .inl ⟨rfl, rfl⟩
      | true => exact .inr (.inl ⟨rfl, rfl⟩)
    · exact .inr (.inr ⟨segs, hsegs, hnormal, by cases absolute <;> simp [render, hsegs]⟩)

/-- Cleaning gives a cleaned path. -/
lemma isClean_cleanChars (p : List Char) : IsClean (isAbsolute p) (cleanChars p) :=
  isClean_iff.2 ⟨_, isNormal_segments p, rfl⟩

/-! ## Rules of cleaning -/

/-- One use of a rule among the pieces of a path, which starts at the root or not. -/
inductive Shortens (absolute : Bool) : List (List Char) → List (List Char) → Prop
  /-- A piece that means nothing goes. -/
  | blank (front rest : List (List Char)) {piece : List Char} (h : piece = [] ∨ piece = ['.']) :
      Shortens absolute (front ++ piece :: rest) (front ++ rest)
  /-- A name goes with the `..` behind it. -/
  | back (front rest : List (List Char)) {name : List Char} (h : IsName name) :
      Shortens absolute (front ++ name :: up :: rest) (front ++ rest)
  /-- There is nothing above the root. -/
  | root (rest : List (List Char)) (h : absolute = true) : Shortens absolute (up :: rest) rest

/-- Rules lead from the pieces to others that no rule applies to. -/
def Settles (absolute : Bool) (pieces segs : List (List Char)) : Prop :=
  Relation.ReflTransGen (Shortens absolute) pieces segs ∧ ∀ segs', ¬Shortens absolute segs segs'

section Rules

variable {absolute : Bool} {pieces pieces' segs : List (List Char)}

/-- The same rule with more pieces at the end. -/
lemma Shortens.append (h : Shortens absolute pieces pieces') (more : List (List Char)) :
    Shortens absolute (pieces ++ more) (pieces' ++ more) := by
  cases h with
  | blank front rest h => simpa using Shortens.blank front (rest ++ more) h
  | back front rest h => simpa using Shortens.back front (rest ++ more) h
  | root _ h => exact .root (pieces' ++ more) h

/-- A rule leaves out pieces and changes no others. -/
lemma Shortens.sublist (h : Shortens absolute pieces pieces') : pieces'.Sublist pieces := by
  cases h with
  | blank front rest h => exact (List.Sublist.refl front).append (List.sublist_cons_self _ rest)
  | back front rest h =>
    exact (List.Sublist.refl front).append ((List.sublist_cons_self _ rest).cons _)
  | root _ h => exact List.sublist_cons_self _ _

/-- Every rule leaves out a piece, so that rules come to an end. -/
lemma Shortens.length_lt (h : Shortens absolute pieces pieces') :
    pieces'.length < pieces.length := by
  cases h with
  | blank => simp
  | back => simp only [List.length_append, List.length_cons]; omega
  | root => simp

/-- A rule does not change what is kept of the pieces, behind other pieces too if the rules are
those of a relative path. -/
lemma Shortens.foldl_keep (h : Shortens absolute pieces pieces') {absolute' : Bool}
    {kept : List (List Char)} (hroot : absolute = true → absolute' = true ∧ kept = []) :
    pieces.foldl (keep absolute') kept = pieces'.foldl (keep absolute') kept := by
  cases h with
  | blank front rest h =>
    rw [List.foldl_append, List.foldl_cons, List.foldl_append]
    simp only [keep, if_pos h]
  | back front rest h =>
    rw [List.foldl_append, List.foldl_cons, List.foldl_cons, List.foldl_append,
      keep_name absolute' _ h, keep_up_name absolute' _ h]
  | root _ h =>
    obtain ⟨rfl, rfl⟩ := hroot h
    rfl

/-- Rules one after another leave out pieces and change no others. -/
lemma sublist_of_reduces (h : Relation.ReflTransGen (Shortens absolute) pieces segs) :
    segs.Sublist pieces := by
  induction h with
  | refl => exact List.Sublist.refl _
  | tail _ hstep ih => exact hstep.sublist.trans ih

/-- Rules one after another do not change what is kept of the pieces. -/
lemma foldl_keep_of_reduces (h : Relation.ReflTransGen (Shortens absolute) pieces segs)
    {absolute' : Bool} {kept : List (List Char)}
    (hroot : absolute = true → absolute' = true ∧ kept = []) :
    pieces.foldl (keep absolute') kept = segs.foldl (keep absolute') kept := by
  induction h with
  | refl => rfl
  | tail _ hstep ih => exact ih.trans (hstep.foldl_keep hroot)

/-- A `..` behind normal segments goes with the last name or at the root, or is a new segment. -/
lemma reduces_keep_up (h : IsNormal absolute segs) :
    Relation.ReflTransGen (Shortens absolute) (segs ++ [up])
      (keep absolute segs.reverse up).reverse := by
  obtain ⟨climbs, names, rfl, hclimbs, hnames⟩ := h
  rcases List.eq_nil_or_concat names with rfl | ⟨front, last, rfl⟩
  · rw [List.append_nil, List.reverse_replicate, keep_up_climbs absolute climbs hclimbs,
      List.reverse_replicate]
    cases absolute with
    | true =>
      rw [hclimbs rfl]
      exact .single (.root [] rfl)
    | false =>
      rw [← List.replicate_succ']
      exact .refl
  · rw [List.concat_eq_append] at hnames ⊢
    have hlast := hnames last (by simp)
    have hkeep : (keep absolute (List.replicate climbs up ++ (front ++ [last])).reverse
        up).reverse = List.replicate climbs up ++ front := by
      rw [← List.append_assoc, List.reverse_append, List.reverse_singleton,
        List.singleton_append, keep_up_name absolute _ hlast, List.reverse_reverse]
    rw [hkeep]
    have hback : Shortens absolute (List.replicate climbs up ++ front ++ [last, up])
        (List.replicate climbs up ++ front ++ []) := .back _ [] hlast
    exact .single (by simpa using hback)

/-- One more piece behind normal segments is taken in by a rule, if it is no new segment. -/
lemma reduces_keep (h : IsNormal absolute segs) {piece : List Char} (hpiece : '/' ∉ piece) :
    Relation.ReflTransGen (Shortens absolute) (segs ++ [piece])
      (keep absolute segs.reverse piece).reverse := by
  by_cases hskip : piece = [] ∨ piece = ['.']
  · have hkeep : (keep absolute segs.reverse piece).reverse = segs := by simp [keep, hskip]
    rw [hkeep]
    have hblank : Shortens absolute (segs ++ [piece]) (segs ++ []) := .blank segs [] hskip
    exact .single (by rwa [List.append_nil] at hblank)
  by_cases hup : piece = up
  · rw [hup]
    exact reduces_keep_up h
  · have hname : IsName piece :=
      ⟨fun hs => hskip (.inl hs), fun hs => hskip (.inr hs), hup, hpiece⟩
    rw [keep_name absolute _ hname, List.reverse_cons, List.reverse_reverse]

/-- **The rules lead** to the segments that are kept.

**Proof sketch.** Induction on the pieces from their end.  What is kept of the pieces before the
last one is normal, and the rules have led there already with the last one behind. -/
lemma reduces_foldl_keep (absolute : Bool) (hpieces : ∀ piece ∈ pieces, '/' ∉ piece) :
    Relation.ReflTransGen (Shortens absolute) pieces
      (pieces.foldl (keep absolute) []).reverse := by
  induction pieces using List.reverseRecOn with
  | nil => exact .refl
  | append_singleton pieces piece ih =>
    have hfront : ∀ piece ∈ pieces, '/' ∉ piece := fun s hs => hpieces s (by simp [hs])
    have hnormal : IsNormal absolute (pieces.foldl (keep absolute) []).reverse :=
      isNormal_foldl_keep pieces hfront (isNormal_nil absolute)
    have hlast := reduces_keep hnormal (hpieces piece (by simp))
    rw [List.reverse_reverse] at hlast
    rw [List.foldl_append, List.foldl_cons, List.foldl_nil]
    exact ((ih hfront).lift (· ++ [piece]) fun _ _ h => h.append [piece]).trans hlast

/-- No rule applies to normal segments.

**Proof sketch.** A rule would make them shorter, but what is kept is not changed by it, and that
is all of them. -/
lemma not_shortens_of_isNormal (h : IsNormal absolute segs) : ¬Shortens absolute segs pieces := by
  intro hstep
  have hslash : ∀ piece ∈ pieces, '/' ∉ piece := fun s hs =>
    h.noSlash s (hstep.sublist.subset hs)
  have hkept : (pieces.foldl (keep absolute) []).reverse = segs := by
    rw [← hstep.foldl_keep fun ha => ⟨ha, rfl⟩, foldl_keep_normal h, List.reverse_reverse]
  have hagain := reduces_foldl_keep absolute hslash
  rw [hkept] at hagain
  exact absurd (sublist_of_reduces hagain).length_le (Nat.not_le.2 hstep.length_lt)

/-- **One normal form.** Wherever the rules are used, they end in the segments that are kept. -/
lemma settles_foldl_keep_iff (hpieces : ∀ piece ∈ pieces, '/' ∉ piece) :
    Settles absolute pieces segs ↔ segs = (pieces.foldl (keep absolute) []).reverse := by
  constructor
  · rintro ⟨hreduces, hend⟩
    have hslash : ∀ s ∈ segs, '/' ∉ s := fun s hs =>
      hpieces s ((sublist_of_reduces hreduces).subset hs)
    have hmore := reduces_foldl_keep absolute hslash
    rw [foldl_keep_of_reduces hreduces fun ha => ⟨ha, rfl⟩]
    rcases hmore.cases_head with heq | ⟨segs', hstep, -⟩
    · exact heq
    · exact absurd hstep (hend segs')
  · rintro rfl
    exact ⟨reduces_foldl_keep absolute hpieces, fun _ => not_shortens_of_isNormal
      (isNormal_foldl_keep pieces hpieces (isNormal_nil absolute))⟩

end Rules

/-- The rules lead from the pieces of a path to its segments, and they end nowhere else. -/
lemma settles_iff (p : List Char) {segs : List (List Char)} :
    Settles (isAbsolute p) (p.splitOn '/') segs ↔ segs = segments p :=
  settles_foldl_keep_iff (slash_notMem_piece p)

/-! ## Paths behind each other -/

/-- What stands behind other pieces may be cleaned first, as a relative path: the rules for that are
rules behind other pieces too. -/
lemma foldl_keep_cleaned (absolute : Bool) (kept : List (List Char)) {pieces : List (List Char)}
    (hpieces : ∀ piece ∈ pieces, '/' ∉ piece) :
    (pieces.foldl (keep false) []).reverse.foldl (keep absolute) kept =
      pieces.foldl (keep absolute) kept :=
  (foldl_keep_of_reduces (reduces_foldl_keep false hpieces) nofun).symm

/-- Text behind a text that is not empty does not change whether it is absolute. -/
lemma isAbsolute_append_of_ne_nil {a : List Char} (ha : a ≠ []) (b : List Char) :
    isAbsolute (a ++ b) = isAbsolute a := by
  obtain ⟨c, a, rfl⟩ := List.exists_cons_of_ne_nil ha
  rfl

/-- The pieces of a text behind another one go on from the segments of that one. -/
lemma segments_append_slash_of_ne_nil {a : List Char} (ha : a ≠ []) (b : List Char) :
    segments (a ++ '/' :: b) =
      ((b.splitOn '/').foldl (keep (isAbsolute a)) (segments a).reverse).reverse := by
  rw [segments, isAbsolute_append_of_ne_nil ha, List.splitOn_append_cons_self, List.foldl_append,
    segments, List.reverse_reverse]

/-- **The front** of a path may be cleaned first. -/
lemma cleanChars_append_slash {a : List Char} (ha : a ≠ []) (b : List Char) :
    cleanChars (cleanChars a ++ '/' :: b) = cleanChars (a ++ '/' :: b) := by
  have hclean : cleanChars a ≠ [] := render_ne_nil (isNormal_segments a)
  rw [cleanChars, isAbsolute_append_of_ne_nil hclean, segments_append_slash_of_ne_nil hclean,
    isAbsolute_cleanChars, segments_cleanChars, cleanChars, isAbsolute_append_of_ne_nil ha,
    segments_append_slash_of_ne_nil ha]

/-- **The back** of a path may be cleaned first, if it is relative. -/
lemma cleanChars_append_slash_cleanChars {a b : List Char} (ha : a ≠ [])
    (hb : isAbsolute b = false) :
    cleanChars (a ++ '/' :: cleanChars b) = cleanChars (a ++ '/' :: b) := by
  have hslash : ∀ s ∈ segments b, '/' ∉ s := (isNormal_segments b).noSlash
  have hkept (kept : List (List Char)) :
      ((cleanChars b).splitOn '/').foldl (keep (isAbsolute a)) kept =
        (b.splitOn '/').foldl (keep (isAbsolute a)) kept := by
    rw [cleanChars, foldl_keep_render _ _ _ hslash, segments, hb]
    exact foldl_keep_cleaned _ kept (slash_notMem_piece b)
  rw [cleanChars, isAbsolute_append_of_ne_nil ha, segments_append_slash_of_ne_nil ha, hkept,
    cleanChars, isAbsolute_append_of_ne_nil ha, segments_append_slash_of_ne_nil ha]

/-- Cleaning a string cleans its characters. -/
lemma toList_clean (p : String) : (clean p).toList = cleanChars p.toList := String.toList_ofList

/-- Cleaning a string twice is cleaning it once. -/
lemma clean_clean (p : String) : clean (clean p) = clean p := by
  rw [clean, toList_clean, cleanChars_cleanChars, clean]

/-- **The normal form of a path.** A path is cleaned to a clean text that starts at the root if the
path does.  This is the text of the segments that the rules of cleaning lead to, in whatever order
they are used, and cleaning it again changes nothing.  Behind a path that is not empty another one
can be put before cleaning or after it, and a relative one can be cleaned before that.

**Proof sketch.** No rule changes what is kept of the pieces, and the rules lead to what is kept; so
they end there.  The rules for a relative path hold behind other pieces too, which gives the last
part. -/
theorem clean_normalForm :
    (∀ p : String, IsClean (isAbsolute p.toList) (clean p).toList ∧
      isAbsolute (clean p).toList = isAbsolute p.toList ∧ clean (clean p) = clean p ∧
      ∃ segs, (clean p).toList = render (isAbsolute p.toList) segs ∧
        ∀ segs', Settles (isAbsolute p.toList) (p.toList.splitOn '/') segs' ↔ segs' = segs) ∧
    (∀ a b : String, a ≠ "" → clean (a ++ "/" ++ b) = clean (clean a ++ "/" ++ b)) ∧
    ∀ a b : String, a ≠ "" → isAbsolute b.toList = false →
      clean (a ++ "/" ++ b) = clean (a ++ "/" ++ clean b) := by
  have htext (a b : String) : (a ++ "/" ++ b).toList = a.toList ++ '/' :: b.toList := by
    simp [String.toList_append]
  refine ⟨fun p => ?_, fun a b ha => ?_, fun a b ha hb => ?_⟩
  · rw [clean_clean, toList_clean, isAbsolute_cleanChars]
    exact ⟨isClean_cleanChars _, rfl, rfl, segments p.toList, rfl, fun _ => settles_iff _⟩
  · have hne : a.toList ≠ [] := mt String.toList_eq_nil_iff.1 ha
    refine congrArg String.ofList ?_
    rw [htext, htext, toList_clean, cleanChars_append_slash hne]
  · have hne : a.toList ≠ [] := mt String.toList_eq_nil_iff.1 ha
    refine congrArg String.ofList ?_
    rw [htext, htext, toList_clean, cleanChars_append_slash_cleanChars hne hb]

/-- A path whose front climbs and whose back climbs further than it descends. -/
theorem clean_normalForm_climbing :
    clean ("a/../.." ++ "/" ++ "x/../../b/.") = "../../b" ∧
      clean (clean "a/../.." ++ "/" ++ "x/../../b/.") = "../../b" ∧
      clean ("a/../.." ++ "/" ++ clean "x/../../b/.") = "../../b" := by
  obtain ⟨-, hfront, hback⟩ := clean_normalForm
  have hclean : clean ("a/../.." ++ "/" ++ "x/../../b/.") = "../../b" := by decide
  refine ⟨hclean, ?_, ?_⟩
  · rw [← hfront _ _ (by decide), hclean]
  · rw [← hback _ _ (by decide) (by decide), hclean]

end CommandRelay.Path
