import CommandRelay.Proofs.Path.Lineage
import Mathlib.Data.String.Basic

/-!
# The path of the directory that a path stands in

The path of a file is written with its last segment, and without it the path of the directory that
the file stands in.  Segments that mean nothing are left out with it, and nothing is added, so the
shorter text is a path as well.

## Main results

* `Path.sublist_parent?` — the characters of the shorter text.
* `Path.IsPath.parent` — the shorter text is a path.
-/

namespace CommandRelay.Path

/-- Leaving out segments leaves out characters. -/
lemma sublist_intercalate {a b : List (List Char)} (h : a.Sublist b) :
    (['/'].intercalate a).Sublist (['/'].intercalate b) := by
  induction h with
  | slnil => exact .refl _
  | @cons a b s h ih =>
    cases b with
    | nil =>
      rw [List.sublist_nil.1 h]
      exact List.nil_sublist _
    | cons s' b =>
      rw [List.intercalate_cons_cons]
      exact ih.trans (List.sublist_append_right _ _)
  | @cons_cons a b s h ih =>
    cases a with
    | nil =>
      cases b with
      | nil => exact .refl _
      | cons s' b =>
        rw [List.intercalate_cons_cons, List.append_assoc, List.intercalate_singleton]
        exact List.sublist_append_left _ _
    | cons s'' a =>
      cases b with
      | nil => cases h
      | cons s' b =>
        rw [List.intercalate_cons_cons, List.intercalate_cons_cons]
        exact ih.append_left _

/-- The segments that mean something are among all segments, in the same order. -/
lemma sublist_significant (segs : List (List Char)) : (significant segs).Sublist segs := by
  cases segs with
  | nil => exact .refl _
  | cons first rest =>
    rw [significant]
    split_ifs
    · exact (List.filter_sublist).cons _
    · exact (List.filter_sublist).cons_cons _

/-- The directory that a path stands in is written with some of the characters of the path. -/
lemma sublist_parent? {path parent : String} (hparent : parent? path = some parent) :
    parent.toList.Sublist path.toList := by
  simp only [parent?] at hparent
  split_ifs at hparent
  obtain rfl := Option.some.inj hparent
  rw [ofSegments, String.toList_ofList]
  have hdrop : ∀ {segs : List (List Char)} {p : List Char}, segs.Sublist (p.splitOn '/') →
      (['/'].intercalate segs.dropLast).Sublist p := by
    intro segs p hsegs
    simpa [List.intercalate_splitOn] using
      sublist_intercalate ((List.dropLast_sublist _).trans hsegs)
  cases habsolute : isAbsolute path.toList with
  | false => simpa using hdrop (sublist_significant (path.toList.splitOn '/'))
  | true =>
    obtain ⟨rest, hrest⟩ : ∃ rest, path.toList = '/' :: rest := by
      cases hchars : path.toList with
      | nil => simp [hchars, isAbsolute] at habsolute
      | cons c rest =>
        rw [hchars] at habsolute
        exact ⟨rest, by simpa [isAbsolute] using habsolute⟩
    -- the empty segment before the first slash is left out, and the slash is put there again
    have hsegs : (significant (path.toList.splitOn '/')).Sublist (rest.splitOn '/') := by
      rw [hrest, ← List.nil_append ('/' :: rest), List.splitOn_append_cons_self]
      exact List.filter_sublist
    have hfront := (hdrop hsegs).cons_cons '/'
    rw [← hrest] at hfront
    exact hfront

/-- **The directory that a path stands in** has a path as well, unless it is the current one. -/
lemma IsPath.parent {path parent : String} (h : IsPath path) (hparent : parent? path = some parent)
    (hne : parent ≠ "") : IsPath parent := by
  have hsublist := sublist_parent? hparent
  refine ⟨fun hnul => h.noNul (hsublist.subset hnul), by simpa using hne, ?_⟩
  apply Nat.lt_of_le_of_lt ?_ h.short
  rw [← String.ofList_toList (s := parent), ← String.ofList_toList (s := path),
    String.utf8ByteSize_ofList, String.utf8ByteSize_ofList]
  exact String.utf8Len_le_of_sublist hsublist

end CommandRelay.Path
