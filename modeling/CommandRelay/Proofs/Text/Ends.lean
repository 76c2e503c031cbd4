import CommandRelay.Text.Blank
import CommandRelay.Text.Split
import Mathlib.Data.List.Basic
import Mathlib.Data.List.DropRight
import Mathlib.Tactic.Common

/-!
# The ends of texts

A mark at the start of a text is taken off, and blanks are taken off at both ends.  What is left is
pinned down by the text that was there.

## Main definitions

* `Text.Trims` — a text without the blanks at its ends.

## Main results

* `Text.after?_eq_some_iff`, `Text.after?_eq_none_iff` — what is left behind a mark.
* `Text.trim_trim` — trimming twice is trimming once.
* `Text.trim_eq_iff` — trimming leaves the text without the blanks at its ends.
-/

namespace CommandRelay.Text

variable {s t lead rest : List Char}

/-! ## Marks -/

/-- Something is after a lead just if the text is the lead with that behind it. -/
lemma after?_eq_some_iff : after? lead s = some rest ↔ lead ++ rest = s :=
  List.isPrefixOf?_eq_some_iff_append_eq

/-- What is behind a lead is after it. -/
lemma after?_append (lead rest : List Char) : after? lead (lead ++ rest) = some rest :=
  after?_eq_some_iff.2 rfl

/-- Nothing is after a lead just if the text does not start with it. -/
lemma after?_eq_none_iff : after? lead s = none ↔ ¬lead <+: s := by
  rw [Option.eq_none_iff_forall_ne_some]
  exact ⟨fun h ⟨rest, hrest⟩ => h rest (after?_eq_some_iff.2 hrest),
    fun h rest hrest => h ⟨rest, after?_eq_some_iff.1 hrest⟩⟩

/-! ## Blanks -/

/-- No blank stands at the start of a trimmed text. -/
lemma dropWhile_trim (s : List Char) : (trim s).dropWhile isBlank = trim s := by
  rw [List.dropWhile_eq_self_iff]
  intro hlength hblank
  -- a trimmed text is the beginning of one whose blanks at the start were dropped
  obtain ⟨rest, hrest⟩ : trim s <+: s.dropWhile isBlank := List.rdropWhile_prefix isBlank _
  have hlength' : 0 < (s.dropWhile isBlank).length := by
    rw [← hrest, List.length_append]
    omega
  refine List.dropWhile_eq_self_iff.1 (List.dropWhile_idempotent isBlank s) hlength' ?_
  simpa only [← hrest, List.getElem_append_left hlength] using hblank

/-- **Trimming twice** is trimming once. -/
lemma trim_trim (s : List Char) : trim (trim s) = trim s := by
  rw [trim, dropWhile_trim]
  exact List.rdropWhile_idempotent isBlank _

/-- A text without the blanks at its ends. -/
structure Trims (s t : List Char) : Prop where
  /-- Only blanks are left out, and only at the ends. -/
  around : ∃ lead tail, s = lead ++ t ++ tail ∧ ∀ c ∈ lead ++ tail, isBlank c = true
  head : ∀ c ∈ t.head?, isBlank c = false
  last : ∀ c ∈ t.getLast?, isBlank c = false

/-- Trimming takes all blanks off both ends and nothing else. -/
lemma trims_trim (s : List Char) : Trims s (trim s) := by
  have hfront : s.takeWhile isBlank ++ s.dropWhile isBlank = s := List.takeWhile_append_dropWhile
  have hback : trim s ++ (s.dropWhile isBlank).rtakeWhile isBlank = s.dropWhile isBlank := by
    rw [trim, trimEnd, List.rtakeWhile, ← List.reverse_append, List.takeWhile_append_dropWhile,
      List.reverse_reverse]
  refine ⟨⟨s.takeWhile isBlank, (s.dropWhile isBlank).rtakeWhile isBlank, ?_, ?_⟩, ?_, ?_⟩
  · rw [List.append_assoc, hback, hfront]
  · intro c hc
    rcases List.mem_append.1 hc with hc | hc
    · exact List.mem_takeWhile_imp hc
    · exact List.mem_rtakeWhile_imp hc
  · intro c hc
    rw [← dropWhile_trim] at hc
    have hstop := List.head?_dropWhile_not isBlank (trim s)
    rw [Option.mem_def.1 hc] at hstop
    exact hstop
  · intro c hc
    obtain ⟨hne, rfl⟩ := List.mem_getLast?_eq_getLast hc
    exact Bool.eq_false_iff.2 (List.rdropWhile_last_not isBlank (s.dropWhile isBlank) hne)

/-- **Trimming** leaves the text without the blanks at its ends, and there is only one. -/
lemma trim_eq_iff : trim s = t ↔ Trims s t := by
  refine ⟨fun h => h ▸ trims_trim s, fun ⟨⟨lead, tail, hs, hblank⟩, hhead, hlast⟩ => ?_⟩
  have hlead : ∀ c ∈ lead, isBlank c = true := fun c hc => hblank c (List.mem_append_left _ hc)
  have htail : ∀ c ∈ tail, isBlank c = true := fun c hc => hblank c (List.mem_append_right _ hc)
  have hback : (t ++ tail).rdropWhile isBlank = t := by
    rw [List.rdropWhile, List.reverse_append,
      List.dropWhile_append_of_pos fun c hc => htail c (List.mem_reverse.1 hc), ← List.rdropWhile,
      List.rdropWhile_eq_self_iff]
    intro hne
    simpa using hlast _ (List.getLast_mem_getLast? hne)
  rw [hs, List.append_assoc, trim, List.dropWhile_append_of_pos hlead]
  cases ht : t with
  | nil =>
    -- only blanks are left, so nothing is
    rw [List.nil_append, List.dropWhile_eq_nil_iff.2 htail]
    rfl
  | cons c rest =>
    rw [List.cons_append, List.dropWhile_cons_of_neg (by simp [hhead c (by simp [ht])])]
    rw [ht] at hback
    exact hback

/-- The end of a trimmed text with a mark in front is a trimmed text. -/
lemma Trims.marked (h : Trims s t) {front part mark : List Char} (ht : t = front ++ part)
    (hpart : part ≠ []) (hmark : ∀ c ∈ mark.head?, isBlank c = false) (hne : mark ≠ []) :
    Trims (mark ++ part) (mark ++ part) := by
  refine ⟨⟨[], [], by simp, by simp⟩, fun c hc => hmark c ?_, fun c hc => h.last c ?_⟩
  · rwa [List.head?_append_of_ne_nil _ hne] at hc
  · rw [List.getLast?_append_of_ne_nil _ hpart] at hc
    rwa [ht, List.getLast?_append_of_ne_nil _ hpart]

end CommandRelay.Text
