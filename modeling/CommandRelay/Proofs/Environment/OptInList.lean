import CommandRelay.Environment.OptIn
import Mathlib.Data.List.Basic
import Mathlib.Tactic.Common

/-!
# How the opt-in list is written

An entry of the opt-in list is a name, or a name, a slash and flags.  Entries are separated by
colons, so they hold none themselves; flags may hold further slashes and may be empty.  An empty
entry and one that starts with a slash have no name, and are passed over wherever they stand.

Reading a list inverts this: it finds the entries that were written, in their order and as often as
they were, and every list is read as if it had been written so.

## Main definitions

* `OptIn.IsWritable` — an entry that can be written.
* `OptIn.Lists` — pieces of a list that write some entries.
* `OptIn.joined` — the list of some pieces.

## Main results

* `OptIn.ofPiece?_eq_some_iff_toChars`, `OptIn.ofPiece?_eq_none_iff` — reading one piece.
* `OptIn.parse_inverts` — reading a list.
-/

namespace CommandRelay.OptIn

/-! ## One entry -/

/-- An entry that can be written in a list: its name is not empty and holds neither separator, and
its flags hold no colon. -/
structure IsWritable (e : OptIn) : Prop where
  name_ne : e.name ≠ ""
  name_noSlash : '/' ∉ e.name.toList
  name_noColon : ':' ∉ e.name.toList
  flags_noColon : ∀ flags ∈ e.flags, ':' ∉ flags.toList

/-- What a list passes over. -/
def IsNameless (piece : List Char) : Prop := piece = [] ∨ piece.head? = some '/'

/-- A name is empty if it is read from nothing. -/
lemma ofList_ne_empty_iff {name : List Char} : String.ofList name ≠ "" ↔ name ≠ [] := by
  rw [Ne, ← String.toList_eq_nil_iff, String.toList_ofList]

/-- A name that is not empty has characters. -/
lemma toList_ne_nil {name : String} (h : name ≠ "") : name.toList ≠ [] :=
  mt String.toList_eq_nil_iff.1 h

/-- **One entry** is read as it is written, if it has a name without a slash. -/
lemma ofPiece?_eq_some_iff_toChars {piece : List Char} {e : OptIn} :
    ofPiece? piece = some e ↔ e.name ≠ "" ∧ '/' ∉ e.name.toList ∧ piece = e.toChars := by
  rw [ofPiece?]
  constructor
  · intro h
    cases hcut : Text.cutFirst? '/' piece with
    | none =>
      simp only [hcut] at h
      split_ifs at h with hname
      cases h
      simpa [toChars, ofList_ne_empty_iff, hname] using Text.cutFirst?_eq_none_iff.1 hcut
    | some cut =>
      simp only [hcut] at h
      split_ifs at h with hname
      cases h
      obtain ⟨htext, hfront⟩ := Text.cutFirst?_eq_some_iff.1 hcut
      simpa [toChars, ofList_ne_empty_iff, hname, hfront] using htext
  · rintro ⟨hname, hslash, rfl⟩
    obtain ⟨name, flags⟩ := e
    have hne := toList_ne_nil hname
    cases flags with
    | none =>
      have hcut := Text.cutFirst?_eq_none_iff.2 hslash
      simp [toChars, hcut, hne]
    | some flags =>
      have hcut : Text.cutFirst? '/' (name.toList ++ '/' :: flags.toList) =
          some (name.toList, flags.toList) := Text.cutFirst?_eq_some_iff.2 ⟨rfl, hslash⟩
      simp [toChars, hcut, hne]

/-- What is passed over is what has no name. -/
lemma ofPiece?_eq_none_iff {piece : List Char} : ofPiece? piece = none ↔ IsNameless piece := by
  cases piece with
  | nil => simp [ofPiece?, Text.cutFirst?, IsNameless]
  | cons c rest =>
    by_cases hc : c = '/'
    · simp [ofPiece?, Text.cutFirst?, IsNameless, hc]
    · cases hcut : Text.cutFirst? '/' rest <;>
        simp [ofPiece?, Text.cutFirst?, IsNameless, hc, hcut]

/-- An entry that can be written is written without a colon. -/
lemma IsWritable.colon_notMem_toChars {e : OptIn} (h : e.IsWritable) : ':' ∉ e.toChars := by
  obtain ⟨name, flags⟩ := e
  cases flags with
  | none => simpa [toChars] using h.name_noColon
  | some flags =>
    have hflags := h.flags_noColon flags rfl
    simpa [toChars, h.name_noColon] using hflags

/-- An entry that is read from a piece without a colon can be written. -/
lemma isWritable_of_read {piece : List Char} {e : OptIn} (hcolon : ':' ∉ piece)
    (h : ofPiece? piece = some e) : e.IsWritable := by
  obtain ⟨hname, hslash, rfl⟩ := ofPiece?_eq_some_iff_toChars.1 h
  rw [toChars, List.mem_append, not_or] at hcolon
  obtain ⟨hnameColon, hrest⟩ := hcolon
  refine ⟨hname, hslash, hnameColon, fun flags hflags => ?_⟩
  rw [Option.mem_def] at hflags
  rw [hflags] at hrest
  exact fun hmem => hrest (List.mem_cons_of_mem _ hmem)

/-! ## The list -/

/-- Pieces that write entries in their order: one piece for each entry, and between them any number
of pieces that are passed over. -/
inductive Lists : List (List Char) → List OptIn → Prop
  | nil : Lists [] []
  | entry {pieces es} (e : OptIn) (he : e.IsWritable) (h : Lists pieces es) :
      Lists (e.toChars :: pieces) (e :: es)
  | passed {pieces es} (piece : List Char) (hpiece : IsNameless piece) (hcolon : ':' ∉ piece)
      (h : Lists pieces es) : Lists (piece :: pieces) es

/-- The list of some pieces. -/
def joined (pieces : List (List Char)) : String := String.ofList ([':'].intercalate pieces)

namespace Lists

variable {pieces : List (List Char)} {es : List OptIn}

/-- The pieces hold no colon. -/
lemma colon_notMem (h : Lists pieces es) : ∀ piece ∈ pieces, ':' ∉ piece := by
  induction h with
  | nil => simp
  | entry e he _ ih => exact List.forall_mem_cons.2 ⟨he.colon_notMem_toChars, ih⟩
  | passed piece _ hcolon _ ih => exact List.forall_mem_cons.2 ⟨hcolon, ih⟩

/-- Reading the pieces one by one finds the entries. -/
lemma filterMap_read (h : Lists pieces es) : pieces.filterMap ofPiece? = es := by
  induction h with
  | nil => rfl
  | entry e he _ ih =>
    have hread : ofPiece? e.toChars = some e :=
      ofPiece?_eq_some_iff_toChars.2 ⟨he.name_ne, he.name_noSlash, rfl⟩
    rw [List.filterMap_cons_some hread, ih]
  | passed piece hpiece _ _ ih => rw [List.filterMap_cons_none (ofPiece?_eq_none_iff.2 hpiece), ih]

/-- Pieces without colons write the entries that are read from them. -/
lemma of_noColon (hcolon : ∀ piece ∈ pieces, ':' ∉ piece) :
    Lists pieces (pieces.filterMap ofPiece?) := by
  induction pieces with
  | nil => exact .nil
  | cons piece pieces ih =>
    obtain ⟨hpiece, hrest⟩ := List.forall_mem_cons.1 hcolon
    cases hread : ofPiece? piece with
    | none =>
      rw [List.filterMap_cons_none hread]
      exact .passed piece (ofPiece?_eq_none_iff.1 hread) hpiece (ih hrest)
    | some e =>
      rw [List.filterMap_cons_some hread]
      obtain ⟨-, -, rfl⟩ := ofPiece?_eq_some_iff_toChars.1 hread
      exact .entry e (isWritable_of_read hpiece hread) (ih hrest)

/-- Entries that a list holds can be written in one. -/
lemma isWritable (h : Lists pieces es) : ∀ e ∈ es, e.IsWritable := by
  induction h with
  | nil => simp
  | entry e he _ ih => exact List.forall_mem_cons.2 ⟨he, ih⟩
  | passed _ _ _ _ ih => exact ih

/-- Entries that can be written are written one behind the other. -/
lemma of_isWritable (h : ∀ e ∈ es, e.IsWritable) : Lists (es.map toChars) es := by
  induction es with
  | nil => exact .nil
  | cons e es ih =>
    obtain ⟨he, hes⟩ := List.forall_mem_cons.1 h
    exact .entry e he (ih hes)

/-- The list of the pieces is read as the entries. -/
lemma parse_joined (h : Lists pieces es) : parse (joined pieces) = es := by
  rw [parse, joined, String.toList_ofList]
  cases hpieces : pieces with
  | nil =>
    -- No pieces make the empty text, which is one empty piece.
    rw [hpieces] at h
    cases h
    rfl
  | cons piece rest =>
    rw [← hpieces, List.splitOn_intercalate ':' h.colon_notMem (by simp [hpieces])]
    exact h.filterMap_read

end Lists

/-- Every list is made of pieces that write the entries it is read as. -/
lemma lists_splitOn (list : String) : Lists (list.toList.splitOn ':') (parse list) :=
  .of_noColon (Text.notMem_of_mem_splitOn ':' list.toList)

/-- A list consists of its pieces. -/
lemma joined_splitOn (list : String) : joined (list.toList.splitOn ':') = list := by
  have htext : [':'].intercalate (list.toList.splitOn ':') = list.toList :=
    List.intercalate_splitOn ':'
  rw [joined, htext, String.ofList_toList]

/-- **Reading** inverts writing.  A list is read as some entries exactly if it is written from
pieces that write them, in their order and with repetitions, whatever else is passed over; every
entry that is read can be written, and the entries written anew are read as themselves. -/
theorem parse_inverts :
    (∀ (list : String) (es : List OptIn),
      parse list = es ↔ ∃ pieces, Lists pieces es ∧ list = joined pieces) ∧
    ∀ list : String, (∀ e ∈ parse list, e.IsWritable) ∧
      parse (joined ((parse list).map toChars)) = parse list := by
  refine ⟨fun list es => ⟨?_, ?_⟩, fun list => ?_⟩
  · rintro rfl
    exact ⟨list.toList.splitOn ':', lists_splitOn list, (joined_splitOn list).symm⟩
  · rintro ⟨pieces, h, rfl⟩
    exact h.parse_joined
  · have hwritable := (lists_splitOn list).isWritable
    exact ⟨hwritable, (Lists.of_isWritable hwritable).parse_joined⟩

/-- Flags may be empty and may hold slashes; pieces without a name are passed over. -/
theorem parse_inverts_mixed :
    parse "EDITOR::GOPATH/a/b:/nameless:EDITOR/" =
        [⟨"EDITOR", none⟩, ⟨"GOPATH", some "a/b"⟩, ⟨"EDITOR", some ""⟩] ∧
      (⟨"GOPATH", some "a/b"⟩ : OptIn).IsWritable := by
  have hread : parse "EDITOR::GOPATH/a/b:/nameless:EDITOR/" =
      [⟨"EDITOR", none⟩, ⟨"GOPATH", some "a/b"⟩, ⟨"EDITOR", some ""⟩] := by decide
  obtain ⟨hwritable, -⟩ := parse_inverts.2 "EDITOR::GOPATH/a/b:/nameless:EDITOR/"
  exact ⟨hread, hwritable ⟨"GOPATH", some "a/b"⟩ (by simp [hread])⟩

end CommandRelay.OptIn
