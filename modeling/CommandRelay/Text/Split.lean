/-!
# Cutting texts at a character

Cutting a text at the first or last place where a character stands, and dropping runs of a
character at an end.  Cutting at every place is `List.splitOn`.

## Main results

* `cutFirst?_eq_some_iff`, `cutLast?_eq_some_iff` — where the cut falls.
* `mem_of_mem_splitOn`, `notMem_of_mem_splitOn` — what a piece of a text is made of.
-/

namespace CommandRelay.Text

/-- The text before and after the first `c`. -/
def cutFirst? (c : Char) : List Char → Option (List Char × List Char)
  | [] => none
  | x :: rest =>
    if x = c then some ([], rest)
    else (cutFirst? c rest).map fun p => (x :: p.1, p.2)

/-- The text before and after the last `c`. -/
def cutLast? (c : Char) : List Char → Option (List Char × List Char)
  | [] => none
  | x :: rest =>
    match cutLast? c rest with
    | some (before, after) => some (x :: before, after)
    | none => if x = c then some ([], rest) else none

/-- **First cut.** The cut is found exactly where `c` stands with no `c` before it. -/
theorem cutFirst?_eq_some_iff {c : Char} {s a b : List Char} :
    cutFirst? c s = some (a, b) ↔ s = a ++ c :: b ∧ c ∉ a := by
  induction s generalizing a b with
  | nil => simp [cutFirst?]
  | cons x rest ih =>
    by_cases hx : x = c
    · subst hx
      cases a <;> simp +contextual [cutFirst?, eq_comm]
    · cases a with
      | nil => simp [cutFirst?, hx]
      | cons y a =>
        simp only [cutFirst?, hx, if_false, Option.map_eq_some_iff, Prod.exists, Prod.mk.injEq,
          List.cons.injEq, List.cons_append, List.mem_cons, not_or]
        constructor
        · rintro ⟨a', b', h, ⟨rfl, rfl⟩, rfl⟩
          exact ⟨⟨rfl, (ih.1 h).1⟩, Ne.symm hx, (ih.1 h).2⟩
        · rintro ⟨⟨rfl, h⟩, _, ha⟩
          exact ⟨a, b, ih.2 ⟨h, ha⟩, ⟨rfl, rfl⟩, rfl⟩

/-- A text is not cut just if the character is not in it. -/
theorem cutFirst?_eq_none_iff {c : Char} {s : List Char} : cutFirst? c s = none ↔ c ∉ s := by
  induction s with
  | nil => simp [cutFirst?]
  | cons x rest ih =>
    by_cases h : x = c
    · simp [cutFirst?, h]
    · simp [cutFirst?, h, ih, Ne.symm h]

/-- The same for a cut at the last one. -/
theorem cutLast?_eq_none_iff {c : Char} {s : List Char} : cutLast? c s = none ↔ c ∉ s := by
  induction s with
  | nil => simp [cutLast?]
  | cons x rest ih =>
    rw [cutLast?]
    cases h : cutLast? c rest with
    | some p =>
      have : c ∈ rest := by
        rw [h] at ih
        simpa using ih
      simp [this]
    | none =>
      rw [h] at ih
      have hm : c ∉ rest := ih.1 rfl
      by_cases hx : x = c
      · subst hx; simp
      · simp [hx, hm, Ne.symm hx]

/-- **Last cut.** The cut is found exactly where `c` stands with no `c` after it.

**Proof sketch.** Induction on the text.  If there is a cut in the rest, that is the last one here
too, and nothing else is, since `c` still comes in the rest.  If there is none, `c` is not in the
rest, so that the only possible cut is at the first character. -/
theorem cutLast?_eq_some_iff {c : Char} {s a b : List Char} :
    cutLast? c s = some (a, b) ↔ s = a ++ c :: b ∧ c ∉ b := by
  induction s generalizing a b with
  | nil => simp [cutLast?]
  | cons x rest ih =>
    rw [cutLast?]
    cases h : cutLast? c rest with
    | some p =>
      obtain ⟨a', b'⟩ := p
      obtain ⟨hrest, hb'⟩ := ih.1 h
      constructor
      · intro he
        simp only [Option.some.injEq, Prod.mk.injEq] at he
        obtain ⟨rfl, rfl⟩ := he
        exact ⟨by simp [hrest], hb'⟩
      · rintro ⟨he, hb⟩
        cases a with
        | nil =>
          simp only [List.nil_append, List.cons.injEq] at he
          exact absurd (he.2 ▸ hrest ▸ (by simp : c ∈ a' ++ c :: b')) hb
        | cons y a =>
          simp only [List.cons_append, List.cons.injEq] at he
          obtain ⟨rfl, he⟩ := he
          have := ih.2 ⟨he, hb⟩
          rw [h] at this
          simp_all
    | none =>
      have hm : c ∉ rest := cutLast?_eq_none_iff.1 h
      by_cases hx : x = c
      · subst hx
        constructor
        · intro he
          simp only [if_true, Option.some.injEq, Prod.mk.injEq] at he
          obtain ⟨rfl, rfl⟩ := he
          exact ⟨rfl, hm⟩
        · rintro ⟨he, hb⟩
          cases a with
          | nil => simp_all
          | cons y a => exact absurd (by simp_all) hm
      · simp only [hx, if_false]
        constructor
        · simp
        · rintro ⟨he, hb⟩
          cases a with
          | nil => simp_all
          | cons y a => exact absurd (by simp_all) hm

/-- A character of a piece is in the joined text. -/
theorem mem_intercalate {pieces : List (List Char)} {piece : List Char} (sep : Char) {c : Char}
    (hpiece : piece ∈ pieces) (hc : c ∈ piece) : c ∈ [sep].intercalate pieces := by
  induction pieces with
  | nil => cases hpiece
  | cons first rest ih =>
    cases rest with
    | nil => simpa [List.mem_singleton.1 hpiece] using hc
    | cons second rest =>
      rw [List.intercalate_cons_cons, List.mem_append, List.mem_append]
      rcases List.mem_cons.1 hpiece with rfl | hpiece
      · exact .inl (.inl hc)
      · exact .inr (ih hpiece)

/-- The characters of a piece are characters of the text. -/
theorem mem_of_mem_splitOn {s piece : List Char} {sep c : Char} (hpiece : piece ∈ s.splitOn sep)
    (hc : c ∈ piece) : c ∈ s := by
  have hs : [sep].intercalate (s.splitOn sep) = s := List.intercalate_splitOn sep
  exact hs ▸ mem_intercalate sep hpiece hc

/-- No piece of a text holds the separator. -/
theorem notMem_of_mem_splitOn (sep : Char) (s : List Char) :
    ∀ piece ∈ s.splitOn sep, sep ∉ piece := by
  induction s with
  | nil => simp
  | cons c s ih =>
    rw [List.splitOn_cons_eq_if_modifyHead]
    obtain ⟨first, rest, hsplit⟩ := List.exists_cons_of_ne_nil (List.splitOn_ne_nil sep s)
    rw [hsplit] at ih ⊢
    by_cases hc : c = sep
    · simpa [hc] using ih
    · simpa [hc, Ne.symm hc] using ih

/-- Drops every `c` at the end. -/
def dropTrailing (c : Char) (s : List Char) : List Char :=
  (s.reverse.dropWhile (· == c)).reverse

/-- Drops every `c` at the start. -/
def dropLeading (c : Char) (s : List Char) : List Char := s.dropWhile (· == c)

/-- The rest of a text after `lead`, if it starts so. -/
def after? (lead s : List Char) : Option (List Char) := lead.isPrefixOf? s

/-- An ASCII letter in lower case; every other character as it is. -/
def asciiLower (s : String) : String := String.ofList (s.toList.map Char.toLower)

/-- Whether two texts differ at most in the case of ASCII letters. -/
def sameIgnoringAsciiCase (a b : String) : Bool := asciiLower a == asciiLower b

end CommandRelay.Text
