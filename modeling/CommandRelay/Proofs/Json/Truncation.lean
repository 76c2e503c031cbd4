import CommandRelay.Proofs.Json.Reading
import Mathlib.Tactic.IntervalCases

/-!
# JSON that is cut short

Every reader of a wanted value notices when the text of the value is cut short: of any beginning of
the text but the whole it says that it ends too early, and never that it is no JSON or of the wrong
kind.  Like the statements on reading, this one composes: a reader that goes on behind another one
notices a cut in either part.

## Main definitions

* `Json.NoticesCut` — a reader notices when a text is cut short.

## Main results

* `Json.NoticesCut.bind`, `Json.NoticesCut.peek` — readers made of others.
* `Json.noticesCut_stringRest` — a cut inside a string, also inside an escape.
* `Json.noticesCut_readText`, `Json.noticesCut_readFlag`, `Json.noticesCut_readName` — single
  values.
-/

namespace CommandRelay.Json

open Reader

variable {α β : Type}

/-- A reader notices when a text is cut short: it says so of every beginning of the text but the
whole. -/
def NoticesCut (r : JsonReader α) (text : List Char) : Prop :=
  ∀ p, p <+: text → p ≠ text → r.run (Input.ofChars p) = .error .truncated

/-- A text of two parts is cut inside the first one or inside the second one. -/
lemma cut_append {p a b : List Char} (h : p <+: a ++ b) (hne : p ≠ a ++ b) :
    (p <+: a ∧ p ≠ a) ∨ ∃ q, p = a ++ q ∧ q <+: b ∧ q ≠ b := by
  by_cases hlong : a <+: p
  · obtain ⟨q, rfl⟩ := hlong
    refine .inr ⟨q, rfl, (List.prefix_append_right_inj a).1 h, ?_⟩
    intro hq
    exact hne (by rw [hq])
  · refine .inl ⟨?_, ?_⟩
    · exact (List.prefix_or_prefix_of_prefix h (List.prefix_append a b)).resolve_right hlong
    · intro hp
      exact hlong (hp ▸ List.prefix_refl p)

/-- A text that begins with a character is cut before it or inside the rest. -/
lemma cut_cons {p b : List Char} {c : Char} (h : p <+: c :: b) (hne : p ≠ c :: b) :
    p = [] ∨ ∃ q, p = c :: q ∧ q <+: b ∧ q ≠ b := by
  rcases List.prefix_cons_iff.1 h with rfl | ⟨q, rfl, hq⟩
  · exact .inl rfl
  · refine .inr ⟨q, rfl, hq, ?_⟩
    intro hqb
    exact hne (by rw [hqb])

/-! ## Readers made of others -/

namespace NoticesCut

/-- The empty text cannot be cut short. -/
lemma nil (r : JsonReader α) : NoticesCut r [] := by
  intro p hp hne
  exact absurd (List.prefix_nil.1 hp) hne

/-- **One reader behind another**: a cut in the first part stops the first one, and a cut in the
second part stops the second one, which starts where the first part ends. -/
lemma bind {r : JsonReader α} {f : α → JsonReader β} {a : α} {s t : List Char}
    (hwhole : ∀ rest, r.run (Input.ofChars s ++ rest) = .ok (a, rest)) (hr : NoticesCut r s)
    (hf : NoticesCut (f a) t) : NoticesCut (r >>= f) (s ++ t) := by
  intro p hp hne
  rcases cut_append hp hne with ⟨hs, hne⟩ | ⟨q, rfl, hq, hne⟩
  · rw [run_bind, hr p hs hne]
  · rw [run_bind, ofChars_append, hwhole]
    exact hf q hq hne

/-- What is made of a value in the end does not matter. -/
lemma map {r : JsonReader α} {a : α} {s : List Char} (g : α → β)
    (hwhole : ∀ rest, r.run (Input.ofChars s ++ rest) = .ok (a, rest)) (hr : NoticesCut r s) :
    NoticesCut (do return g (← r)) s := by
  have h := bind (f := fun a => pure (g a)) hwhole hr (nil _)
  rwa [List.append_nil] at h

/-- **A reader that looks ahead** sees the end of a text that is cut before its first character. -/
lemma peek {f : Option (Option Char) → JsonReader β} {c : Char} {s : List Char}
    (hc : isSpace c = false) (hend : (f none).run [] = .error .truncated)
    (hf : NoticesCut (f (some (some c))) (c :: s)) : NoticesCut (Json.peek >>= f) (c :: s) := by
  intro p hp hne
  rcases cut_cons hp hne with rfl | ⟨q, rfl, -, -⟩
  · rw [run_bind]
    exact hend
  · rw [run_bind, ofChars_cons, run_peek_cons hc]
    exact hf _ hp hne

/-- A reader that looks ahead and takes what it sees. -/
lemma peek_skipOne {f : Option (Option Char) → JsonReader β} {r : JsonReader β} {c : Char}
    {s : List Char} (hc : isSpace c = false) (hend : (f none).run [] = .error .truncated)
    (hf : f (some (some c)) = skipOne >>= fun _ => r) (hr : NoticesCut r s) :
    NoticesCut (Json.peek >>= f) (c :: s) := by
  intro p hp hne
  rcases cut_cons hp hne with rfl | ⟨q, rfl, hq, hne⟩
  · rw [run_bind]
    exact hend
  · rw [run_bind, ofChars_cons, run_peek_cons hc]
    simp only [hf, run_bind, run_skipOne, List.drop_one, List.tail_cons]
    exact hr q hq hne

end NoticesCut

/-! ## Words and strings -/

/-- A word is read to its end. -/
lemma run_word (w : String) (s : Input) :
    (word w).run (Input.ofChars w.toList ++ s) = .ok ((), s) := by
  show takeWord w.toList (Input.ofChars w.toList ++ s) = .ok ((), s)
  induction w.toList with
  | nil => rfl
  | cons c cs ih => simpa [takeWord] using ih

/-- A word that is cut short is noticed. -/
lemma noticesCut_word (w : String) : NoticesCut (word w) w.toList := by
  show ∀ p, p <+: w.toList → p ≠ w.toList → takeWord w.toList (Input.ofChars p) = .error .truncated
  induction w.toList with
  | nil =>
    intro p hp hne
    exact absurd (List.prefix_nil.1 hp) hne
  | cons c cs ih =>
    intro p hp hne
    rcases cut_cons hp hne with rfl | ⟨q, rfl, hq, hne⟩
    · rfl
    · simpa [takeWord] using ih q hq hne

/-- A character is written as it is, behind a backslash, or by its number. -/
lemma escapeChar_cases (c : Char) :
    escapeChar c = [c] ∨ (∃ e, escapeChar c = ['\\', e]) ∨
      c.toNat < 0x20 ∧ escapeChar c =
        ['\\', 'u', '0', '0', hexDigit (c.toNat / 16), hexDigit (c.toNat % 16)] := by
  fun_cases escapeChar c with
  | case8 _ _ _ _ _ _ _ hlow => exact .inr (.inr ⟨hlow, rfl⟩)
  | case9 => exact .inl rfl
  | _ => exact .inr (.inl ⟨_, rfl⟩)

/-- **A cut inside an escape** is noticed.

**Proof sketch.** A short escape can only be cut behind its backslash.  In a numbered one, the `u`
asks for four bytes, and fewer digits than four are left behind it. -/
lemma stringBody_of_cut_escapeChar {c : Char} {p : List Char} (h : p <+: escapeChar c)
    (hne : p ≠ escapeChar c) (acc : List (Option Char)) :
    stringBody .plain acc (Input.ofChars p) = .error .truncated := by
  rcases escapeChar_cases c with hself | ⟨e, hshort⟩ | ⟨hlow, hnumbered⟩
  · rw [hself] at h hne
    rcases cut_cons h hne with rfl | ⟨q, rfl, hq, hne⟩
    · rfl
    · exact absurd (List.prefix_nil.1 hq) hne
  · rw [hshort] at h hne
    rcases cut_cons h hne with rfl | ⟨q, rfl, hq, hne⟩
    · rfl
    · rcases cut_cons hq hne with rfl | ⟨q, rfl, hq, hne⟩
      · rfl
      · exact absurd (List.prefix_nil.1 hq) hne
  · rw [hnumbered] at h hne
    rw [List.prefix_iff_eq_take] at h
    have hlength : p.length < 6 := by
      by_contra hlong
      rw [List.take_of_length_le (by simpa using hlong)] at h
      exact hne h
    -- at most three of the four digits are left, each of one byte
    have hthree : hasFourBytes [some '0', some '0', some (hexDigit (c.toNat / 16))] = false := by
      have h0 : Char.utf8Size '0' = 1 := by decide
      have h1 := utf8Size_hexDigit (c.toNat / 16) (by omega)
      simp [hasFourBytes, placeBytes, h0, h1]
    rw [h]
    generalize p.length = n at hlength
    interval_cases n
    · rfl
    · rfl
    · rfl
    · rfl
    · rfl
    · show (if hasFourBytes [some '0', some '0', some (hexDigit (c.toNat / 16))] then _ else _) = _
      rw [hthree]
      rfl

/-- **A cut inside a string** is noticed.

**Proof sketch.** Induction on the text.  The cut falls inside what is written for its first
character, or behind it, where the reader has read that character. -/
lemma stringBody_of_cut (t : List Char) (acc : List (Option Char)) {p : List Char}
    (h : p <+: t.flatMap escapeChar ++ ['"']) (hne : p ≠ t.flatMap escapeChar ++ ['"']) :
    stringBody .plain acc (Input.ofChars p) = .error .truncated := by
  induction t generalizing acc p with
  | nil =>
    rcases cut_cons h hne with rfl | ⟨q, rfl, hq, hne⟩
    · rfl
    · exact absurd (List.prefix_nil.1 hq) hne
  | cons c t ih =>
    rw [List.flatMap_cons, List.append_assoc] at h hne
    rcases cut_append h hne with ⟨hc, hne⟩ | ⟨q, rfl, hq, hne⟩
    · exact stringBody_of_cut_escapeChar hc hne acc
    · rw [ofChars_append, stringBody_escapeChar]
      exact ih _ hq hne

/-- The rest of a text that is cut short is noticed. -/
lemma noticesCut_stringRest (t : List Char) :
    NoticesCut stringRest (t.flatMap escapeChar ++ ['"']) := by
  intro p hp hne
  exact stringBody_of_cut t [] hp hne

/-! ## Single values -/

/-- A printed text that is cut short is noticed. -/
lemma noticesCut_readText (t : List Char) : NoticesCut readText (printChars t) :=
  .peek_skipOne (by decide) rfl rfl (noticesCut_stringRest t)

/-- A printed flag that is cut short is noticed. -/
lemma noticesCut_readFlag (b : Bool) : NoticesCut readFlag (printBool b) := by
  cases b with
  | true =>
    exact .peek_skipOne (by decide) rfl rfl (.map _ (run_word "rue") (noticesCut_word "rue"))
  | false =>
    exact .peek_skipOne (by decide) rfl rfl (.map _ (run_word "alse") (noticesCut_word "alse"))

/-- A printed string in the place of an optional text. -/
lemma noticesCut_readOptionalText (t : List Char) :
    NoticesCut readOptionalText (printChars t) :=
  .peek (by decide) rfl (.map some (run_readText t) (noticesCut_readText t))

/-- A missing text in the place of an optional one. -/
lemma noticesCut_readOptionalText_null : NoticesCut readOptionalText "null".toList :=
  .peek_skipOne (by decide) rfl rfl (.map _ (run_word "ull") (noticesCut_word "ull"))

/-- A printed name that is cut short is noticed, known or not. -/
lemma noticesCut_readName {ofName? : List Char → Option α} {name : List Char} :
    NoticesCut (readName ofName?) (printChars name) := by
  refine .peek (by decide) rfl ?_
  rw [← List.append_nil (_ :: _)]
  exact .bind (run_readText name) (noticesCut_readText name) (.nil _)

/-! ## Objects -/

/-- The end of an object. -/
lemma noticesCut_nextKey_end (first : Bool) : NoticesCut (nextKey first) ['\x7d'] :=
  .peek_skipOne (by decide) rfl rfl (.nil _)

/-- A cut inside a key, or before it, is noticed. -/
lemma noticesCut_nextKey (first : Bool) (key : List Char) :
    NoticesCut (nextKey first) ((if first then [] else [',']) ++ printChars key) := by
  have hkey : NoticesCut (do return some (← stringRest)) (key.flatMap escapeChar ++ ['"']) :=
    .map some (fun rest => by simpa using run_stringRest key rest) (noticesCut_stringRest key)
  cases first with
  | true => exact .peek_skipOne (by decide) rfl rfl hkey
  | false => exact .peek_skipOne (by decide) rfl rfl (.peek_skipOne (by decide) rfl rfl hkey)

/-- A colon that is missing is noticed. -/
lemma noticesCut_readColon : NoticesCut readColon [':'] :=
  .peek_skipOne (r := pure ()) (by decide) rfl rfl (.nil _)

end CommandRelay.Json
