import CommandRelay.Json.Printer
import CommandRelay.Proofs.Json.Spelling

/-!
# Reading printed JSON

What the printer writes, the readers of wanted values read back, and they leave exactly what
follows it.  Every statement is about a text that goes on after the printed value, so that the
statements compose along arrays and objects.  The printer has one spelling for each text, and it
is one of those that the readers know.

## Main results

* `Json.loopFrom_of_inl`, `Json.loopFrom_of_inr`, `Json.loopFrom_of_error` — rounds of a repetition.
* `Json.spells_escapeChars` — an escaped text is a spelling of the text.
* `Json.run_readText`, `Json.run_readFlag`, `Json.run_readName` — single values.
* `Json.run_readTexts` — an array of texts.
* `Json.escapeChar_printable` — an escaped text holds no control character.
-/

namespace CommandRelay.Json

open Reader

/-! ## Repetition -/

section Loop

variable {σ α : Type} {step : σ → JsonReader (σ ⊕ α)} {st st' : σ} {s rest : Input}

/-- A loop runs from its first state. -/
lemma run_loop (step : σ → JsonReader (σ ⊕ α)) (st : σ) (s : Input) :
    (loop step st).run s = loopFrom step st s := rfl

/-- A round that goes on and takes something is one round of the repetition. -/
lemma loopFrom_of_inl (h : (step st).run s = .ok (.inl st', rest))
    (hlt : rest.length < s.length) : loopFrom step st s = loopFrom step st' rest := by
  rw [loopFrom, h]
  exact dif_pos hlt

/-- A round that gives a result ends the repetition. -/
lemma loopFrom_of_inr {a : α} (h : (step st).run s = .ok (.inr a, rest)) :
    loopFrom step st s = .ok (a, rest) := by
  rw [loopFrom, h]

/-- A round that fails ends the repetition. -/
lemma loopFrom_of_error {e : Fault} (h : (step st).run s = .error e) :
    loopFrom step st s = .error e := by
  rw [loopFrom, h]

end Loop

/-! ## Strings -/

/-- A hexadecimal digit takes one byte. -/
lemma utf8Size_hexDigit : ∀ n < 16, (hexDigit n).utf8Size = 1 := by decide

/-- The printer's digit for a number below sixteen is read as that number. -/
lemma writesDigit_hexDigit : ∀ n < 16, WritesDigit n (hexDigit n) := by decide

/-- A character below U+0020 is written by its number. -/
lemma writesUnit_numbered {n : Nat} (h : n < 0x20) :
    WritesUnit n ['0', '0', hexDigit (n / 16), hexDigit (n % 16)] := by
  have hhigh : n / 4096 = 0 ∧ n / 256 % 16 = 0 ∧ n / 16 % 16 = n / 16 := by omega
  have hzero : WritesDigit 0 '0' := by decide
  refine ⟨by omega, ?_⟩
  rw [hhigh.1, hhigh.2.1, hhigh.2.2]
  exact .cons hzero (.cons hzero (.cons (writesDigit_hexDigit _ (by omega))
    (.cons (writesDigit_hexDigit _ (by omega)) .nil)))

/-- **The printer's spelling** of a character is one of its spellings. -/
lemma spellsChar_escapeChar (c : Char) : SpellsChar c (escapeChar c) := by
  unfold escapeChar
  split_ifs with hq hb hbs hff hlf hcr htab hlow
  · subst hq; exact .short (by decide)
  · subst hb; exact .short (by decide)
  · subst hbs; exact .short (by decide)
  · subst hff; exact .short (by decide)
  · subst hlf; exact .short (by decide)
  · subst hcr; exact .short (by decide)
  · subst htab; exact .short (by decide)
  · exact .numbered (writesUnit_numbered hlow)
  · exact .plain hq hb (Nat.not_lt.1 hlow)

/-- The printer's escapes spell the text that they were made of. -/
lemma spells_escapeChars (t : List Char) : Spells t (t.flatMap escapeChar) := by
  induction t with
  | nil => exact .nil
  | cons c t ih => exact .cons (spellsChar_escapeChar c) ih

/-- A printed string means the text that was printed. -/
lemma stringText_printChars (t : List Char) : StringText t (printChars t) :=
  ⟨_, spells_escapeChars t, rfl⟩

/-- **One character.** What is written for a character is read as that character. -/
lemma stringBody_escapeChar (c : Char) (acc : List (Option Char)) (s : Input) :
    stringBody .plain acc (Input.ofChars (escapeChar c) ++ s) =
      stringBody .plain (some c :: acc) s :=
  stringBody_of_spellsChar (spellsChar_escapeChar c) acc s

/-- A printed string is read back after its opening quote. -/
lemma run_stringRest (t : List Char) (s : Input) :
    stringRest.run (Input.ofChars (t.flatMap escapeChar) ++ some '"' :: s) = .ok (t, s) :=
  run_stringRest_of_spells (spells_escapeChars t) s

/-! ## Single values -/

/-- The places of a printed string. -/
lemma ofChars_printChars (t : List Char) :
    Input.ofChars (printChars t) =
      some '"' :: (Input.ofChars (t.flatMap escapeChar) ++ [some '"']) := by
  simp [printChars]

/-- A text that is printed reads back, whatever follows it. -/
lemma run_readText (t : List Char) (s : Input) :
    readText.run (Input.ofChars (printChars t) ++ s) = .ok (t, s) :=
  run_readText_of_stringText (stringText_printChars t) s

/-- A printed string is read as an optional text that is there. -/
lemma run_readOptionalText (t : List Char) (s : Input) :
    readOptionalText.run (Input.ofChars (printChars t) ++ s) = .ok (some t, s) :=
  run_readOptionalText_of_stringText (stringText_printChars t) s

/-- A flag that is printed reads back, whatever follows it. -/
lemma run_readFlag (b : Bool) (s : Input) :
    readFlag.run (Input.ofChars (printBool b) ++ s) = .ok (b, s) := by
  cases b <;> rfl

/-- A printed name is read as what it names. -/
lemma run_readName {α : Type} {ofName? : List Char → Option α} {name : List Char} {a : α}
    (ha : ofName? name = some a) (s : Input) :
    (readName ofName?).run (Input.ofChars (printChars name) ++ s) = .ok (a, s) :=
  run_readName_of_stringText ha (stringText_printChars name) s

/-! ## Objects -/

/-- The end of an object. -/
lemma run_nextKey_end (first : Bool) (s : Input) :
    (nextKey first).run (some '\x7d' :: s) = .ok (none, s) := by
  rw [nextKey, run_bind, run_peek_cons (by decide)]
  rfl

/-- The next key of an object, after a comma if it is not the first. -/
lemma run_nextKey (first : Bool) (key : List Char) (s : Input) :
    (nextKey first).run (Input.ofChars ((if first then [] else [',']) ++ printChars key) ++ s) =
      .ok (some key, s) := by
  simpa using run_nextKey_of_stringText first blank_nil blank_nil (stringText_printChars key) s

/-! ## Arrays -/

/-- Pieces with a comma before each of them, or before each but the first. -/
def separated (first : Bool) : List (List Char) → List Char
  | [] => []
  | t :: ts => (if first then [] else [',']) ++ t ++ separated false ts

/-- Every item but the first has a comma before it. -/
lemma separated_cons (first : Bool) (t : List Char) (ts : List (List Char)) :
    separated first (t :: ts) = (if first then [] else [',']) ++ t ++ separated false ts := rfl

/-- Commas between pieces are commas before all but the first. -/
lemma intercalate_eq_separated (ts : List (List Char)) :
    [','].intercalate ts = separated true ts := by
  induction ts with
  | nil => rfl
  | cons t ts ih =>
    cases ts with
    | nil => simp [separated]
    | cons u us =>
      rw [List.intercalate_cons_cons, ih]
      simp [separated]

/-- The end of an array is seen and not taken. -/
lemma run_nextElement_end (first : Bool) (s : Input) :
    (nextElement first).run (some ']' :: s) = .ok (false, some ']' :: s) := by
  rw [nextElement, run_bind, run_peek_cons (by decide)]
  rfl

/-- The first element of an array, a string, is seen and not taken. -/
lemma run_nextElement_first (t : List Char) (s : Input) :
    (nextElement true).run (Input.ofChars (printChars t) ++ s) =
      .ok (true, Input.ofChars (printChars t) ++ s) := by
  rw [ofChars_printChars, List.cons_append, nextElement, run_bind, run_peek_cons (by decide)]
  rfl

/-- Before a later element of an array, a string, the comma is taken. -/
lemma run_nextElement_later (t : List Char) (s : Input) :
    (nextElement false).run (some ',' :: (Input.ofChars (printChars t) ++ s)) =
      .ok (true, Input.ofChars (printChars t) ++ s) := by
  rw [ofChars_printChars, List.cons_append, nextElement, run_bind, run_peek_cons (by decide)]
  simp [run_bind, run_peek_cons, isSpace]

/-- A closing bracket ends an array. -/
lemma run_endArray (s : Input) : endArray.run (some ']' :: s) = .ok ((), s) := by
  rw [endArray, run_bind, run_peek_cons (by decide)]
  rfl

/-- A character among separated pieces is a comma or stands in a piece. -/
lemma mem_separated {first : Bool} {ts : List (List Char)} {c : Char}
    (h : c ∈ separated first ts) : c = ',' ∨ ∃ t ∈ ts, c ∈ t := by
  induction ts generalizing first with
  | nil => cases h
  | cons t ts ih =>
    rw [separated_cons, List.mem_append, List.mem_append] at h
    rcases h with (hcomma | ht) | hts
    · cases first with
      | true => cases hcomma
      | false => exact .inl (List.mem_singleton.1 hcomma)
    · exact .inr ⟨t, List.mem_cons_self, ht⟩
    · rcases ih hts with rfl | ⟨u, hu, hc⟩
      · exact .inl rfl
      · exact .inr ⟨u, List.mem_cons_of_mem t hu, hc⟩

/-- Reading goes on behind the texts read so far, up to the closing bracket.

**Proof sketch.** Induction on the texts still to come.  Each round takes a comma, if there is one,
and a printed text, which has two quotes at least, so the input gets shorter. -/
lemma loopFrom_nextText (ts acc : List (List Char)) (first : Bool) (s : Input) :
    loopFrom nextText (first, acc)
        (Input.ofChars (separated first (ts.map printChars)) ++ some ']' :: s) =
      .ok (acc.reverse ++ ts, some ']' :: s) := by
  induction ts generalizing first acc with
  | nil =>
    refine (loopFrom_of_inr ?_).trans (by rw [List.append_nil])
    show (nextText (first, acc)).run (some ']' :: s) = _
    rw [nextText, run_bind, run_nextElement_end]
    rfl
  | cons t ts ih =>
    refine (loopFrom_of_inl ?_ ?_).trans ((ih (t :: acc) false).trans (by simp))
    · rw [List.map_cons, separated_cons, ofChars_append, ofChars_append, List.append_assoc,
        List.append_assoc, nextText, run_bind]
      cases first with
      | true => simp [run_nextElement_first, run_bind, run_readText]
      | false => simp [run_nextElement_later, run_bind, run_readText]
    · simp [separated_cons, printChars]
      omega

/-- **Arrays of texts.** A printed array is read back. -/
lemma run_readTexts (ts : List (List Char)) (s : Input) :
    readTexts.run (Input.ofChars (printList ts) ++ s) = .ok (ts, s) := by
  have hplaces : Input.ofChars (printList ts) ++ s =
      some '[' :: (Input.ofChars (separated true (ts.map printChars)) ++ some ']' :: s) := by
    simp [printList, intercalate_eq_separated]
  rw [hplaces, readTexts, run_bind, run_peek_cons (by decide)]
  simp [run_bind, run_loop, loopFrom_nextText, run_endArray]

/-! ## Whole texts -/

/-- A text that holds one value and nothing else is read as that value. -/
lemma readAll_of_run {α : Type} {r : JsonReader α} {s : Input} {a : α}
    (h : r.run s = .ok (a, [])) : readAll r s = .ok a := by
  rw [readAll, h]
  rfl

/-! ## Characters -/

/-- A hexadecimal digit is no control character. -/
lemma hexDigit_printable : ∀ n < 16, 0x20 ≤ (hexDigit n).toNat := by decide

/-- **No control characters.** What is written for a character holds no character below U+0020. -/
lemma escapeChar_printable {c d : Char} (h : d ∈ escapeChar c) : 0x20 ≤ d.toNat := by
  have hshort : ∀ e : Char, 0x20 ≤ e.toNat → d ∈ ['\\', e] → 0x20 ≤ d.toNat := by
    intro e he hd
    simp only [List.mem_cons, List.not_mem_nil, or_false] at hd
    rcases hd with rfl | rfl
    · decide
    · exact he
  unfold escapeChar at h
  split_ifs at h with hq hb hbs hff hlf hcr htab hlow
  · exact hshort _ (by decide) h
  · exact hshort _ (by decide) h
  · exact hshort _ (by decide) h
  · exact hshort _ (by decide) h
  · exact hshort _ (by decide) h
  · exact hshort _ (by decide) h
  · exact hshort _ (by decide) h
  · -- the numbered form: two fixed characters, two zeros and the two halves of the number
    simp only [List.mem_cons, List.not_mem_nil, or_false] at h
    rcases h with rfl | rfl | rfl | rfl | rfl | rfl
    · decide
    · decide
    · decide
    · decide
    · exact hexDigit_printable _ (by omega)
    · exact hexDigit_printable _ (by omega)
  · rw [List.mem_singleton.1 h]
    omega

/-- A printed string holds no character below U+0020. -/
lemma printChars_printable {t : List Char} {d : Char} (h : d ∈ printChars t) :
    0x20 ≤ d.toNat := by
  rw [printChars, List.cons_append, List.mem_cons, List.mem_append, List.mem_singleton,
    List.mem_flatMap] at h
  rcases h with rfl | ⟨c, -, hd⟩ | rfl
  · decide
  · exact escapeChar_printable hd
  · decide

end CommandRelay.Json
