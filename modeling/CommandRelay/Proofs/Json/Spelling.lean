import CommandRelay.Json.Wanted
import Mathlib.Data.List.Forall2
import Mathlib.Tactic.Common

/-!
# JSON strings in any spelling

The printer has one spelling for each text, but a JSON text may come from elsewhere.  There a
character may stand for itself, be written with a short escape or by number with digits of either
case, and it may take two numbers if it is large; and there may be blanks between the tokens.  All
readers of wanted values read all of this alike.

## Main definitions

* `Json.Blank` — white space; `Json.Padded` — a text with white space around it.
* `Json.WritesUnit` — four hexadecimal digits and their number.
* `Json.SpellsChar`, `Json.Spells` — what may be written for a character and for a text.
* `Json.StringText` — a string that means a text; `Json.PairText` — a key and a value.
* `Json.SkipsBlanks` — a reader passes over the blanks before what it reads.

## Main results

* `Json.stringBody_unit` — the four digits of a numbered escape.
* `Json.stringBody_of_spellsChar` — one character, in any of its spellings.
* `Json.run_stringRest_of_spells` — a whole string.
* `Json.run_readText_of_stringText`, `Json.run_readName_of_stringText`, … — single values.
* `Json.run_nextKey_of_stringText` — the next key of an object.
-/

namespace CommandRelay.Json

open Reader

variable {α β : Type}

/-! ## Places -/

/-- No characters are no input. -/
@[simp] lemma ofChars_nil : Input.ofChars [] = [] := rfl

/-- The first character is the first of the input. -/
@[simp] lemma ofChars_cons (c : Char) (s : List Char) :
    Input.ofChars (c :: s) = some c :: Input.ofChars s := rfl

/-- Texts one after another are inputs one after another. -/
@[simp] lemma ofChars_append (s t : List Char) :
    Input.ofChars (s ++ t) = Input.ofChars s ++ Input.ofChars t := List.map_append

/-- Every character takes one place of the input. -/
@[simp] lemma length_ofChars (s : List Char) : (Input.ofChars s).length = s.length :=
  List.length_map _

/-! ## Steps of reading -/

/-- Skipping one drops the first place of the input, if there is one. -/
@[simp] lemma run_skipOne (s : Input) : (skipOne : JsonReader Unit).run s = .ok ((), s.drop 1) :=
  rfl

/-- Peeking at a character that is no white space takes nothing. -/
lemma run_peek_cons {c : Char} (h : isSpace c = false) (s : Input) :
    peek.run (some c :: s) = .ok (some (some c), some c :: s) := by
  have hd : (some c :: s).dropWhile isSpacePlace = some c :: s := by
    rw [List.dropWhile_cons_of_neg (by simp [isSpacePlace, h])]
  show Except.ok (((some c :: s).dropWhile isSpacePlace).head?, _) = _
  rw [hd]
  rfl

/-! ## Blanks -/

/-- White space between tokens: spaces, tabs and the two ends of lines. -/
def Blank (s : List Char) : Prop := ∀ c ∈ s, c ∈ [' ', '\t', '\n', '\r']

/-- Each character of a text is looked at. -/
instance (s : List Char) : Decidable (Blank s) := List.decidableBAll _ s

/-- A text with white space around it. -/
def Padded (inner : List Char → Prop) (text : List Char) : Prop :=
  ∃ before s after, Blank before ∧ inner s ∧ Blank after ∧ text = before ++ s ++ after

/-- An empty text is blank. -/
@[simp] lemma blank_nil : Blank [] := fun _ h => nomatch h

/-- Four characters are white space. -/
lemma isSpace_iff {c : Char} : isSpace c = true ↔ c ∈ [' ', '\t', '\n', '\r'] := by
  simp [isSpace, or_assoc]

/-- All characters of a blank text are white space. -/
lemma Blank.isSpace {s : List Char} (h : Blank s) {c : Char} (hc : c ∈ s) : isSpace c = true :=
  isSpace_iff.2 (h c hc)

/-- Blanks are dropped where spaces are. -/
lemma Blank.dropWhile {b : List Char} (h : Blank b) (s : Input) :
    (Input.ofChars b ++ s).dropWhile isSpacePlace = s.dropWhile isSpacePlace := by
  induction b with
  | nil => rfl
  | cons c b ih =>
    have hc : isSpacePlace (some c) = true := h.isSpace List.mem_cons_self
    rw [ofChars_cons, List.cons_append, List.dropWhile_cons_of_pos hc]
    exact ih fun d hd => h d (List.mem_cons_of_mem c hd)

/-- A reader passes over the blanks before what it reads. -/
def SkipsBlanks (r : JsonReader α) : Prop :=
  ∀ b s, Blank b → r.run (Input.ofChars b ++ s) = r.run s

namespace SkipsBlanks

/-- Looking at the next character skips white space before it. -/
lemma peek : SkipsBlanks peek := by
  intro b s hb
  show Except.ok ((List.dropWhile _ (_ ++ s)).head?, List.dropWhile _ (_ ++ s)) = _
  rw [hb.dropWhile]
  rfl

/-- The first of several readers decides. -/
lemma bind {r : JsonReader α} (hr : SkipsBlanks r) (f : α → JsonReader β) :
    SkipsBlanks (r >>= f) := by
  intro b s hb
  rw [run_bind, run_bind, hr b s hb]

end SkipsBlanks

/-- Reading a text skips white space before it. -/
lemma skipsBlanks_readText : SkipsBlanks readText := .bind .peek _

/-- Reading a text or nothing skips white space before it. -/
lemma skipsBlanks_readOptionalText : SkipsBlanks readOptionalText := .bind .peek _

/-- Reading a flag skips white space before it. -/
lemma skipsBlanks_readFlag : SkipsBlanks readFlag := .bind .peek _

/-- Reading a colon skips white space before it. -/
lemma skipsBlanks_readColon : SkipsBlanks readColon := .bind .peek _

/-- Reading nothing skips white space before it. -/
lemma skipsBlanks_readNull : SkipsBlanks readNull := .bind .peek _

/-- Reading a name skips white space before it. -/
lemma skipsBlanks_readName (ofName? : List Char → Option α) : SkipsBlanks (readName ofName?) :=
  .bind .peek _

/-- Reading the next key skips white space before it. -/
lemma skipsBlanks_nextKey (first : Bool) : SkipsBlanks (nextKey first) := .bind .peek _

/-! ## Numbered escapes -/

/-- Whether a character is the hexadecimal digit of a number, in either case. -/
def WritesDigit (n : Nat) (h : Char) : Prop := h = Nat.digitChar n ∨ h = (Nat.digitChar n).toUpper

/-- A digit is compared with its two spellings. -/
instance (n : Nat) (h : Char) : Decidable (WritesDigit n h) :=
  inferInstanceAs (Decidable (_ ∨ _))

/-- Four hexadecimal digits that write a number of sixteen bits. -/
def WritesUnit (n : Nat) (digits : List Char) : Prop :=
  n < 0x10000 ∧
    List.Forall₂ WritesDigit [n / 4096, n / 256 % 16, n / 16 % 16, n % 16] digits

/-- Each of the four digits is looked at. -/
instance (n : Nat) (digits : List Char) : Decidable (WritesUnit n digits) :=
  inferInstanceAs (Decidable (_ ∧ _))

/-- A spelling of a digit has its value. -/
lemma WritesDigit.hexValue? {n : Nat} {h : Char} (hn : n < 16) (hh : WritesDigit n h) :
    hexValue? h = some n := by
  have hall : ∀ n < 16, Json.hexValue? (Nat.digitChar n) = some n ∧
      Json.hexValue? (Nat.digitChar n).toUpper = some n := by decide
  rcases hh with rfl | rfl
  · exact (hall n hn).1
  · exact (hall n hn).2

/-- A spelling of a digit is a single byte. -/
lemma WritesDigit.placeBytes {n : Nat} {h : Char} (hn : n < 16) (hh : WritesDigit n h) :
    placeBytes (some h) = 1 := by
  have hall : ∀ n < 16, Json.placeBytes (some (Nat.digitChar n)) = 1 ∧
      Json.placeBytes (some (Nat.digitChar n).toUpper) = 1 := by decide
  rcases hh with rfl | rfl
  · exact (hall n hn).1
  · exact (hall n hn).2

/-- The four digits, each with the number it stands for. -/
lemma WritesUnit.digits {n : Nat} {ds : List Char} (h : WritesUnit n ds) :
    ∃ a b c d, ds = [a, b, c, d] ∧ WritesDigit (n / 4096) a ∧ WritesDigit (n / 256 % 16) b ∧
      WritesDigit (n / 16 % 16) c ∧ WritesDigit (n % 16) d := by
  obtain ⟨a, ds₁, ha, h₁, rfl⟩ := List.forall₂_cons_left_iff.1 h.2
  obtain ⟨b, ds₂, hb, h₂, rfl⟩ := List.forall₂_cons_left_iff.1 h₁
  obtain ⟨c, ds₃, hc, h₃, rfl⟩ := List.forall₂_cons_left_iff.1 h₂
  obtain ⟨d, ds₄, hd, h₄, rfl⟩ := List.forall₂_cons_left_iff.1 h₃
  rw [List.forall₂_nil_left_iff.1 h₄]
  exact ⟨a, b, c, d, rfl, ha, hb, hc, hd⟩

/-- Four digits take four bytes. -/
lemma WritesUnit.hasFourBytes {n : Nat} {ds : List Char} (h : WritesUnit n ds) (s : Input) :
    hasFourBytes (Input.ofChars ds ++ s) = true := by
  have hlt := h.1
  obtain ⟨a, b, c, d, rfl, ha, hb, hc, hd⟩ := h.digits
  have ha := ha.placeBytes (by omega)
  have hb := hb.placeBytes (by omega)
  have hc := hc.placeBytes (by omega)
  have hd := hd.placeBytes (by omega)
  simp [Json.hasFourBytes, ha, hb, hc, hd]

/-- A digit of a numbered escape that is not its last one. -/
lemma stringBody_unit_digit {lead : Option Nat} {digits value d : Nat} {h : Char}
    {acc : List (Option Char)} {s : Input} (hh : hexValue? h = some d) (hd : 1 < digits) :
    stringBody (.unit lead digits value) acc (some h :: s) =
      stringBody (.unit lead (digits - 1) (16 * value + d)) acc s := by
  simp only [stringBody, Option.bind_some, hh, if_pos hd]

/-- **The four digits** of a numbered escape are read as their number. -/
lemma stringBody_unit {n : Nat} {ds : List Char} (h : WritesUnit n ds) (lead : Option Nat)
    (acc : List (Option Char)) (s : Input) :
    stringBody (.unit lead 4 0) acc (Input.ofChars ds ++ s) =
      match finishUnit lead n with
      | .ok (.inl c) => stringBody .plain (some c :: acc) s
      | .ok (.inr hi) => stringBody (.pairBackslash hi) acc s
      | .error e => .error e := by
  have hlt := h.1
  obtain ⟨a, b, c, d, rfl, ha, hb, hc, hd⟩ := h.digits
  have ha := ha.hexValue? (by omega)
  have hb := hb.hexValue? (by omega)
  have hc := hc.hexValue? (by omega)
  have hd := hd.hexValue? (by omega)
  have hvalue :
      16 * (16 * (16 * (16 * 0 + n / 4096) + n / 256 % 16) + n / 16 % 16) + n % 16 = n := by
    omega
  simp only [ofChars_cons, ofChars_nil, List.cons_append, List.nil_append]
  rw [stringBody_unit_digit ha (by omega), stringBody_unit_digit hb (by omega),
    stringBody_unit_digit hc (by omega)]
  cases hresult : finishUnit lead n with
  | error e => simp only [stringBody, Option.bind_some, hd, Nat.lt_irrefl, if_false, hvalue,
      hresult]
  | ok result =>
    cases result <;>
      simp only [stringBody, Option.bind_some, hd, Nat.lt_irrefl, if_false, hvalue, hresult]

/-! ## Spellings -/

/-- The short escapes: what stands after the backslash, and the character that it means. -/
def shortEscapes : List (Char × Char) := [
  ('"', '"'), ('\\', '\\'), ('/', '/'), ('b', '\x08'), ('f', '\x0c'), ('n', '\n'), ('r', '\r'),
  ('t', '\t')]

/-- What may be written for a character in a string. -/
inductive SpellsChar (c : Char) : List Char → Prop
  /-- The character itself, unless it has a meaning there or is a control character. -/
  | plain (hquote : c ≠ '"') (hescape : c ≠ '\\') (hcontrol : 0x20 ≤ c.toNat) : SpellsChar c [c]
  /-- A short escape. -/
  | short {e : Char} (h : (e, c) ∈ shortEscapes) : SpellsChar c ['\\', e]
  /-- Its number, if that has sixteen bits. -/
  | numbered {ds : List Char} (h : WritesUnit c.toNat ds) : SpellsChar c ('\\' :: 'u' :: ds)
  /-- Two numbers, for the upper and the lower bits of a larger one. -/
  | pair {high low : List Char} (hlarge : 0x10000 ≤ c.toNat)
      (hhigh : WritesUnit (0xD800 + (c.toNat - 0x10000) / 0x400) high)
      (hlow : WritesUnit (0xDC00 + (c.toNat - 0x10000) % 0x400) low) :
      SpellsChar c ('\\' :: 'u' :: high ++ '\\' :: 'u' :: low)

/-- What may be written for a text between the quotes of a string. -/
inductive Spells : List Char → List Char → Prop
  | nil : Spells [] []
  | cons {c : Char} {w t ws : List Char} (hc : SpellsChar c w) (ht : Spells t ws) :
      Spells (c :: t) (w ++ ws)

/-- A string that means a text. -/
def StringText (t text : List Char) : Prop := ∃ w, Spells t w ∧ text = '"' :: w ++ ['"']

/-- The number of a character is that of no surrogate. -/
lemma toNat_not_surrogate (c : Char) : c.toNat < 0xD800 ∨ 0xDFFF < c.toNat ∧ c.toNat < 0x110000 :=
  c.valid

/-- A unit outside the surrogates is a character of its own. -/
lemma finishUnit_char {c : Char} (h : c.toNat < 0x10000) :
    finishUnit none c.toNat = .ok (.inl c) := by
  have hvalid := toNat_not_surrogate c
  rw [finishUnit, if_neg (by omega), if_neg (by omega), Char.ofNat_toNat]

/-- A numbered escape begins, with four digits behind it. -/
lemma stringBody_escape_unit {n : Nat} {ds : List Char} (h : WritesUnit n ds)
    (acc : List (Option Char)) (s : Input) :
    stringBody .plain acc (some '\\' :: some 'u' :: (Input.ofChars ds ++ s)) =
      stringBody (.unit none 4 0) acc (Input.ofChars ds ++ s) := by
  simp [stringBody, h.hasFourBytes]

/-- **One character** is read in any of its spellings.

**Proof sketch.** A number of sixteen bits is that of the character itself, which is no surrogate.
Of two numbers the first one is a high surrogate, and with it the second one is put together to the
character. -/
lemma stringBody_of_spellsChar {c : Char} {w : List Char} (h : SpellsChar c w)
    (acc : List (Option Char)) (s : Input) :
    stringBody .plain acc (Input.ofChars w ++ s) = stringBody .plain (some c :: acc) s := by
  cases h with
  | plain hquote hescape hcontrol =>
    have hlow : (some c).any (fun c => decide (c.toNat < 0x20)) = false := by simpa using hcontrol
    simp [stringBody, hquote, hescape, hlow]
  | @short e h =>
    have hall : ∀ p ∈ shortEscapes, p.1 ≠ 'u' ∧ shortEscape? p.1 = some p.2 := by decide
    obtain ⟨hne, hmeans⟩ := hall (e, c) h
    simp [stringBody, hne, hmeans]
  | numbered h =>
    rw [ofChars_cons, ofChars_cons, List.cons_append, List.cons_append, stringBody_escape_unit h,
      stringBody_unit h, finishUnit_char h.1]
  | @pair high low hlarge hhigh hlow =>
    have hvalid := toNat_not_surrogate c
    have hlead : finishUnit none (0xD800 + (c.toNat - 0x10000) / 0x400) =
        .ok (.inr (0xD800 + (c.toNat - 0x10000) / 0x400)) := by
      rw [finishUnit, if_neg (by omega), if_pos (by omega)]
    have hchar : finishUnit (some (0xD800 + (c.toNat - 0x10000) / 0x400))
        (0xDC00 + (c.toNat - 0x10000) % 0x400) = .ok (.inl c) := by
      have hnumber : 0x10000 + (0xD800 + (c.toNat - 0x10000) / 0x400 - 0xD800) * 0x400 +
          (0xDC00 + (c.toNat - 0x10000) % 0x400 - 0xDC00) = c.toNat := by omega
      rw [finishUnit, if_pos (by omega), hnumber, Char.ofNat_toNat]
    have hsecond : stringBody (.pairBackslash (0xD800 + (c.toNat - 0x10000) / 0x400)) acc
          (some '\\' :: some 'u' :: (Input.ofChars low ++ s)) =
        stringBody (.unit (some (0xD800 + (c.toNat - 0x10000) / 0x400)) 4 0) acc
          (Input.ofChars low ++ s) := by
      simp [stringBody, hlow.hasFourBytes]
    simp only [ofChars_append, ofChars_cons, List.cons_append, List.append_assoc]
    rw [stringBody_escape_unit hhigh, stringBody_unit hhigh, hlead]
    dsimp only
    rw [hsecond, stringBody_unit hlow, hchar]

/-- Places that all hold characters are a text. -/
lemma mapM_map_some (t : List Char) : (t.map some).mapM id = some t := by
  induction t with
  | nil => rfl
  | cons c t ih => simp [ih]

/-- **A whole string** in any spelling is read as its text, and what follows the closing quote is
left. -/
lemma stringBody_of_spells {t w : List Char} (h : Spells t w) (acc : List Char) (s : Input) :
    stringBody .plain (acc.map some) (Input.ofChars w ++ some '"' :: s) =
      .ok (acc.reverse ++ t, s) := by
  induction h generalizing acc with
  | nil =>
    have hm : (acc.map some).reverse.mapM id = some acc.reverse := by
      rw [← List.map_reverse, mapM_map_some]
    simp only [ofChars_nil, List.nil_append, stringBody, if_true, hm, List.append_nil]
  | @cons c w t ws hc ht ih =>
    rw [ofChars_append, List.append_assoc, stringBody_of_spellsChar hc, ← List.map_cons, ih]
    simp

/-- What spells a text reads as that text up to its closing quote. -/
lemma run_stringRest_of_spells {t w : List Char} (h : Spells t w) (s : Input) :
    stringRest.run (Input.ofChars w ++ some '"' :: s) = .ok (t, s) :=
  stringBody_of_spells h [] s

/-! ## Single values -/

section Values

variable {t text : List Char}

/-- The places of a string. -/
lemma ofChars_string (w : List Char) (s : Input) :
    Input.ofChars ('"' :: w ++ ['"']) ++ s = some '"' :: (Input.ofChars w ++ some '"' :: s) := by
  simp

/-- A spelling of a text reads as that text. -/
lemma run_readText_of_stringText (h : StringText t text) (s : Input) :
    readText.run (Input.ofChars text ++ s) = .ok (t, s) := by
  obtain ⟨w, hw, rfl⟩ := h
  rw [ofChars_string, readText, run_bind, run_peek_cons (by decide)]
  exact run_stringRest_of_spells hw s

/-- Where nothing may stand as well, a spelling of a text reads as that text. -/
lemma run_readOptionalText_of_stringText (h : StringText t text) (s : Input) :
    readOptionalText.run (Input.ofChars text ++ s) = .ok (some t, s) := by
  have hread := run_readText_of_stringText h s
  obtain ⟨w, hw, rfl⟩ := h
  rw [ofChars_string] at hread ⊢
  rw [readOptionalText, run_bind, run_peek_cons (by decide)]
  show (readText >>= fun t => pure (some t)).run _ = _
  rw [run_bind, hread]
  rfl

/-- Where a text may stand, the word for nothing reads as none. -/
lemma run_readOptionalText_null (s : Input) :
    readOptionalText.run (Input.ofChars "null".toList ++ s) = .ok (none, s) := rfl

/-- The word for nothing is read to its end. -/
lemma run_readNull (s : Input) : readNull.run (Input.ofChars "null".toList ++ s) = .ok ((), s) :=
  rfl

/-- What stands behind blanks is peeked at. -/
lemma run_peek_blank {b : List Char} (hb : Blank b) {c : Char} (hc : isSpace c = false)
    (s : Input) :
    peek.run (Input.ofChars b ++ some c :: s) = .ok (some (some c), some c :: s) := by
  rw [SkipsBlanks.peek b _ hb, run_peek_cons hc]

/-- A colon is read as one. -/
lemma run_readColon (s : Input) : readColon.run (some ':' :: s) = .ok ((), s) := by
  rw [readColon, run_bind, run_peek_cons (by decide)]
  rfl

/-- A colon is read behind blanks. -/
lemma run_readColon_blank {b : List Char} (hb : Blank b) (s : Input) :
    readColon.run (Input.ofChars b ++ some ':' :: s) = .ok ((), s) := by
  rw [skipsBlanks_readColon b _ hb, run_readColon]

variable {ofName? : List Char → Option α} {a : α}

/-- A name is read from a string. -/
lemma run_readName_of_stringText (ha : ofName? t = some a) (h : StringText t text) (s : Input) :
    (readName ofName?).run (Input.ofChars text ++ s) = .ok (a, s) := by
  have hread := run_readText_of_stringText h s
  obtain ⟨w, hw, rfl⟩ := h
  rw [ofChars_string] at hread ⊢
  rw [readName, run_bind, run_peek_cons (by decide)]
  simp only [run_bind, hread, ha, run_pure]

/-! ## Pairs -/

/-- A key and a value with a colon between them, and white space around both. -/
def PairText (key value : List Char → Prop) (text : List Char) : Prop :=
  ∃ k v, Padded key k ∧ Padded value v ∧ text = k ++ ':' :: v

/-- A name is read from an object whose only key it is, with no value. -/
lemma run_readName_of_pairText (ha : ofName? t = some a) {p : List Char}
    (h : PairText (StringText t) (· = "null".toList) p) (s : Input) :
    (readName ofName?).run (Input.ofChars ('\x7b' :: p ++ ['\x7d']) ++ s) = .ok (a, s) := by
  obtain ⟨_, _, ⟨b, k, b', hb, hk, hb', rfl⟩, ⟨c, _, c', hc, rfl, hc', rfl⟩, rfl⟩ := h
  have hkey : ∀ s, readText.run (Input.ofChars b ++ (Input.ofChars k ++ s)) = .ok (t, s) :=
    fun s => by rw [skipsBlanks_readText b _ hb, run_readText_of_stringText hk]
  have hnull : ∀ s, readNull.run (Input.ofChars c ++ (Input.ofChars "null".toList ++ s)) =
      .ok ((), s) :=
    fun s => by rw [skipsBlanks_readNull c _ hc, run_readNull]
  have hplaces : Input.ofChars ('\x7b' :: (b ++ k ++ b' ++ ':' :: (c ++ "null".toList ++ c')) ++
        ['\x7d']) ++ s =
      some '\x7b' :: (Input.ofChars b ++ (Input.ofChars k ++ (Input.ofChars b' ++ some ':' ::
        (Input.ofChars c ++ (Input.ofChars "null".toList ++ (Input.ofChars c' ++
          some '\x7d' :: s)))))) := by
    simp only [ofChars_append, ofChars_cons, ofChars_nil, List.cons_append, List.nil_append,
      List.append_assoc]
  rw [hplaces, readName, run_bind, run_peek_cons (by decide)]
  simp only [run_bind, run_skipOne, List.drop_one, List.tail_cons, hkey, ha, run_pure,
    run_readColon_blank hb', hnull, run_peek_blank hc' (by decide : isSpace '\x7d' = false)]

end Values

/-! ## Keys -/

/-- The next key is read, after a comma if it is not the first one, with white space before
both. -/
lemma run_nextKey_of_stringText (first : Bool) {e b t key : List Char} (he : Blank e)
    (hb : Blank b) (h : StringText t key) (s : Input) :
    (nextKey first).run (Input.ofChars e ++ (Input.ofChars (if first then [] else [',']) ++
        (Input.ofChars b ++ (Input.ofChars key ++ s)))) = .ok (some t, s) := by
  obtain ⟨w, hw, rfl⟩ := h
  have hquote : isSpace '"' = false := by decide
  rw [ofChars_string, skipsBlanks_nextKey first e _ he]
  cases first with
  | true =>
    rw [if_pos rfl, ofChars_nil, List.nil_append, skipsBlanks_nextKey true b _ hb, nextKey,
      run_bind, run_peek_cons hquote]
    simp [run_bind, run_stringRest_of_spells hw]
  | false =>
    rw [if_neg Bool.false_ne_true, ofChars_cons, ofChars_nil, List.cons_append,
      List.nil_append, nextKey, run_bind, run_peek_cons (by decide)]
    simp [run_bind, run_peek_blank hb hquote, run_stringRest_of_spells hw]

end CommandRelay.Json
