import CommandRelay.Proofs.Json.Spelling

/-!
# Passing over any value

A value that nobody wants is passed over, whatever JSON it is: numbers of any size, strings with
surrogates out of place, arrays and objects of any depth.  The machine that does so comes back to
where it was, with the same brackets open, and it takes nothing behind the value.

The grammar is the usual one.  A number has no end of its own, so the machine may still be inside
one when the value ends; it is in one of the states that end with the next character then.

## Main definitions

* `Json.IsNumber`, `Json.IsBody` — numbers and what stands between quotes.
* `Json.IsJson` — values, the elements of an array and the members of an object.
* `Json.Takes` — the machine takes a text from one state to another one.
* `Json.SkipState.Ended` — the states in which a value may have ended.
* `Json.Passes` — a text is passed over, whatever brackets are open.

## Main results

* `Json.passes_of_isJson` — every part of a JSON text is passed over.
* `Json.run_skipValue` — so is a value, and what follows it is left.
-/

namespace CommandRelay.Json

open Reader

/-! ## The grammar -/

/-- Decimal digits, one at least. -/
def IsDigits (s : List Char) : Prop := s ≠ [] ∧ ∀ c ∈ s, c.isDigit

/-- The whole part of a number, without leading zeros. -/
def IsWhole (s : List Char) : Prop := IsDigits s ∧ (s.head? = some '0' → s = ['0'])

/-- The fraction of a number, if there is one. -/
def IsFraction (s : List Char) : Prop := s = [] ∨ ∃ ds, IsDigits ds ∧ s = '.' :: ds

/-- The exponent of a number, if there is one. -/
def IsExponent (s : List Char) : Prop :=
  s = [] ∨ ∃ mark ∈ ['e', 'E'], ∃ sign ∈ [[], ['+'], ['-']], ∃ ds,
    IsDigits ds ∧ s = mark :: (sign ++ ds)

/-- A number of any size. -/
def IsNumber (s : List Char) : Prop :=
  ∃ minus ∈ [[], ['-']], ∃ whole fraction exponent,
    IsWhole whole ∧ IsFraction fraction ∧ IsExponent exponent ∧
      s = minus ++ (whole ++ (fraction ++ exponent))

/-- What may stand between the quotes of a string.  A number need not mean a character there. -/
inductive IsBody : List Char → Prop
  | nil : IsBody []
  | plain {c : Char} {s : List Char} (hquote : c ≠ '"') (hescape : c ≠ '\\')
      (hcontrol : 0x20 ≤ c.toNat) (hs : IsBody s) : IsBody (c :: s)
  | short {p : Char × Char} {s : List Char} (hp : p ∈ shortEscapes) (hs : IsBody s) :
      IsBody ('\\' :: p.1 :: s)
  | numbered {n : Nat} {ds s : List Char} (hds : WritesUnit n ds) (hs : IsBody s) :
      IsBody ('\\' :: 'u' :: (ds ++ s))

/-- The parts of a JSON text. -/
inductive Part where
  | value
  /-- The elements of an array, one at least. -/
  | elements
  /-- The members of an object, one at least. -/
  | members
  deriving DecidableEq, Repr

/-- A text is a value, the elements of an array or the members of an object, with white space
between the tokens. -/
inductive IsJson : Part → List Char → Prop
  | word {w : String} (h : w ∈ ["null", "true", "false"]) : IsJson .value w.toList
  | number {s : List Char} (h : IsNumber s) : IsJson .value s
  | string {s : List Char} (h : IsBody s) : IsJson .value ('"' :: (s ++ ['"']))
  | emptyArray {b : List Char} (hb : Blank b) : IsJson .value ('[' :: (b ++ [']']))
  | array {es : List Char} (h : IsJson .elements es) : IsJson .value ('[' :: (es ++ [']']))
  | emptyObject {b : List Char} (hb : Blank b) : IsJson .value ('\x7b' :: (b ++ ['\x7d']))
  | object {ms : List Char} (h : IsJson .members ms) : IsJson .value ('\x7b' :: (ms ++ ['\x7d']))
  | element {b v b' : List Char} (hb : Blank b) (hv : IsJson .value v) (hb' : Blank b') :
      IsJson .elements (b ++ (v ++ b'))
  | moreElements {es fs : List Char} (hes : IsJson .elements es) (hfs : IsJson .elements fs) :
      IsJson .elements (es ++ ',' :: fs)
  | member {b k b' c v c' : List Char} (hb : Blank b) (hk : IsBody k) (hb' : Blank b')
      (hc : Blank c) (hv : IsJson .value v) (hc' : Blank c') :
      IsJson .members (b ++ '"' :: (k ++ '"' :: (b' ++ ':' :: (c ++ (v ++ c')))))
  | moreMembers {ms ns : List Char} (hms : IsJson .members ms) (hns : IsJson .members ns) :
      IsJson .members (ms ++ ',' :: ns)

/-! ## Runs of the machine -/

section Step

variable {st st' : SkipState} {bs bs' : List Bracket} {c : Char} {rest : Input}

/-- A character that the machine takes. -/
lemma skipFrom_of_go (h : skipStep st bs c rest = .go st' bs') :
    skipFrom st bs (some c :: rest) = skipFrom st' bs' rest := by
  have hstep : skipStep st bs (placeChar (some c)) rest = .go st' bs' := h
  rw [skipFrom, hstep]

/-- A character before which the machine is done. -/
lemma skipFrom_of_done (h : skipStep st bs c rest = .done) :
    skipFrom st bs (some c :: rest) = .ok ((), some c :: rest) := by
  have hstep : skipStep st bs (placeChar (some c)) rest = .done := h
  rw [skipFrom, hstep]

end Step

/-- The machine takes a text from one state to another one, whatever follows. -/
def Takes (a : SkipState × List Bracket) (s : List Char) (z : SkipState × List Bracket) : Prop :=
  ∀ rest, skipFrom a.1 a.2 (Input.ofChars s ++ rest) = skipFrom z.1 z.2 rest

namespace Takes

variable {a y z : SkipState × List Bracket} {st st' : SkipState} {bs bs' : List Bracket}
  {s t : List Char} {c : Char}

/-- No characters leave the state as it is. -/
lemma nil (a : SkipState × List Bracket) : Takes a [] a := fun _ => rfl

/-- One text after another. -/
lemma append (hs : Takes a s y) (ht : Takes y t z) : Takes a (s ++ t) z := by
  intro rest
  rw [ofChars_append, List.append_assoc, hs, ht]

/-- One character, and what follows it. -/
lemma cons (hc : ∀ rest, skipStep a.1 a.2 c rest = .go y.1 y.2) (hs : Takes y s z) :
    Takes a (c :: s) z := by
  intro rest
  rw [ofChars_cons, List.cons_append, skipFrom_of_go (hc _)]
  exact hs rest

/-- A character leads from one state to the next. -/
lemma char (hc : ∀ rest, skipStep a.1 a.2 c rest = .go z.1 z.2) : Takes a [c] z :=
  .cons hc (.nil z)

/-- Characters that all leave the machine where it is. -/
lemma all (hstay : ∀ c ∈ s, ∀ rest, skipStep a.1 a.2 c rest = .go a.1 a.2) : Takes a s a := by
  induction s with
  | nil => exact .nil a
  | cons c s ih =>
    exact .cons (hstay c List.mem_cons_self) (ih fun d hd => hstay d (List.mem_cons_of_mem c hd))

end Takes

/-! ## The end of a value -/

/-- Whether a value may have ended in a state. -/
def SkipState.Ended : SkipState → Prop
  | .after | .word [] | .zero | .whole | .fraction | .exponent => True
  | _ => False

/-- What may stand behind a value. -/
def Closing (c : Char) : Prop := c ∈ [' ', '\t', '\n', '\r', ',', ']', '\x7d']

/-- The character is looked for in a list. -/
instance (c : Char) : Decidable (Closing c) := inferInstanceAs (Decidable (c ∈ _))

/-- White space ends a number. -/
lemma Closing.of_isSpace {c : Char} (h : c ∈ [' ', '\t', '\n', '\r']) : Closing c :=
  List.mem_append_left [',', ']', '\x7d'] h

/-- **At the end of a value** all these states do the same. -/
lemma skipStep_of_ended {st : SkipState} (hst : st.Ended) {c : Char} (hc : Closing c)
    (bs : List Bracket) (rest : Input) : skipStep st bs c rest = afterValue bs c := by
  obtain ⟨hdigit, hpoint, hmark, hmark'⟩ : isDigit c = false ∧ c ≠ '.' ∧ c ≠ 'e' ∧ c ≠ 'E' := by
    simp only [Closing, List.mem_cons, List.not_mem_nil, or_false] at hc
    rcases hc with rfl | rfl | rfl | rfl | rfl | rfl | rfl <;> decide
  match st with
  | .after | .word [] => rfl
  | .zero | .whole | .fraction | .exponent =>
    simp [skipStep, hdigit, hpoint, hmark, hmark']

/-- White space behind a value in a bracket. -/
lemma exists_takes_blank {st : SkipState} (hst : st.Ended) {s : List Char} (hs : Blank s)
    (b : Bracket) (bs : List Bracket) :
    ∃ st', SkipState.Ended st' ∧ Takes (st, b :: bs) s (st', b :: bs) := by
  have hafter : ∀ c, isSpace c = true → afterValue (b :: bs) c = .go .after (b :: bs) :=
    fun c hc => by simp [afterValue, hc]
  cases s with
  | nil => exact ⟨st, hst, .nil _⟩
  | cons c s =>
    have hrest : Takes (.after, b :: bs) s (.after, b :: bs) :=
      .all fun d hd rest => hafter d (hs.isSpace (List.mem_cons_of_mem c hd))
    refine ⟨.after, trivial, .cons (fun rest => ?_) hrest⟩
    rw [skipStep_of_ended hst (.of_isSpace (hs c List.mem_cons_self)),
      hafter c (hs.isSpace List.mem_cons_self)]

/-! ## Strings -/

/-- The digits of a numbered escape. -/
lemma takes_unit {n : Nat} {ds : List Char} (h : WritesUnit n ds) (isKey : Bool)
    (bs : List Bracket) : Takes (.unit isKey 4, bs) ds (.string isKey, bs) := by
  have hlt := h.1
  obtain ⟨a, b, c, d, rfl, ha, hb, hc, hd⟩ := h.digits
  have hdigit : ∀ {k x}, k < 16 → WritesDigit k x → (hexValue? x).isNone = false :=
    fun hk hx => by rw [hx.hexValue? hk]; rfl
  refine .cons (y := (.unit isKey 3, bs)) (fun rest => ?_)
    (.cons (y := (.unit isKey 2, bs)) (fun rest => ?_)
      (.cons (y := (.unit isKey 1, bs)) (fun rest => ?_) (.char fun rest => ?_)))
  · simp [skipStep, hdigit (by omega) ha]
  · simp [skipStep, hdigit (by omega) hb]
  · simp [skipStep, hdigit (by omega) hc]
  · simp [skipStep, hdigit (by omega) hd]

/-- **What stands between quotes** keeps the machine in the string.

**Proof sketch.** Induction on what stands there.  In a numbered escape the machine asks for four
bytes, and four digits follow. -/
lemma takes_body {s : List Char} (h : IsBody s) (isKey : Bool) (bs : List Bracket) :
    Takes (.string isKey, bs) s (.string isKey, bs) := by
  induction h with
  | nil => exact .nil _
  | plain hquote hescape hcontrol _ ih =>
    exact .cons (fun rest => by simp [skipStep, hquote, hescape, Nat.not_lt.2 hcontrol]) ih
  | @short p s hp _ ih =>
    have hall : ∀ p ∈ shortEscapes, p.1 ≠ 'u' ∧ (shortEscape? p.1).isSome := by decide
    obtain ⟨hne, hmeans⟩ := hall p hp
    exact .cons (y := (.escape isKey, bs)) (fun rest => by simp [skipStep])
      (.cons (fun rest => by simp [skipStep, hne, hmeans]) ih)
  | @numbered n ds s hds _ ih =>
    refine .cons (y := (.escape isKey, bs)) (fun rest => by simp [skipStep]) fun rest => ?_
    -- what the machine does at the `u` depends on what follows, so this is no step by itself
    have hstart : skipFrom (.escape isKey) bs (Input.ofChars ('u' :: (ds ++ s)) ++ rest) =
        skipFrom (.unit isKey 4) bs (Input.ofChars (ds ++ s) ++ rest) := by
      have hfour := hds.hasFourBytes (Input.ofChars s ++ rest)
      rw [ofChars_cons, ofChars_append, List.cons_append, List.append_assoc]
      exact skipFrom_of_go (by simp [skipStep, hfour])
    rw [hstart]
    exact (takes_unit hds isKey bs).append ih rest

/-! ## Numbers -/

/-- The digits of the reader are those of the standard library. -/
lemma isDigit_of_isDigit {c : Char} (h : c.isDigit) : isDigit c = true := by
  simpa [isDigit, Char.isDigit, Char.le_def] using h

/-- Digits keep the machine where it is among digits. -/
lemma takes_digits {st : SkipState} (hst : st ∈ [.whole, .fraction, .exponent]) {s : List Char}
    (hs : ∀ c ∈ s, c.isDigit) (bs : List Bracket) : Takes (st, bs) s (st, bs) := by
  refine .all fun c hc rest => ?_
  have hdigit := isDigit_of_isDigit (hs c hc)
  simp only [List.mem_cons, List.not_mem_nil, or_false] at hst
  rcases hst with rfl | rfl | rfl <;> simp [skipStep, hdigit]

/-- Digits after a state that asks for one. -/
lemma takes_isDigits {st st' : SkipState}
    (hst : (st, st') ∈ [(.point, .fraction), (.mark, .exponent), (.sign, .exponent)])
    {s : List Char} (hs : IsDigits s) (bs : List Bracket) : Takes (st, bs) s (st', bs) := by
  obtain ⟨hne, hs⟩ := hs
  obtain ⟨c, ds, rfl⟩ := List.exists_cons_of_ne_nil hne
  have hdigit := isDigit_of_isDigit (hs c List.mem_cons_self)
  have hds : ∀ d ∈ ds, d.isDigit := fun d hd => hs d (List.mem_cons_of_mem c hd)
  have hmark : c ≠ '+' ∧ c ≠ '-' := by
    constructor <;> rintro rfl <;> exact absurd hdigit (by decide)
  simp only [List.mem_cons, List.not_mem_nil, or_false, Prod.mk.injEq] at hst
  rcases hst with ⟨rfl, rfl⟩ | ⟨rfl, rfl⟩ | ⟨rfl, rfl⟩ <;>
    exact .cons (fun rest => by simp [skipStep, hdigit, hmark]) (takes_digits (by simp) hds bs)

/-- Whether a value may start in a state. -/
def SkipState.StartsValue (st : SkipState) : Prop := st = .value ∨ st = .firstElement

/-- Where a value may start, its first character decides. -/
lemma skipStep_of_startsValue {st : SkipState} (hst : st.StartsValue) {c : Char}
    (hspace : isSpace c = false) (hclose : c ≠ ']') (bs : List Bracket) (rest : Input) :
    skipStep st bs c rest = startValue bs c := by
  rcases hst with rfl | rfl <;> simp [skipStep, hspace, hclose]

/-- A digit that is not zero is no other first character of a value. -/
lemma startValue_digit {c : Char} (h : c.isDigit) (hzero : c ≠ '0') (bs : List Bracket) :
    startValue bs c = .go .whole bs := by
  have hdigit : '0' ≤ c ∧ c ≤ '9' := by simpa [isDigit] using isDigit_of_isDigit h
  have hne : ∀ d : Char, ¬ ('0' ≤ d ∧ d ≤ '9') → c ≠ d := fun d hd heq => hd (heq ▸ hdigit)
  have hpos : '1' ≤ c := by
    have hlow : 48 ≤ c.toNat := hdigit.1
    have hval : c.toNat ≠ 48 := fun heq => hzero (Char.toNat_inj.1 heq)
    show 49 ≤ c.toNat
    omega
  rw [startValue, if_neg (hne _ (by decide)), if_neg (hne _ (by decide)),
    if_neg (hne _ (by decide)), if_neg (hne _ (by decide)), if_neg hzero, if_pos ⟨hpos, hdigit.2⟩]

/-- The whole part of a number, after its minus or at once. -/
lemma exists_takes_whole {st : SkipState} (hst : st = .minus ∨ st.StartsValue) {s : List Char}
    (hs : IsWhole s) (bs : List Bracket) :
    ∃ st' ∈ [SkipState.zero, .whole], Takes (st, bs) s (st', bs) := by
  obtain ⟨⟨hne, hdigits⟩, hleading⟩ := hs
  obtain ⟨c, ds, rfl⟩ := List.exists_cons_of_ne_nil hne
  have hc := hdigits c List.mem_cons_self
  have hdigit : '0' ≤ c ∧ c ≤ '9' := by simpa [isDigit] using isDigit_of_isDigit hc
  by_cases hzero : c = '0'
  · -- a leading zero is the whole of it
    subst hzero
    obtain rfl : ds = [] := by simpa using hleading rfl
    refine ⟨.zero, by simp, .char fun rest => ?_⟩
    rcases hst with rfl | rfl | rfl <;> rfl
  · have hds : ∀ d ∈ ds, d.isDigit := fun d hd => hdigits d (List.mem_cons_of_mem c hd)
    refine ⟨.whole, by simp, .cons (fun rest => ?_) (takes_digits (by simp) hds bs)⟩
    rcases hst with rfl | hst
    · simp [skipStep, hzero, isDigit_of_isDigit hc]
    · have hspace : isSpace c = false := by
        rw [← Bool.not_eq_true, isSpace_iff]
        simp only [List.mem_cons, List.not_mem_nil, or_false]
        rintro (rfl | rfl | rfl | rfl) <;> exact absurd hdigit (by decide)
      have hclose : c ≠ ']' := fun heq => by rw [heq] at hdigit; exact absurd hdigit (by decide)
      rw [skipStep_of_startsValue hst hspace hclose, startValue_digit hc hzero]

/-- The fraction of a number is taken, and a digit was the last. -/
lemma exists_takes_fraction {st : SkipState} (hst : st ∈ [SkipState.zero, .whole])
    {s : List Char} (hs : IsFraction s) (bs : List Bracket) :
    ∃ st' ∈ [SkipState.zero, .whole, .fraction], Takes (st, bs) s (st', bs) := by
  rcases hs with rfl | ⟨ds, hds, rfl⟩
  · exact ⟨st, List.mem_append_left [SkipState.fraction] hst, .nil _⟩
  · refine ⟨.fraction, by simp, .cons (y := (.point, bs)) (fun rest => ?_)
      (takes_isDigits (by simp) hds bs)⟩
    simp only [List.mem_cons, List.not_mem_nil, or_false] at hst
    rcases hst with rfl | rfl <;> rfl

/-- The exponent of a number is taken, and a digit was the last. -/
lemma exists_takes_exponent {st : SkipState} (hst : st ∈ [SkipState.zero, .whole, .fraction])
    {s : List Char} (hs : IsExponent s) (bs : List Bracket) :
    ∃ st', SkipState.Ended st' ∧ Takes (st, bs) s (st', bs) := by
  simp only [List.mem_cons, List.not_mem_nil, or_false] at hst
  rcases hs with rfl | ⟨mark, hmark, sign, hsign, ds, hds, rfl⟩
  · refine ⟨st, ?_, .nil _⟩
    rcases hst with rfl | rfl | rfl <;> trivial
  · refine ⟨.exponent, trivial, .cons (y := (.mark, bs)) (fun rest => ?_) ?_⟩
    · simp only [List.mem_cons, List.not_mem_nil, or_false] at hmark
      rcases hmark with rfl | rfl <;> rcases hst with rfl | rfl | rfl <;> rfl
    · simp only [List.mem_cons, List.not_mem_nil, or_false] at hsign
      rcases hsign with rfl | rfl | rfl
      · exact takes_isDigits (by simp) hds bs
      · exact .cons (y := (.sign, bs)) (fun rest => rfl) (takes_isDigits (by simp) hds bs)
      · exact .cons (y := (.sign, bs)) (fun rest => rfl) (takes_isDigits (by simp) hds bs)

/-- **A number** is taken up to a state in which it may have ended. -/
lemma exists_takes_number {st : SkipState} (hst : st.StartsValue) {s : List Char}
    (hs : IsNumber s) (bs : List Bracket) :
    ∃ st', SkipState.Ended st' ∧ Takes (st, bs) s (st', bs) := by
  obtain ⟨minus, hminus, whole, fraction, exponent, hwhole, hfraction, hexponent, rfl⟩ := hs
  have hfirst : ∃ st', (st' = .minus ∨ st'.StartsValue) ∧ Takes (st, bs) minus (st', bs) := by
    simp only [List.mem_cons, List.not_mem_nil, or_false] at hminus
    rcases hminus with rfl | rfl
    · exact ⟨st, .inr hst, .nil _⟩
    · refine ⟨.minus, .inl rfl, .char fun rest => ?_⟩
      rw [skipStep_of_startsValue hst (by decide) (by decide)]
      rfl
  obtain ⟨st₁, hst₁, htakes₁⟩ := hfirst
  obtain ⟨st₂, hst₂, htakes₂⟩ := exists_takes_whole hst₁ hwhole bs
  obtain ⟨st₃, hst₃, htakes₃⟩ := exists_takes_fraction hst₂ hfraction bs
  obtain ⟨st₄, hst₄, htakes₄⟩ := exists_takes_exponent hst₃ hexponent bs
  exact ⟨st₄, hst₄, htakes₁.append (htakes₂.append (htakes₃.append htakes₄))⟩

/-! ## Values -/

namespace Part

/-- Whether a part may start in a state. -/
def StartsIn : Part → SkipState → Prop
  | .value, st | .elements, st => st.StartsValue
  | .members, st => st = .key ∨ st = .firstKey

/-- The brackets that are open in a part. -/
def within : Part → List Bracket → List Bracket
  | .value, bs => bs
  | .elements, bs => .array :: bs
  | .members, bs => .object :: bs

end Part

/-- A text is passed over: whatever brackets are open before it, the machine comes to a state in
which a value may have ended, with the same brackets open. -/
def Passes (part : Part) (s : List Char) : Prop :=
  ∀ st, part.StartsIn st → ∀ bs, ∃ st', SkipState.Ended st' ∧
    Takes (st, part.within bs) s (st', part.within bs)

/-- White space before a part. -/
lemma takes_blank {part : Part} {st : SkipState} (hst : part.StartsIn st) {b : List Char}
    (hb : Blank b) (bs : List Bracket) : Takes (st, bs) b (st, bs) := by
  refine .all fun c hc rest => ?_
  have hspace := hb.isSpace hc
  cases part with
  | value => rcases hst with rfl | rfl <;> simp [skipStep, hspace]
  | elements => rcases hst with rfl | rfl <;> simp [skipStep, hspace]
  | members => rcases hst with rfl | rfl <;> simp [skipStep, hspace]

/-- The quote that begins a key. -/
lemma skipStep_key {st : SkipState} (hst : Part.members.StartsIn st) (bs : List Bracket)
    (rest : Input) : skipStep st bs '"' rest = .go (.string true) bs := by
  rcases hst with rfl | rfl <;> rfl

/-- A fixed word. -/
lemma passes_word {w : String} (h : w ∈ ["null", "true", "false"]) :
    Passes .value w.toList := by
  intro st hst bs
  refine ⟨.word [], trivial, fun rest => ?_⟩
  simp only [List.mem_cons, List.not_mem_nil, or_false] at h
  rcases h with rfl | rfl | rfl <;> rcases hst with rfl | rfl <;> rfl

/-- A text in quotes is passed over. -/
lemma passes_string {s : List Char} (h : IsBody s) : Passes .value ('"' :: (s ++ ['"'])) := by
  intro st hst bs
  refine ⟨.after, trivial, .cons (y := (.string false, bs)) (fun rest => ?_) ?_⟩
  · rw [skipStep_of_startsValue hst (by decide) (by decide)]
    rfl
  · exact (takes_body h false bs).append (.char fun rest => rfl)

/-- An opening bracket and what is taken up to the closing one. -/
lemma passes_enclosed {first : SkipState} {b : Bracket} {o c : Char} {s : List Char}
    (hspace : isSpace o = false) (hne : o ≠ ']')
    (hopen : ∀ bs, startValue bs o = .go first (b :: bs))
    (hinside : ∀ bs, Takes (first, b :: bs) (s ++ [c]) (.after, bs)) :
    Passes .value (o :: (s ++ [c])) := by
  intro st hst bs
  refine ⟨.after, trivial, .cons (y := (first, b :: bs)) (fun rest => ?_) (hinside bs)⟩
  rw [skipStep_of_startsValue hst hspace hne]
  exact hopen bs

/-- An array without elements is passed over. -/
lemma passes_emptyArray {b : List Char} (hb : Blank b) : Passes .value ('[' :: (b ++ [']'])) := by
  refine passes_enclosed (by decide) (by decide) (fun _ => rfl) fun bs => ?_
  have hstart : Part.elements.StartsIn .firstElement := .inr rfl
  exact (takes_blank hstart hb _).append (.char fun _ => rfl)

/-- An array is passed over if its elements are. -/
lemma Passes.array {es : List Char} (h : Passes .elements es) :
    Passes .value ('[' :: (es ++ [']'])) := by
  refine passes_enclosed (by decide) (by decide) (fun _ => rfl) fun bs => ?_
  obtain ⟨st, hended, htakes⟩ := h .firstElement (.inr rfl) bs
  exact htakes.append (.char fun rest => skipStep_of_ended hended (by decide) _ rest)

/-- An object without members is passed over. -/
lemma passes_emptyObject {b : List Char} (hb : Blank b) :
    Passes .value ('\x7b' :: (b ++ ['\x7d'])) := by
  refine passes_enclosed (by decide) (by decide) (fun _ => rfl) fun bs => ?_
  have hstart : Part.members.StartsIn .firstKey := .inr rfl
  exact (takes_blank hstart hb _).append (.char fun _ => rfl)

/-- An object is passed over if its members are. -/
lemma Passes.object {ms : List Char} (h : Passes .members ms) :
    Passes .value ('\x7b' :: (ms ++ ['\x7d'])) := by
  refine passes_enclosed (by decide) (by decide) (fun _ => rfl) fun bs => ?_
  obtain ⟨st, hended, htakes⟩ := h .firstKey (.inr rfl) bs
  exact htakes.append (.char fun rest => skipStep_of_ended hended (by decide) _ rest)

/-- An element with white space around it. -/
lemma Passes.element {b v b' : List Char} (hb : Blank b) (hv : Passes .value v)
    (hb' : Blank b') : Passes .elements (b ++ (v ++ b')) := by
  intro st hst bs
  obtain ⟨st₁, hended₁, htakes⟩ := hv st hst (.array :: bs)
  obtain ⟨st₂, hended₂, hblank⟩ := exists_takes_blank hended₁ hb' .array bs
  exact ⟨st₂, hended₂, (takes_blank hst hb _).append (htakes.append hblank)⟩

/-- Elements behind a comma. -/
lemma Passes.moreElements {es fs : List Char} (hes : Passes .elements es)
    (hfs : Passes .elements fs) : Passes .elements (es ++ ',' :: fs) := by
  intro st hst bs
  obtain ⟨st₁, hended₁, htakes₁⟩ := hes st hst bs
  obtain ⟨st₂, hended₂, htakes₂⟩ := hfs .value (.inl rfl) bs
  refine ⟨st₂, hended₂, htakes₁.append (.cons (y := (.value, .array :: bs)) (fun rest => ?_)
    htakes₂)⟩
  exact skipStep_of_ended hended₁ (by decide) _ rest

/-- A member with white space around its key and its value. -/
lemma Passes.member {b k b' c v c' : List Char} (hb : Blank b) (hk : IsBody k) (hb' : Blank b')
    (hc : Blank c) (hv : Passes .value v) (hc' : Blank c') :
    Passes .members (b ++ '"' :: (k ++ '"' :: (b' ++ ':' :: (c ++ (v ++ c'))))) := by
  intro st hst bs
  have hstart : Part.value.StartsIn .value := .inl rfl
  obtain ⟨st₁, hended₁, htakes⟩ := hv .value hstart (.object :: bs)
  obtain ⟨st₂, hended₂, hblank⟩ := exists_takes_blank hended₁ hc' .object bs
  have hcolon : Takes (.colon, .object :: bs) b' (.colon, .object :: bs) :=
    .all fun d hd rest => by simp [skipStep, hb'.isSpace hd]
  have hvalue : Takes (.value, .object :: bs) (c ++ (v ++ c')) (st₂, .object :: bs) :=
    (takes_blank hstart hc _).append (htakes.append hblank)
  exact ⟨st₂, hended₂, (takes_blank hst hb _).append (.cons (skipStep_key hst _)
    ((takes_body hk true _).append (.cons (fun rest => rfl)
      (hcolon.append (.cons (fun rest => rfl) hvalue)))))⟩

/-- Members behind a comma. -/
lemma Passes.moreMembers {ms ns : List Char} (hms : Passes .members ms)
    (hns : Passes .members ns) : Passes .members (ms ++ ',' :: ns) := by
  intro st hst bs
  obtain ⟨st₁, hended₁, htakes₁⟩ := hms st hst bs
  obtain ⟨st₂, hended₂, htakes₂⟩ := hns .key (.inl rfl) bs
  refine ⟨st₂, hended₂, htakes₁.append (.cons (y := (.key, .object :: bs)) (fun rest => ?_)
    htakes₂)⟩
  exact skipStep_of_ended hended₁ (by decide) _ rest

/-- **Every part of a JSON text** is passed over.

**Proof sketch.** Induction on the grammar.  A value is passed over with any brackets open, so also
with those of the arrays and objects around it, and the bracket that closes one of them finds it
on top. -/
lemma passes_of_isJson {part : Part} {s : List Char} (h : IsJson part s) : Passes part s := by
  induction h with
  | word h => exact passes_word h
  | number h => exact fun st hst bs => exists_takes_number hst h bs
  | string h => exact passes_string h
  | emptyArray hb => exact passes_emptyArray hb
  | array _ ih => exact ih.array
  | emptyObject hb => exact passes_emptyObject hb
  | object _ ih => exact ih.object
  | element hb _ hb' ih => exact .element hb ih hb'
  | moreElements _ _ ihes ihfs => exact ihes.moreElements ihfs
  | member hb hk hb' hc _ hc' ih => exact .member hb hk hb' hc ih hc'
  | moreMembers _ _ ihms ihns => exact ihms.moreMembers ihns

/-- **A value** behind white space is passed over, and what follows it is left. -/
lemma run_skipValue {b v : List Char} (hb : Blank b) (hv : IsJson .value v) {c : Char}
    (hc : Closing c) (s : Input) :
    skipValue.run (Input.ofChars (b ++ v) ++ some c :: s) = .ok ((), some c :: s) := by
  have hstart : Part.value.StartsIn .value := .inl rfl
  obtain ⟨st, hended, htakes⟩ := passes_of_isJson hv .value hstart []
  show skipFrom .value [] _ = _
  rw [((takes_blank hstart hb []).append htakes) (some c :: s)]
  exact skipFrom_of_done (skipStep_of_ended hended hc [] s)

end CommandRelay.Json
