import CommandRelay.Proofs.Json.Reading
import CommandRelay.Proofs.Json.Values
import CommandRelay.Session.Metadata
import Mathlib.Data.List.ReduceOption

/-!
# Metadata from elsewhere

The text of a record need not be one that this writer wrote.  Its members may come in any order and
some of them may be missing, there may be white space around every token, keys and texts may be
spelt in any way, and there may be members that only a later writer knows, with any values.  All
this is read as the record that was meant.  What may not be is that a field comes twice.

## Main definitions

* `Metadata.IsValueText` — what may be written for the value of a field.
* `Metadata.MemberText` — a member of a field, or one that is not known.
* `Metadata.OpensObject` — an object up to its closing brace.
* `Metadata.copyField`, `Metadata.overlay` — a record with one field, or some, taken from another
  one.

## Main results

* `Metadata.run_readMember_of_memberText` — one member, known or not.
* `Metadata.loopFrom_memberTexts` — members in any order.
* `Metadata.decode_of_opensObject`, `Metadata.decode_of_repeated` — an object that ends, and one in
  which a key comes again.
* `Metadata.decode_object` — an object is read as what it means, and a repeated key is refused.
-/

namespace CommandRelay.Metadata

open Json Reader

/-! ## Texts of records -/

/-- What may be written for the value of a field.  A mode is a string, or the only key of an object
with no value; a missing name is `null`. -/
def IsValueText (m : Metadata) : Field → List Char → Prop
  | .pwd => StringText m.pwd.toList
  | .mode => fun text => StringText m.mode.name.toList text ∨
      ∃ p, PairText (StringText m.mode.name.toList) (· = "null".toList) p ∧
        text = '\x7b' :: p ++ ['\x7d']
  | .argv0 => fun text =>
      (m.argv0 = none ∧ text = "null".toList) ∨ ∃ a, m.argv0 = some a ∧ StringText a.toList text
  | .ptyStdin => (· = printBool m.terminals.stdin)
  | .ptyStdout => (· = printBool m.terminals.stdout)
  | .ptyStderr => (· = printBool m.terminals.stderr)
  | .fallback => (· = printBool m.fallback)

/-- What may be written for a member: that of a field, or one whose key is that of no field, with
any value. -/
def MemberText (m : Metadata) : Option Field → List Char → Prop
  | some f => PairText (StringText f.name.toList) (m.IsValueText f)
  | none => fun text => ∃ key, (∀ f : Field, f.name.toList ≠ key) ∧
      PairText (StringText key) (IsJson .value) text

/-- An object with some members, up to its closing brace. -/
def OpensObject (m : Metadata) (ms : List (Option Field)) (text : List Char) : Prop :=
  ∃ before after texts, Blank before ∧ Blank after ∧ List.Forall₂ m.MemberText ms texts ∧
    text = before ++ '\x7b' :: (after ++ [','].intercalate texts)

/-- The record `r` with the field `f` taken from `m`. -/
def copyField (m r : Metadata) : Field → Metadata
  | .pwd => { r with pwd := m.pwd }
  | .mode => { r with mode := m.mode }
  | .argv0 => { r with argv0 := m.argv0 }
  | .ptyStdin => { r with terminals.stdin := m.terminals.stdin }
  | .ptyStdout => { r with terminals.stdout := m.terminals.stdout }
  | .ptyStderr => { r with terminals.stderr := m.terminals.stderr }
  | .fallback => { r with fallback := m.fallback }

/-- The record `r` with some fields taken from `m`. -/
def overlay (m r : Metadata) (fs : List Field) : Metadata where
  pwd := if .pwd ∈ fs then m.pwd else r.pwd
  mode := if .mode ∈ fs then m.mode else r.mode
  argv0 := if .argv0 ∈ fs then m.argv0 else r.argv0
  terminals :=
    { stdin := if .ptyStdin ∈ fs then m.terminals.stdin else r.terminals.stdin
      stdout := if .ptyStdout ∈ fs then m.terminals.stdout else r.terminals.stdout
      stderr := if .ptyStderr ∈ fs then m.terminals.stderr else r.terminals.stderr }
  fallback := if .fallback ∈ fs then m.fallback else r.fallback

/-- Fields that are taken one after another, in any order. -/
lemma foldl_copyField (m r : Metadata) (fs : List Field) :
    fs.foldl m.copyField r = m.overlay r fs := by
  induction fs generalizing r with
  | nil => rfl
  | cons f fs ih =>
    rw [List.foldl_cons, ih]
    cases f <;> simp [overlay, copyField]

/-- A key is the key of its field. -/
lemma ofName?_name (f : Field) : Field.ofName? f.name.toList = some f := by
  cases f <;> decide

/-- The name of a mode stands for that mode. -/
lemma ofName?_mode_name (mode : LaunchMode) :
    LaunchMode.ofName? mode.name.toList = some mode := by
  cases mode <;> decide

/-! ## Reading one member -/

/-- Reading a field skips white space before it. -/
lemma skipsBlanks_readField (r : Metadata) (f : Field) : SkipsBlanks (readField r f) := by
  cases f with
  | pwd => exact skipsBlanks_readText.bind _
  | mode => exact (skipsBlanks_readName _).bind _
  | argv0 => exact skipsBlanks_readOptionalText.bind _
  | ptyStdin => exact skipsBlanks_readFlag.bind _
  | ptyStdout => exact skipsBlanks_readFlag.bind _
  | ptyStderr => exact skipsBlanks_readFlag.bind _
  | fallback => exact skipsBlanks_readFlag.bind _

/-- **One value** is read into its field, however it is written. -/
lemma run_readField_of_isValueText {m : Metadata} {f : Field} {text : List Char}
    (h : m.IsValueText f text) (r : Metadata) (s : Input) :
    (readField r f).run (Input.ofChars text ++ s) = .ok (m.copyField r f, s) := by
  cases f with
  | pwd => simp [readField, copyField, run_bind, run_readText_of_stringText h]
  | mode =>
    have hname := ofName?_mode_name m.mode
    rcases h with h | ⟨p, hp, rfl⟩
    · simp [readField, copyField, run_bind, run_readName_of_stringText hname h]
    · simp only [readField, copyField, run_bind, run_readName_of_pairText hname hp, run_pure]
  | argv0 =>
    rcases h with ⟨hnone, rfl⟩ | ⟨a, ha, h⟩
    · simp only [readField, copyField, run_bind, run_readOptionalText_null, run_pure, hnone,
        Option.map_none]
    · simp [readField, copyField, run_bind, run_readOptionalText_of_stringText h, ha]
  | ptyStdin => rw [h]; simp [readField, copyField, run_bind, run_readFlag]
  | ptyStdout => rw [h]; simp [readField, copyField, run_bind, run_readFlag]
  | ptyStderr => rw [h]; simp [readField, copyField, run_bind, run_readFlag]
  | fallback => rw [h]; simp [readField, copyField, run_bind, run_readFlag]

/-- What was read after one more member. -/
def Progress.after (m : Metadata) (p : Progress) : Option Field → Progress
  | some f => ⟨false, f :: p.seen, m.copyField p.record f⟩
  | none => { p with first := false }

/-- Whether a character stands behind a member: a comma or the closing brace. -/
def EndsMember (c : Char) : Prop := c = ',' ∨ c = '\x7d'

/-- White space behind a value and what ends the member begin with something that may stand behind
a value. -/
lemma exists_closing {b : List Char} (hb : Blank b) {c : Char} (hc : EndsMember c) (s : Input) :
    ∃ d s', Closing d ∧ Input.ofChars b ++ some c :: s = some d :: s' := by
  cases b with
  | nil => exact ⟨c, s, by rcases hc with rfl | rfl <;> decide, rfl⟩
  | cons d b => exact ⟨d, _, .of_isSpace (hb d List.mem_cons_self), rfl⟩

/-- **One member**, known or not, is read as it was meant.  The white space behind its value may be
left.

**Proof sketch.** A member is its key, a colon and its value, with white space around each.  The key
reads as its name, and then the value of a known field is read as that field, and the value of an
unknown one is skipped.  What is skipped ends before the white space behind it, as a number must not
go on. -/
lemma run_readMember_of_memberText {m : Metadata} {p : Progress} {x : Option Field}
    {text : List Char} (h : m.MemberText x text) (hfresh : ∀ f, x = some f → f ∉ p.seen)
    {e : List Char} (he : Blank e) {c : Char} (hc : EndsMember c) (s : Input) :
    ∃ e', Blank e' ∧ e'.length < text.length ∧
      (readMember p).run (Input.ofChars e ++ (Input.ofChars (if p.first then [] else [',']) ++
        (Input.ofChars text ++ some c :: s))) =
          .ok (.inl (p.after m x), Input.ofChars e' ++ some c :: s) := by
  cases x with
  | some f =>
    obtain ⟨_, _, ⟨b, key, b', hb, hkey, hb', rfl⟩, ⟨v, value, e', hv, hvalue, he', rfl⟩, rfl⟩ := h
    refine ⟨e', he', by simp; omega, ?_⟩
    simp only [ofChars_append, ofChars_cons, List.append_assoc, List.cons_append]
    rw [readMember, run_bind, run_nextKey_of_stringText p.first he hb hkey]
    simp only [ofName?_name, if_neg (hfresh f rfl), run_bind, run_readColon_blank hb',
      skipsBlanks_readField p.record f v _ hv, run_readField_of_isValueText hvalue, run_pure]
    rfl
  | none =>
    obtain ⟨name, hname, _, _, ⟨b, key, b', hb, hkey, hb', rfl⟩,
      ⟨v, value, e', hv, hvalue, he', rfl⟩, rfl⟩ := h
    have hunknown : Field.ofName? name = none :=
      List.find?_eq_none.2 fun f _ => by simpa using hname f
    obtain ⟨d, s', hd, hbehind⟩ := exists_closing he' hc s
    refine ⟨e', he', by simp; omega, ?_⟩
    -- a number ends only where something stands that may not go on with it
    have hskip : skipValue.run (Input.ofChars v ++ (Input.ofChars value ++
        (Input.ofChars e' ++ some c :: s))) = .ok ((), Input.ofChars e' ++ some c :: s) := by
      rw [hbehind, ← List.append_assoc, ← ofChars_append, run_skipValue hv hvalue hd]
    simp only [ofChars_append, ofChars_cons, List.append_assoc, List.cons_append]
    rw [readMember, run_bind, run_nextKey_of_stringText p.first he hb hkey]
    simp only [hunknown, run_bind, run_readColon_blank hb', hskip, run_pure]
    rfl

/-- **A key that came before** is refused, whatever follows it. -/
lemma run_readMember_of_mem_seen {p : Progress} {f : Field} (hf : f ∈ p.seen) {e b key : List Char}
    (he : Blank e) (hb : Blank b) (h : StringText f.name.toList key) (s : Input) :
    (readMember p).run (Input.ofChars e ++ (Input.ofChars (if p.first then [] else [',']) ++
      (Input.ofChars b ++ (Input.ofChars key ++ s)))) = .error .mismatch := by
  rw [readMember, run_bind, run_nextKey_of_stringText p.first he hb h]
  simp only [ofName?_name, if_pos hf]
  rfl

/-! ## Reading all members -/

section After

variable (m : Metadata) (ms : List (Option Field)) (p : Progress)

/-- The record that was read has each known field of the members from its source. -/
lemma record_foldl_after : (ms.foldl (Progress.after m) p).record =
    ms.reduceOption.foldl m.copyField p.record := by
  induction ms generalizing p with
  | nil => rfl
  | cons x ms ih =>
    rw [List.foldl_cons, ih]
    cases x <;> rfl

/-- The fields that were seen are the known ones among the members. -/
lemma mem_seen_foldl_after {f : Field} : f ∈ (ms.foldl (Progress.after m) p).seen ↔
    f ∈ ms.reduceOption ∨ f ∈ p.seen := by
  induction ms generalizing p with
  | nil => simp
  | cons x ms ih =>
    rw [List.foldl_cons, ih]
    cases x with
    | none => simp [Progress.after]
    | some g => simp [Progress.after]; tauto

/-- A field that was seen is behind the start of the object. -/
lemma first_foldl_after (h : ms ≠ []) : (ms.foldl (Progress.after m) p).first = false := by
  induction ms generalizing p with
  | nil => exact absurd rfl h
  | cons x ms ih =>
    rw [List.foldl_cons]
    cases ms with
    | nil => cases x <;> rfl
    | cons y ms => exact ih _ (List.cons_ne_nil y ms)

end After

/-- What follows a member: the comma of the next one, or what ends the last one. -/
lemma exists_endsMember (texts : List (List Char)) {c : Char} (hc : EndsMember c) (s : Input) :
    ∃ d s', EndsMember d ∧ Input.ofChars (separated false texts) ++ some c :: s = some d :: s' := by
  cases texts with
  | nil => exact ⟨c, s, hc, rfl⟩
  | cons t ts => exact ⟨',', _, .inl rfl, rfl⟩

/-- **Members in any order** are read one after another, if no field comes twice.

**Proof sketch.** Induction on the members.  What is left of one of them is white space, which the
reader of the next key passes over, and it is shorter than the member was. -/
lemma loopFrom_memberTexts {m : Metadata} {ms : List (Option Field)} {texts : List (List Char)}
    (h : List.Forall₂ m.MemberText ms texts) {p : Progress} (hnodup : ms.reduceOption.Nodup)
    (hfresh : ∀ f ∈ ms.reduceOption, f ∉ p.seen) {e : List Char} (he : Blank e) {c : Char}
    (hc : EndsMember c) (s : Input) :
    ∃ e', Blank e' ∧
      loopFrom readMember p
          (Input.ofChars e ++ (Input.ofChars (separated p.first texts) ++ some c :: s)) =
        loopFrom readMember (ms.foldl (Progress.after m) p) (Input.ofChars e' ++ some c :: s) := by
  induction h generalizing p e with
  | nil => exact ⟨e, he, rfl⟩
  | @cons x text ms texts hx hms ih =>
    have hxfresh : ∀ f, x = some f → f ∉ p.seen := by
      rintro f rfl
      exact hfresh f (by simp)
    -- the first of them ends at the comma of the next one, or where all of them end
    obtain ⟨d, s', hd, hbehind⟩ := exists_endsMember texts hc s
    obtain ⟨e₁, he₁, hlength, hround⟩ := run_readMember_of_memberText hx hxfresh he hd s'
    have hfirst : (p.after m x).first = false := by cases x <;> rfl
    have hrest : ms.reduceOption.Nodup ∧ ∀ f ∈ ms.reduceOption, f ∉ (p.after m x).seen := by
      cases x with
      | none => exact ⟨hnodup, hfresh⟩
      | some f =>
        obtain ⟨hf, hnodup⟩ := List.nodup_cons.1 hnodup
        refine ⟨hnodup, fun g hg hmem => ?_⟩
        rcases List.mem_cons.1 hmem with rfl | hmem
        · exact hf hg
        · exact hfresh g (List.mem_cons_of_mem f hg) hmem
    obtain ⟨e', he', hloop⟩ := ih hrest.1 hrest.2 he₁
    refine ⟨e', he', ?_⟩
    rw [separated_cons, ofChars_append, ofChars_append, List.append_assoc, List.append_assoc,
      hbehind, List.foldl_cons, ← hloop, hfirst, hbehind]
    refine loopFrom_of_inl hround ?_
    simp
    omega

/-! ## Whole texts -/

/-- The reader of an object comes to the end of its members, where white space may be left. -/
lemma run_reader_of_opensObject {m : Metadata} {ms : List (Option Field)} {start : List Char}
    (h : m.OpensObject ms start) (hnodup : ms.reduceOption.Nodup) {c : Char} (hc : EndsMember c)
    (s : Input) :
    ∃ e, Blank e ∧ reader.run (Input.ofChars start ++ some c :: s) =
      loopFrom readMember (ms.foldl (Progress.after m) {}) (Input.ofChars e ++ some c :: s) := by
  obtain ⟨before, after, texts, hbefore, hafter, htexts, rfl⟩ := h
  obtain ⟨e, he, hloop⟩ := loopFrom_memberTexts htexts (p := {}) hnodup (by simp) hafter hc s
  refine ⟨e, he, ?_⟩
  rw [← hloop, intercalate_eq_separated]
  simp only [ofChars_append, ofChars_cons, List.append_assoc, List.cons_append]
  rw [reader, run_bind, run_peek_blank hbefore (by decide)]
  rfl

/-- A text that is not empty is read. -/
lemma decode_ofList {text : List Char} (h : text ≠ []) :
    decode (String.ofList text) = readAll reader (Input.ofChars text) := by
  have hne : (String.ofList text).isEmpty = false := by simpa using h
  rw [decode, hne, String.toList_ofList]
  rfl

/-- **An object that ends** is read as the record with the fields that its members give. -/
lemma decode_of_opensObject {m : Metadata} {ms : List (Option Field)} {start : List Char}
    (hstart : m.OpensObject ms start) (hnodup : ms.reduceOption.Nodup) {b : List Char}
    (hb : Blank b) :
    decode (String.ofList (start ++ '\x7d' :: b)) = .ok (m.overlay {} ms.reduceOption) := by
  obtain ⟨e, he, hread⟩ := run_reader_of_opensObject hstart hnodup (.inr rfl) (Input.ofChars b)
  have hend : loopFrom readMember (ms.foldl (Progress.after m) {})
      (Input.ofChars e ++ some '\x7d' :: Input.ofChars b) =
        .ok (m.overlay {} ms.reduceOption, Input.ofChars b) := by
    have hrecord : (ms.foldl (Progress.after m) {}).record = m.overlay {} ms.reduceOption := by
      rw [record_foldl_after, foldl_copyField]
    refine loopFrom_of_inr ?_
    rw [readMember, run_bind, skipsBlanks_nextKey _ e _ he, run_nextKey_end, ← hrecord]
    rfl
  have hblank : (Input.ofChars b).all isSpacePlace = true := by
    rw [List.all_eq_true]
    intro x hx
    obtain ⟨c, hc, rfl⟩ := List.mem_map.1 hx
    exact hb.isSpace hc
  rw [decode_ofList (by simp), ofChars_append, ofChars_cons, readAll, hread, hend]
  exact if_pos hblank

/-- **An object in which a key comes again** is refused there. -/
lemma decode_of_repeated {m : Metadata} {ms : List (Option Field)} {start : List Char}
    (hstart : m.OpensObject ms start) (hnodup : ms.reduceOption.Nodup) {f : Field}
    (hf : f ∈ ms.reduceOption) {b key : List Char} (hb : Blank b)
    (hkey : StringText f.name.toList key) (tail : List Char) :
    decode (String.ofList (start ++ ',' :: (b ++ (key ++ tail)))) = .error .mismatch := by
  have hne : ms ≠ [] := by
    rintro rfl
    cases hf
  obtain ⟨e, he, hread⟩ := run_reader_of_opensObject hstart hnodup (.inl rfl)
    (Input.ofChars (b ++ (key ++ tail)))
  have hseen := (mem_seen_foldl_after m ms {}).2 (.inl hf)
  have hagain := run_readMember_of_mem_seen hseen he hb hkey (Input.ofChars tail)
  rw [first_foldl_after m ms {} hne] at hagain
  have hround : loopFrom readMember (ms.foldl (Progress.after m) {})
      (Input.ofChars e ++ some ',' :: Input.ofChars (b ++ (key ++ tail))) = .error .mismatch := by
    refine loopFrom_of_error ?_
    simpa using hagain
  rw [decode_ofList (by simp), ofChars_append, ofChars_cons, readAll, hread, hround]

/-- **Metadata from elsewhere.** An object is read as the record with the fields that its members
give, in any order, with any white space and in any spelling, and with the defaults elsewhere;
members that are not known change nothing.  As soon as the key of a field comes again, the text is
refused, whatever follows.

**Proof sketch.** Every member leaves nothing but white space in front of the comma or the brace
behind it, so the members are read one after another.  A field that was given is remembered. -/
theorem decode_object {m : Metadata} {ms : List (Option Field)} {start : List Char}
    (hstart : m.OpensObject ms start) (hnodup : ms.reduceOption.Nodup) :
    (∀ b, Blank b →
      decode (String.ofList (start ++ '\x7d' :: b)) = .ok (m.overlay {} ms.reduceOption)) ∧
    ∀ f ∈ ms.reduceOption, ∀ b key tail, Blank b → StringText f.name.toList key →
      decode (String.ofList (start ++ ',' :: (b ++ (key ++ tail)))) = .error .mismatch :=
  ⟨fun _ hb => decode_of_opensObject hstart hnodup hb,
    fun _ hf _ _ tail hb hkey => decode_of_repeated hstart hnodup hf hb hkey tail⟩

/-- A member that is not known, with a number and an object in an array, stands before a directory
whose key and value are spelt with escapes; then the directory comes again.

**Proof sketch.** The text is built of the parts that the theorem asks for: an unknown member with
an array, and a member whose key and value are spelt with escapes.  The theorem then says how it is
read when the object is closed, and that it is refused when the key comes again. -/
theorem decode_object_escaped :
    let m : Metadata := { pwd := "/" }
    let ms := [none, some Field.pwd]
    let array := ['[', '-', '1', 'e', '9', ',', ' ', '\x7b', '\x7d', ']']
    let key := ['"', '\\', 'u', '0', '0', '7', '0', 'w', 'd', '"']
    let value := ['"', '\\', '/', '"']
    let start := [' ', '\x7b', '"', 'x', '"', ':'] ++ array ++ [' ', ','] ++ key ++ [':'] ++ value
    (m.OpensObject ms start ∧ ms.reduceOption.Nodup) ∧
      decode (String.ofList (start ++ ['\x7d', '\n'])) = .ok m ∧
      decode (String.ofList (start ++ [',', ' ', '"', 'p', 'w', 'd', '"'])) = .error .mismatch := by
  intro m ms array key value start
  have hplain : ∀ {c : Char}, c ≠ '"' ∧ c ≠ '\\' ∧ 0x20 ≤ c.toNat → SpellsChar c [c] :=
    fun h => .plain h.1 h.2.1 h.2.2
  have hnumber : IsNumber ['-', '1', 'e', '9'] :=
    ⟨['-'], by simp, ['1'], [], ['e', '9'], ⟨⟨by simp, by simp⟩, by simp⟩, .inl rfl,
      .inr ⟨'e', by simp, [], by simp, ['9'], ⟨by simp, by simp⟩, rfl⟩, rfl⟩
  have harray : IsJson .value array :=
    .array (.moreElements (.element blank_nil (.number hnumber) blank_nil)
      (.element (b := [' ']) (by decide) (.emptyObject blank_nil) blank_nil))
  have hunknown : MemberText m none (['"', 'x', '"', ':'] ++ array ++ [' ']) := by
    refine ⟨['x'], fun f => by cases f <;> decide, ['"', 'x', '"'], array ++ [' '],
      ⟨[], _, [], blank_nil, ⟨['x'], ?_, rfl⟩, blank_nil, rfl⟩,
      ⟨[], array, [' '], blank_nil, harray, by decide, rfl⟩, rfl⟩
    exact .cons (hplain (by decide)) .nil
  have hname : Field.pwd.name.toList = ['p', 'w', 'd'] := by decide
  have hkey : StringText Field.pwd.name.toList key := by
    rw [hname]
    refine ⟨['\\', 'u', '0', '0', '7', '0', 'w', 'd'], ?_, rfl⟩
    exact .cons (w := ['\\', 'u', '0', '0', '7', '0']) (.numbered (by decide))
      (.cons (hplain (by decide)) (.cons (hplain (by decide)) .nil))
  have hvalue : m.IsValueText .pwd value := by
    have hpwd : m.pwd.toList = ['/'] := by decide
    show StringText m.pwd.toList value
    rw [hpwd]
    exact ⟨['\\', '/'], .cons (.short (by decide)) .nil, rfl⟩
  have hknown : MemberText m (some .pwd) (key ++ [':'] ++ value) :=
    ⟨key, value, ⟨[], key, [], blank_nil, hkey, blank_nil, by simp⟩,
      ⟨[], value, [], blank_nil, hvalue, blank_nil, by simp⟩, by simp⟩
  have hstart : m.OpensObject ms start :=
    ⟨[' '], [], _, by decide, blank_nil, .cons hunknown (.cons hknown .nil), rfl⟩
  have hnodup : ms.reduceOption.Nodup := by decide
  have hagain : StringText Field.pwd.name.toList ['"', 'p', 'w', 'd', '"'] := by
    rw [hname]
    refine ⟨['p', 'w', 'd'], ?_, rfl⟩
    exact .cons (hplain (by decide)) (.cons (hplain (by decide)) (.cons (hplain (by decide)) .nil))
  have hrecord : m.overlay {} ms.reduceOption = m := by decide
  obtain ⟨hread, hrefused⟩ := decode_object hstart hnodup
  have hread := hread ['\n'] (by decide)
  have hrefused := hrefused .pwd (by decide) [' '] _ [] (by decide) hagain
  rw [hrecord] at hread
  exact ⟨⟨hstart, hnodup⟩, hread, hrefused⟩

end CommandRelay.Metadata
