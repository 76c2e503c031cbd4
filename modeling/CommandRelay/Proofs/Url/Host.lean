import CommandRelay.Proofs.Text.Ends
import CommandRelay.Url.Parse
import Mathlib.Data.List.Basic
import Mathlib.Tactic.Common

/-!
# Hosts that are read as they are written

A name of lower-case letters, digits, hyphens and dots is its own ASCII form, so every scheme reads
it as the domain that it is.  An address in brackets ends with its first closing bracket.

## Main definitions

* `Url.IsPlainName` — a name that is its own ASCII form.
* `Url.Kind.readHostText` — how a kind of scheme reads the text of a host.

## Main results

* `Url.readHostText_plain` — a plain name is read as a domain.
* `Url.readHostText_bracketed` — nothing follows the closing bracket of an address.
-/

namespace CommandRelay.Url

/-! ## Plain names -/

/-- A lower-case letter, a digit, or one of the signs that join them. -/
def isPlainChar (c : Char) : Bool := c.isLower || c.isDigit || c = '-' || c = '_' || c = '.'

/-- The byte of an ASCII character. -/
def asciiByte (c : Char) : UInt8 := UInt8.ofNat c.toNat

/-- A name of such characters that is its own ASCII form and does not end in a number.  A name in
which no label is marked as the written form of other characters is always its own
(`IsPlainName.of_unmarked`). -/
structure IsPlainName (name : List Char) : Prop where
  ne_nil : name ≠ []
  plain : ∀ c ∈ name, isPlainChar c = true
  own : Domain.ofChars? name = some name
  notNumber : Ipv4.endsInNumber name = false

/-- A plain character is ASCII. -/
lemma toNat_lt_of_plain {c : Char} (h : isPlainChar c = true) : c.toNat < 128 := by
  simp only [isPlainChar, Bool.or_eq_true, decide_eq_true_eq] at h
  rcases h with (((h | h) | rfl) | rfl) | rfl
  · have hle : c.val ≤ 'z'.val := of_decide_eq_true (Bool.and_eq_true_iff.1 h).2
    exact Nat.lt_of_le_of_lt (UInt32.le_iff_toNat_le.1 hle) (by decide)
  · have hle : c.val ≤ '9'.val := of_decide_eq_true (Bool.and_eq_true_iff.1 h).2
    exact Nat.lt_of_le_of_lt (UInt32.le_iff_toNat_le.1 hle) (by decide)
  all_goals decide

/-- A property of all plain characters, checked character by character. -/
lemma forall_plain {P : Char → Prop}
    (h : ∀ n < 128, isPlainChar (Char.ofNat n) = true → P (Char.ofNat n)) {c : Char}
    (hc : isPlainChar c = true) : P c := by
  have hlt := toNat_lt_of_plain hc
  have := h c.toNat hlt
  rw [Char.ofNat_toNat] at this
  exact this hc

/-- A plain character is in lower case already. -/
lemma toLower_of_plain {c : Char} (h : isPlainChar c = true) : c.toLower = c :=
  forall_plain (P := fun c => c.toLower = c) (by decide) h

/-- A plain character is allowed in a domain. -/
lemma isForbidden_of_plain {c : Char} (h : isPlainChar c = true) :
    Domain.isForbidden c = false :=
  forall_plain (P := fun c => Domain.isForbidden c = false) (by decide) h

/-- A plain character is allowed in a host. -/
lemma isForbidden_host_of_plain {c : Char} (h : isPlainChar c = true) :
    Host.isForbidden c = false :=
  forall_plain (P := fun c => Host.isForbidden c = false) (by decide) h

/-- A plain character is visible. -/
lemma isControlOrSpace_of_plain {c : Char} (h : isPlainChar c = true) :
    isControlOrSpace c = false :=
  forall_plain (P := fun c => isControlOrSpace c = false) (by decide) h

/-- A plain character is not escaped. -/
lemma escapeChar_of_plain {c : Char} (h : isPlainChar c = true) : Host.escapeChar c = [c] :=
  forall_plain (P := fun c => Host.escapeChar c = [c]) (by decide) h

/-- A plain character is no percent sign. -/
lemma asciiByte_of_plain {c : Char} (h : isPlainChar c = true) : asciiByte c ≠ 0x25 :=
  forall_plain (P := fun c => asciiByte c ≠ 0x25) (by decide) h

/-- No plain character means anything in a URL. -/
lemma notMem_delimiters_of_plain {c : Char} (h : isPlainChar c = true) :
    c ∉ [':', '@', '[', ']', '/', '\\', '?', '#'] :=
  forall_plain (P := fun c => c ∉ [':', '@', '[', ']', '/', '\\', '?', '#']) (by decide) h

/-! ## Bytes -/

/-- An ASCII character has one byte. -/
lemma utf8EncodeChar_of_ascii : ∀ n < 128,
    String.utf8EncodeChar (Char.ofNat n) = [UInt8.ofNat n] := by decide

/-- The bytes of an ASCII text are those of its characters. -/
lemma toBytes_of_ascii {s : List Char} (h : ∀ c ∈ s, c.toNat < 128) :
    Text.toBytes (String.ofList s) = s.map asciiByte := by
  have hbytes : Text.toBytes (String.ofList s) = s.flatMap String.utf8EncodeChar := by
    simp [Text.toBytes, String.ofList, List.utf8Encode]
  rw [hbytes]
  induction s with
  | nil => rfl
  | cons c s ih =>
    have hc := utf8EncodeChar_of_ascii c.toNat (h c (by simp))
    rw [Char.ofNat_toNat] at hc
    have hrest := ih (fun d hd => h d (by simp [hd])) (by
      simp [Text.toBytes, String.ofList, List.utf8Encode])
    rw [List.flatMap_cons, hc, hrest]
    rfl

/-- Bytes without a percent sign stand for themselves. -/
lemma percentDecode_of_notMem {s : List UInt8} (h : 0x25 ∉ s) : Host.percentDecode s = s := by
  induction s with
  | nil => rw [Host.percentDecode]
  | cons b s ih =>
    have hb : b ≠ 0x25 := fun hb => h (by simp [hb])
    have hescape : Host.escapedByte? b s = none := by
      rcases s with _ | ⟨h, _ | ⟨l, rest⟩⟩
      · rfl
      · rfl
      · exact if_neg hb
    rw [Host.percentDecode, hescape, ih fun hs => h (by simp [hs])]

/-- The symbols of an ASCII text are its characters. -/
lemma symbols_of_ascii {s : List Char} (h : ∀ c ∈ s, c.toNat < 128) :
    Text.symbols (s.map asciiByte) = s.map some := by
  induction s with
  | nil => simp [Text.symbols, Text.decodePieces]
  | cons c s ih =>
    have hbyte : (asciiByte c).toNat = c.toNat := by
      have := h c (by simp)
      simp only [asciiByte, UInt8.toNat_ofNat']
      omega
    have hsmall : asciiByte c < 0x80 := by
      rw [UInt8.lt_iff_toNat_lt, hbyte]
      exact h c (by simp)
    have hfirst : Text.firstPiece (asciiByte c) (s.map asciiByte) = (.char c, 0) := by
      rw [Text.firstPiece, if_pos hsmall, hbyte, Char.ofNat_toNat]
    have hrest := ih fun d hd => h d (by simp [hd])
    rw [Text.symbols] at hrest ⊢
    rw [List.map_cons, Text.decodePieces, hfirst]
    simp only [List.drop_zero, List.flatMap_cons]
    rw [hrest]
    rfl

/-! ## Plain names as domains -/

/-- Mapping every element to itself gives the list. -/
lemma mapM_eq_self {α : Type} {f : α → Option α} {s : List α} (h : ∀ a ∈ s, f a = some a) :
    s.mapM f = some s := by
  induction s with
  | nil => rfl
  | cons a s ih => simp [List.mapM_cons, h a (by simp), ih fun b hb => h b (by simp [hb])]

/-- Where a list is mapped without a failure, no element fails. -/
lemma ne_none_of_mapM {α β : Type} {f : α → Option β} {s : List α} (h : s.mapM f ≠ none) :
    ∀ a ∈ s, f a ≠ none := by
  induction s with
  | nil => simp
  | cons a s ih =>
    rw [List.mapM_cons] at h
    intro b hb hnone
    rcases List.mem_cons.1 hb with rfl | hb
    · exact h (by rw [hnone]; rfl)
    · refine ih (fun hs => h ?_) b hb hnone
      cases f a <;> simp [hs]

/-- A label in ASCII that is not marked consists of its own characters. -/
lemma characters?_of_ascii {label : List Char} (hmark : ¬Domain.mark <+: label)
    (h : label.all Domain.isAscii = true) : Domain.characters? label = some label := by
  rw [Domain.characters?, Text.after?_eq_none_iff.2 hmark]
  simp only [h, Bool.true_or, if_true]

/-- **Unmarked names.** A name of plain characters is its own ASCII form if no label of it is the
written form of other characters.

**Proof sketch.** All characters are ASCII and in lower case, so folding changes nothing, and labels
that are not marked stand for themselves.  No character is forbidden or written from right to left,
and each label is its own ASCII form, so the name is joined from the labels again. -/
lemma ofChars?_of_unmarked {name : List Char} (hplain : ∀ c ∈ name, isPlainChar c = true)
    (hmark : ∀ label ∈ name.splitOn '.', ¬Domain.mark <+: label) :
    Domain.ofChars? name = some name := by
  have hascii : ∀ c ∈ name, Domain.isAscii c = true := fun c hc =>
    decide_eq_true (toNat_lt_of_plain (hplain c hc))
  have hlower : name.map Char.toLower = name :=
    (List.map_congr_left fun c hc => toLower_of_plain (hplain c hc)).trans (List.map_id _)
  have hfold : Domain.foldAll? name = some name := by
    rw [Domain.foldAll?, if_pos (List.all_eq_true.2 hascii), hlower]
  have hlabel : ∀ label ∈ name.splitOn '.', label.all Domain.isAscii = true := fun label hl =>
    List.all_eq_true.2 fun c hc => hascii c (Text.mem_of_mem_splitOn hl hc)
  have hlabels : (name.splitOn '.').mapM Domain.characters? = some (name.splitOn '.') :=
    mapM_eq_self fun label hl => characters?_of_ascii (hmark label hl) (hlabel label hl)
  -- nothing is left of the checks for names in other scripts
  have hforbidden : ((name.splitOn '.').any fun l =>
      l.any fun c => Domain.isAscii c && Domain.isForbidden c) = false := by
    rw [List.any_eq_false]
    intro label hl
    rw [Bool.not_eq_true, List.any_eq_false]
    intro c hc
    simp [isForbidden_of_plain (hplain c (Text.mem_of_mem_splitOn hl hc))]
  have hright : (name.splitOn '.').any Domain.isRightToLeft = false := by
    rw [List.any_eq_false]
    intro label hl
    rw [Bool.not_eq_true, Domain.isRightToLeft, List.any_eq_false]
    intro c hc
    simp only [hascii c (Text.mem_of_mem_splitOn hl hc), Bool.not_true, Bool.false_and]
    exact Bool.false_ne_true
  have hself : (name.splitOn '.').map Domain.toAscii = name.splitOn '.' :=
    (List.map_congr_left fun label hl => if_pos (hlabel label hl)).trans (List.map_id _)
  simp only [Domain.ofChars?, hfold, Option.bind_eq_bind, Option.bind_some, hlabels, hforbidden,
    hright, hself, Bool.false_and, Bool.false_eq_true, if_false, List.intercalate_splitOn]

/-- A name of plain characters is plain if no label is marked and it does not end in a number. -/
lemma IsPlainName.of_unmarked {name : List Char} (hne : name ≠ [])
    (hplain : name.all isPlainChar = true)
    (hmark : ∀ label ∈ name.splitOn '.', ¬Domain.mark <+: label)
    (hnumber : Ipv4.endsInNumber name = false) : IsPlainName name where
  ne_nil := hne
  plain := List.all_eq_true.1 hplain
  own := ofChars?_of_unmarked (List.all_eq_true.1 hplain) hmark
  notNumber := hnumber

/-- A loopback name is plain. -/
lemma isPlainName_localhost : IsPlainName "localhost".toList :=
  .of_unmarked (by decide) (by decide) (by decide) (by decide)

/-- The bytes of a plain name are read as that name. -/
lemma ofBytes?_plain {name : List Char} (h : IsPlainName name) :
    Domain.ofBytes? (Host.percentDecode (Text.toBytes (String.ofList name))) = some name := by
  have hascii : ∀ c ∈ name, c.toNat < 128 := fun c hc => toNat_lt_of_plain (h.plain c hc)
  have hpercent : (0x25 : UInt8) ∉ name.map asciiByte := by
    intro hmem
    obtain ⟨c, hc, hbyte⟩ := List.mem_map.1 hmem
    exact asciiByte_of_plain (h.plain c hc) hbyte
  have hchars : (name.map some).mapM id = some name :=
    List.mapM_map.trans (mapM_eq_self fun c _ => rfl)
  rw [toBytes_of_ascii hascii, percentDecode_of_notMem hpercent, Domain.ofBytes?,
    symbols_of_ascii hascii, hchars]
  exact h.own

/-- How a kind of scheme reads the text of a host. -/
def Kind.readHostText (kind : Kind) (text : List Char) : Except Error Host :=
  if kind = .other then Host.ofOther text else Host.ofSpecial text

/-- **A plain name** is read as the domain that it is. -/
lemma readHostText_plain (kind : Kind) {name : List Char} (h : IsPlainName name) :
    kind.readHostText name = .ok (.domain name) := by
  obtain ⟨first, rest, rfl⟩ := List.exists_cons_of_ne_nil h.ne_nil
  have hbracket : (first :: rest).head? ≠ some '[' := by
    rintro hfirst
    rw [List.head?_cons, Option.some.injEq] at hfirst
    exact notMem_delimiters_of_plain (h.plain first (by simp)) (by simp [hfirst])
  rw [Kind.readHostText]
  split_ifs with hkind
  · have hallowed : (first :: rest).any Host.isForbidden = false := by
      rw [List.any_eq_false]
      intro c hc
      simp [isForbidden_host_of_plain (h.plain c hc)]
    have hself : (first :: rest).flatMap Host.escapeChar = first :: rest := by
      rw [List.flatMap_congr fun c hc => escapeChar_of_plain (h.plain c hc)]
      simp
    rw [Host.ofOther, if_neg hbracket, hallowed, hself]
    rfl
  · rw [Host.ofSpecial, if_neg hbracket, ofBytes?_plain h]
    simp only [h.notNumber, Bool.false_eq_true, if_false]

/-! ## Addresses in brackets -/

/-- A character that an address between brackets may hold. -/
def isAddressChar (c : Char) : Prop := (Text.hexValue? c).isSome = true ∨ c = ':' ∨ c = '.'

/-- Digits may stand in an address. -/
lemma isAddressChar_of_allDigits {base : Nat} {s : List Char}
    (h : Ipv4.allDigits base s = true) : ∀ c ∈ s, isAddressChar c := by
  intro c hc
  obtain ⟨d, hd, -⟩ := (Option.any_eq_true _ _).1 (List.all_eq_true.1 h c hc)
  exact .inl (by rw [hd]; rfl)

/-- A character of joined pieces is the separator or one of a piece. -/
lemma eq_or_mem_of_mem_intercalate {pieces : List (List Char)} {sep c : Char}
    (hc : c ∈ [sep].intercalate pieces) : c = sep ∨ ∃ piece ∈ pieces, c ∈ piece := by
  induction pieces with
  | nil => cases hc
  | cons first rest ih =>
    cases rest with
    | nil => exact .inr ⟨first, by simp, by simpa using hc⟩
    | cons second rest =>
      rw [List.intercalate_cons_cons, List.mem_append, List.mem_append] at hc
      rcases hc with (hc | hc) | hc
      · exact .inr ⟨first, by simp, hc⟩
      · exact .inl (List.mem_singleton.1 hc)
      · rcases ih hc with h | ⟨piece, hpiece, h⟩
        · exact .inl h
        · exact .inr ⟨piece, List.mem_cons_of_mem _ hpiece, h⟩

namespace Ipv6

/-- A piece of an address takes digits off the front. -/
lemma hexPiece_spec (room value count : Nat) (s : List Char) :
    ∃ digits, s = digits ++ (hexPiece room value count s).2.2 ∧ ∀ c ∈ digits, isAddressChar c := by
  induction s generalizing room value count with
  | nil => cases room <;> exact ⟨[], rfl, by simp⟩
  | cons c s ih =>
    cases room with
    | zero => exact ⟨[], rfl, by simp⟩
    | succ room =>
      rw [hexPiece]
      cases hc : Text.hexValue? c with
      | none => exact ⟨[], rfl, by simp⟩
      | some d =>
        obtain ⟨digits, hdigits, hall⟩ := ih room (16 * value + d) (count + 1)
        refine ⟨c :: digits, congrArg (c :: ·) hdigits, ?_⟩
        rintro x (- | ⟨-, hx⟩)
        · exact .inl (by rw [hc]; rfl)
        · exact hall x hx

/-- A dotted address has digits and dots only. -/
lemma isAddressChar_of_trailingBytes? {s : List Char} (h : trailingBytes? s ≠ none) :
    ∀ c ∈ s, isAddressChar c := by
  have hbytes : (s.splitOn '.').mapM decimalByte? ≠ none := by
    intro hnone
    exact h (by rw [trailingBytes?, hnone])
  have hs : ['.'].intercalate (s.splitOn '.') = s := List.intercalate_splitOn '.'
  intro c hc
  rw [← hs] at hc
  rcases eq_or_mem_of_mem_intercalate hc with rfl | ⟨piece, hpiece, hc⟩
  · exact .inr (.inr rfl)
  · have hdigits : Ipv4.allDigits 10 piece = true := by
      by_contra hno
      exact ne_none_of_mapM hbytes piece hpiece (by simp [decimalByte?, hno])
    exact isAddressChar_of_allDigits hdigits c hc

/-- The pieces of an address have hexadecimal digits, colons and dots only. -/
lemma isAddressChar_of_readPieces? (room : Nat) (p : Pieces) (s : List Char)
    (h : readPieces? room p s ≠ none) : ∀ c ∈ s, isAddressChar c := by
  fun_induction readPieces? room p s with
  | case1 => simp
  | case2 | case3 | case6 | case8 | case10 => exact absurd rfl h
  | case4 room p s hgap ih =>
    rintro c (- | ⟨-, hc⟩)
    · exact .inr (.inl rfl)
    · exact ih h c hc
  | case5 room p s _ _ value count hpiece =>
    obtain ⟨digits, hs, hall⟩ := hexPiece_spec 4 0 0 s
    rw [hpiece, List.append_nil] at hs
    exact hs ▸ hall
  | case7 room p s _ _ value count tail _ hpiece =>
    refine isAddressChar_of_trailingBytes? fun hnone => h ?_
    rw [hnone]
    rfl
  | case9 room p s _ _ value count rest _ hpiece ih =>
    obtain ⟨digits, hs, hall⟩ := hexPiece_spec 4 0 0 s
    rw [hpiece] at hs
    intro c hc
    rw [hs, List.mem_append, List.mem_cons] at hc
    rcases hc with hc | rfl | hc
    · exact hall c hc
    · exact .inr (.inl rfl)
    · exact ih h c hc

/-- An address holds no bracket. -/
lemma parse?_of_bracket {s : List Char} (h : ']' ∈ s) : parse? s = none := by
  have hbracket : ¬isAddressChar ']' := by
    rintro (h | h | h) <;> exact absurd h (by decide)
  have hread : ∀ room p, readPieces? room p s = none := by
    intro room p
    by_contra hno
    exact hbracket (isAddressChar_of_readPieces? room p s hno ']' h)
  unfold parse?
  split
  · next rest =>
    have hrest : readPieces? 7 ⟨[0], some 1⟩ rest = none := by
      by_contra hno
      exact hbracket (isAddressChar_of_readPieces? _ _ _ hno ']' (by simpa using h))
    rw [hrest]
    rfl
  · rfl
  · split_ifs
    · rfl
    · rw [hread]
      rfl

end Ipv6

/-- **Brackets.** Nothing follows the first closing bracket of an address. -/
lemma readHostText_bracketed (kind : Kind) {inside extra : List Char} {host : Host}
    (h : kind.readHostText ('[' :: inside ++ ']' :: extra) = .ok host) : extra = [] := by
  have hbracketed : Host.ofBracketed ('[' :: inside ++ ']' :: extra) = .ok host := by
    rw [Kind.readHostText] at h
    split_ifs at h <;> exact h
  by_contra hextra
  have hmem : ']' ∈ (('[' :: inside ++ ']' :: extra).drop 1).dropLast := by
    rw [List.cons_append, List.drop_one, List.tail_cons,
      List.dropLast_append_of_ne_nil (List.cons_ne_nil _ _), List.dropLast_cons_of_ne_nil hextra]
    simp
  rw [Host.ofBracketed, Ipv6.parse?_of_bracket hmem] at hbracketed
  split_ifs at hbracketed

end CommandRelay.Url
