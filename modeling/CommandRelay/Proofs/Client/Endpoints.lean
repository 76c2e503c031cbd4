import CommandRelay.Endpoint
import CommandRelay.Proofs.Text.Ends

/-!
# How endpoints are written

A text without the blanks at its ends is a socket after `unix:`, a socket if it is an absolute path,
and otherwise an address, after `tcp:` or not: a host and a port with the last colon between them.
A host may hold anything, the marks and colons included; so each step has to be shown to read no
more than its mark.  What is displayed has its mark in front, and comes back.

## Main definitions

* `Endpoint.IsPortNumeral`, `Endpoint.NamesSocket`, `Endpoint.NamesAddress` — how the parts are
  written.
* `Endpoint.Reading` — what a trimmed text is, form by form.

## Main results

* `Endpoint.isPort_iff` — a port is a numeral below 65536.
* `Endpoint.parseTrimmed_eq_iff` — a text is read as its form says.
* `Endpoint.parse_forms` — which texts are read as what, and what is displayed is read back.
-/

namespace CommandRelay

namespace Endpoint

/-! ## Ports -/

/-- A digit is the one that is printed for its value. -/
lemma digitChar_of_isDigit {c : Char} (h : c.isDigit = true) :
    Nat.digitChar (c.toNat - 48) = c := by
  have hrange : 48 ≤ c.toNat ∧ c.toNat ≤ 57 := Char.isDigit_iff_toNat.1 h
  apply Char.toNat_inj.1
  rw [Nat.toNat_digitChar_of_lt_ten (by omega)]
  omega

/-- The numeral of a positive number, with more digits after it, is the numeral of their value. -/
lemma toDigits_append {cs : List Char} (h : ∀ c ∈ cs, c.isDigit = true) {n : ℕ} (hn : 0 < n) :
    Nat.toDigits 10 n ++ cs = Nat.toDigits 10 (Nat.ofDigitChars 10 cs n) := by
  induction cs generalizing n with
  | nil => rw [List.append_nil]; rfl
  | cons c cs ih =>
    have hc := h c List.mem_cons_self
    have hrange : 48 ≤ c.toNat ∧ c.toNat ≤ 57 := Char.isDigit_iff_toNat.1 hc
    have hlast : Nat.toDigits 10 n ++ [c] = Nat.toDigits 10 (10 * n + (c.toNat - 48)) := by
      rw [← Nat.toDigits_append_toDigits (by decide) hn (by omega),
        Nat.toDigits_of_lt_base (show c.toNat - 48 < 10 by omega), digitChar_of_isDigit hc]
    calc Nat.toDigits 10 n ++ c :: cs
      _ = (Nat.toDigits 10 n ++ [c]) ++ cs := by simp
      _ = Nat.toDigits 10 (10 * n + (c.toNat - 48)) ++ cs := by rw [hlast]
      _ = _ := ih (fun d hd => h d (List.mem_cons_of_mem _ hd)) (by omega)

/-- **Digits are the numeral of their value**, with zeros in front. -/
lemma eq_toDigits_of_digits {cs : List Char} (h : ∀ c ∈ cs, c.isDigit = true) (hne : cs ≠ []) :
    ∃ zeros, cs = List.replicate zeros '0' ++ Nat.toDigits 10 (Nat.ofDigitChars 10 cs 0) := by
  induction cs with
  | nil => exact absurd rfl hne
  | cons c cs ih =>
    have hrest : ∀ d ∈ cs, d.isDigit = true := fun d hd => h d (List.mem_cons_of_mem _ hd)
    have hc := h c List.mem_cons_self
    have hrange : 48 ≤ c.toNat ∧ c.toNat ≤ 57 := Char.isDigit_iff_toNat.1 hc
    by_cases hzero : c = '0'
    · subst hzero
      by_cases hlast : cs = []
      · exact ⟨0, by rw [hlast]; rfl⟩
      · obtain ⟨zeros, hzeros⟩ := ih hrest hlast
        exact ⟨zeros + 1, congrArg ('0' :: ·) hzeros⟩
    · have hpos : 0 < c.toNat - 48 := by
        have : c.toNat ≠ 48 := fun heq => hzero (Char.toNat_inj.1 heq)
        omega
      refine ⟨0, ?_⟩
      have hvalue : Nat.ofDigitChars 10 (c :: cs) 0 = Nat.ofDigitChars 10 cs (c.toNat - 48) := by
        rw [Nat.ofDigitChars_cons, Nat.mul_zero, Nat.zero_add]
        rfl
      rw [hvalue, ← toDigits_append hrest hpos, Nat.toDigits_of_lt_base (by omega),
        digitChar_of_isDigit hc]
      rfl

/-- Zeros are worth nothing. -/
lemma ofDigitChars_zeros (zeros : ℕ) : Nat.ofDigitChars 10 (List.replicate zeros '0') 0 = 0 := by
  induction zeros with
  | zero => rfl
  | succ zeros ih => rw [List.replicate_succ, Nat.ofDigitChars_cons]; exact ih

/-- A numeral consists of digits, with zeros in front or without. -/
lemma isDigit_of_mem_numeral {zeros n : ℕ} {c : Char}
    (h : c ∈ List.replicate zeros '0' ++ Nat.toDigits 10 n) : c.isDigit = true := by
  rcases List.mem_append.1 h with hc | hc
  · rw [List.eq_of_mem_replicate hc]
    rfl
  · exact Nat.isDigit_of_mem_toDigits (by decide) (by decide) hc

/-- A number is read from its numeral, zeros in front or not, and from no other text. -/
lemma decimal?_eq_some_iff {cs : List Char} {n : ℕ} :
    decimal? cs = some n ↔ ∃ zeros, cs = List.replicate zeros '0' ++ Nat.toDigits 10 n := by
  unfold decimal?
  split_ifs with h
  · obtain ⟨hne, hall⟩ := h
    rw [List.all_eq_true] at hall
    obtain ⟨zeros, hzeros⟩ := eq_toDigits_of_digits hall hne
    constructor
    · intro hvalue
      exact ⟨zeros, by rw [← Option.some.inj hvalue]; exact hzeros⟩
    · rintro ⟨k, rfl⟩
      refine congrArg some ?_
      calc Nat.ofDigitChars 10 (List.replicate k '0' ++ Nat.toDigits 10 n) 0
        _ = Nat.ofDigitChars 10 (Nat.toDigits 10 n) 0 := by
          rw [Nat.ofDigitChars_append, ofDigitChars_zeros]
        _ = n := Nat.ofDigitChars_toDigits (by decide) (by decide)
  · refine ⟨nofun, ?_⟩
    rintro ⟨zeros, rfl⟩
    exact absurd ⟨by simp [Nat.toDigits_ne_nil],
      List.all_eq_true.2 fun c => isDigit_of_mem_numeral⟩ h

/-- The text of a port: the decimal numeral of a number below 65536, with zeros in front or not, and
a plus sign before everything or not. -/
def IsPortNumeral (port : List Char) : Prop :=
  ∃ n < 65536, ∃ sign zeros, (sign = [] ∨ sign = ['+']) ∧
    port = sign ++ (List.replicate zeros '0' ++ Nat.toDigits 10 n)

/-- **A port** is the numeral of a number below 65536. -/
lemma isPort_iff (port : List Char) : isPort port = true ↔ IsPortNumeral port := by
  have hany (cs : List Char) : (decimal? cs).any (· < 65536) = true ↔
      ∃ n < 65536, ∃ zeros, cs = List.replicate zeros '0' ++ Nat.toDigits 10 n := by
    simp only [Option.any_eq_true, decimal?_eq_some_iff, decide_eq_true_eq]
    exact ⟨fun ⟨n, hcs, hn⟩ => ⟨n, hn, hcs⟩, fun ⟨n, hn, hcs⟩ => ⟨n, hcs, hn⟩⟩
  by_cases hplus : port.head? = some '+'
  · obtain ⟨rest, rfl⟩ := List.head?_eq_some_iff.1 hplus
    refine (hany rest).trans ⟨?_, ?_⟩
    · rintro ⟨n, hn, zeros, rfl⟩
      exact ⟨n, hn, ['+'], zeros, .inr rfl, rfl⟩
    · rintro ⟨n, hn, sign, zeros, rfl | rfl, hport⟩
      · -- a numeral does not begin with the sign
        have hsign : '+' ∈ List.replicate zeros '0' ++ Nat.toDigits 10 n := by
          rw [← List.nil_append (_ ++ _), ← hport]
          exact List.mem_cons_self
        exact absurd (isDigit_of_mem_numeral hsign) (by decide)
      · exact ⟨n, hn, zeros, (List.cons.inj hport).2⟩
  · have hbare : isPort port = (decimal? port).any (· < 65536) := by
      unfold isPort
      split
      · exact absurd rfl hplus
      · rfl
    rw [hbare, hany]
    constructor
    · rintro ⟨n, hn, zeros, rfl⟩
      exact ⟨n, hn, [], zeros, .inl rfl, rfl⟩
    · rintro ⟨n, hn, sign, zeros, rfl | rfl, rfl⟩
      · exact ⟨n, hn, zeros, rfl⟩
      · exact absurd rfl hplus

/-! ## Forms -/

/-- What a trimmed text names as a socket: what stands behind `unix:`, or the whole text if it is an
absolute path. -/
def NamesSocket (t path : List Char) : Prop :=
  (path ≠ [] ∧ t = "unix:".toList ++ path) ∨ (t.head? = some '/' ∧ path = t)

/-- What a trimmed text names as an address: the text without one `tcp:` in front, if it has one. -/
def NamesAddress (t address : List Char) : Prop :=
  t = "tcp:".toList ++ address ∨ (¬"tcp:".toList <+: t ∧ address = t)

/-- The texts that are to hold an address: they are not empty, have no `unix:` in front and are no
absolute paths. -/
structure IsAddressed (t : List Char) : Prop where
  nonempty : t ≠ []
  unmarked : ¬"unix:".toList <+: t
  relative : t.head? ≠ some '/'

/-- What a trimmed text is read as, form by form. -/
inductive Reading : List Char → Except EndpointError Endpoint → Prop where
  | empty : Reading [] (.error .empty)
  | noPath : Reading "unix:".toList (.error .empty)
  | socket {t path : List Char} (h : NamesSocket t path) :
      Reading t (.ok (.unix (String.ofList path)))
  /-- The last colon stands between a host and a port. -/
  | address {t host port : List Char} (ht : IsAddressed t)
      (h : NamesAddress t (host ++ ':' :: port)) (hcolon : ':' ∉ port) (hhost : host ≠ [])
      (hport : IsPortNumeral port) : Reading t (.ok (.tcp (String.ofList (host ++ ':' :: port))))
  | noColon {t address : List Char} (ht : IsAddressed t) (h : NamesAddress t address)
      (hcolon : ':' ∉ address) : Reading t (.error (.unrecognized (String.ofList t)))
  | noHost {t port : List Char} (ht : IsAddressed t) (h : NamesAddress t (':' :: port))
      (hcolon : ':' ∉ port) : Reading t (.error (.unrecognized (String.ofList t)))
  | noPort {t host port : List Char} (ht : IsAddressed t)
      (h : NamesAddress t (host ++ ':' :: port)) (hcolon : ':' ∉ port) (hhost : host ≠ [])
      (hport : ¬IsPortNumeral port) : Reading t (.error (.invalidPort (String.ofList t)))

variable {t address : List Char} {r : Except EndpointError Endpoint}

/-- Every text names an address, with the mark in front or without. -/
lemma exists_namesAddress (t : List Char) : ∃ address, NamesAddress t address := by
  by_cases h : "tcp:".toList <+: t
  · obtain ⟨address, rfl⟩ := h
    exact ⟨address, .inl rfl⟩
  · exact ⟨t, .inr ⟨h, rfl⟩⟩

/-- The reader drops the mark in front that an address may have. -/
lemma getD_after? (h : NamesAddress t address) :
    (Text.after? "tcp:".toList t).getD t = address := by
  rcases h with rfl | ⟨hmark, rfl⟩
  · rw [Text.after?_append, Option.getD_some]
  · rw [Text.after?_eq_none_iff.2 hmark, Option.getD_none]

/-- A text that is to hold an address, without a colon in that. -/
lemma parseTrimmed_of_noColon (ht : IsAddressed t) (h : NamesAddress t address)
    (hcolon : ':' ∉ address) : parseTrimmed t = .error (.unrecognized (String.ofList t)) := by
  simp only [parseTrimmed, if_neg ht.nonempty, Text.after?_eq_none_iff.2 ht.unmarked,
    if_neg ht.relative, getD_after? h, Text.cutLast?_eq_none_iff.2 hcolon]

/-- A text that is to hold an address, cut at the last colon. -/
lemma parseTrimmed_of_colon {host port : List Char} (ht : IsAddressed t)
    (h : NamesAddress t (host ++ ':' :: port)) (hcolon : ':' ∉ port) :
    parseTrimmed t =
      if host = [] then .error (.unrecognized (String.ofList t))
      else if isPort port then .ok (.tcp (String.ofList (host ++ ':' :: port)))
      else .error (.invalidPort (String.ofList t)) := by
  simp only [parseTrimmed, if_neg ht.nonempty, Text.after?_eq_none_iff.2 ht.unmarked,
    if_neg ht.relative, getD_after? h, Text.cutLast?_eq_some_iff.2 ⟨rfl, hcolon⟩]

/-- Each form is read so. -/
lemma Reading.parseTrimmed_eq (h : Reading t r) : parseTrimmed t = r := by
  cases h with
  | empty => rfl
  | noPath => rfl
  | socket h =>
    rcases h with ⟨hne, rfl⟩ | ⟨habs, rfl⟩
    · rw [parseTrimmed, if_neg (by simp), Text.after?_append]
      exact if_neg hne
    · obtain ⟨rest, rfl⟩ := List.head?_eq_some_iff.1 habs
      rfl
  | address ht h hcolon hhost hport =>
    rw [parseTrimmed_of_colon ht h hcolon, if_neg hhost, if_pos ((isPort_iff _).2 hport)]
  | noColon ht h hcolon => exact parseTrimmed_of_noColon ht h hcolon
  | noHost ht h hcolon =>
    exact (parseTrimmed_of_colon ht (h : NamesAddress _ ([] ++ _)) hcolon).trans (if_pos rfl)
  | noPort ht h hcolon hhost hport =>
    rw [parseTrimmed_of_colon ht h hcolon, if_neg hhost, if_neg (mt (isPort_iff _).1 hport)]

/-- Every text has one of the forms. -/
lemma exists_reading (t : List Char) : ∃ r, Reading t r := by
  by_cases hempty : t = []
  · exact ⟨.error .empty, hempty ▸ .empty⟩
  by_cases hmark : "unix:".toList <+: t
  · obtain ⟨path, rfl⟩ := hmark
    by_cases hpath : path = []
    · exact ⟨_, by rw [hpath, List.append_nil]; exact .noPath⟩
    · exact ⟨_, .socket (.inl ⟨hpath, rfl⟩)⟩
  by_cases habs : t.head? = some '/'
  · exact ⟨_, .socket (.inr ⟨habs, rfl⟩)⟩
  have ht : IsAddressed t := ⟨hempty, hmark, habs⟩
  obtain ⟨address, h⟩ := exists_namesAddress t
  cases hcut : Text.cutLast? ':' address with
  | none => exact ⟨_, .noColon ht h (Text.cutLast?_eq_none_iff.1 hcut)⟩
  | some halves =>
    obtain ⟨host, port⟩ := halves
    obtain ⟨rfl, hcolon⟩ := Text.cutLast?_eq_some_iff.1 hcut
    by_cases hhost : host = []
    · rw [hhost, List.nil_append] at h
      exact ⟨_, .noHost ht h hcolon⟩
    by_cases hport : IsPortNumeral port
    · exact ⟨_, .address ht h hcolon hhost hport⟩
    · exact ⟨_, .noPort ht h hcolon hhost hport⟩

/-- **A text is read** as its form says. -/
lemma parseTrimmed_eq_iff : parseTrimmed t = r ↔ Reading t r := by
  refine ⟨?_, Reading.parseTrimmed_eq⟩
  rintro rfl
  obtain ⟨r, hr⟩ := exists_reading t
  rwa [hr.parseTrimmed_eq]

/-- A text that is to hold an address names no socket. -/
lemma IsAddressed.not_namesSocket (ht : IsAddressed t) (path : List Char) :
    ¬NamesSocket t path := by
  rintro (⟨-, rfl⟩ | ⟨habs, -⟩)
  · exact ht.unmarked (List.prefix_append _ _)
  · exact ht.relative habs

/-- A text that names no socket, but a host and a port, is one that is to hold an address: `unix:`
alone has no port behind its colon. -/
lemma IsAddressed.of_address {host port : List Char} (hnot : ∀ path, ¬NamesSocket t path)
    (h : NamesAddress t (host ++ ':' :: port)) (hcolon : ':' ∉ port) (hport : IsPortNumeral port) :
    IsAddressed t where
  nonempty := by
    rintro rfl
    rcases h with h | ⟨-, h⟩
    · cases h
    · simp at h
  unmarked := by
    rintro ⟨path, rfl⟩
    by_cases hpath : path = []
    · rw [hpath] at h
      rcases h with h | ⟨-, h⟩
      · cases h
      · have hcut : Text.cutLast? ':' "unix:".toList = some (host, port) :=
          Text.cutLast?_eq_some_iff.2 ⟨h.symm, hcolon⟩
        have hempty : ([] : List Char) = port := (Prod.mk.inj (Option.some.inj hcut)).2
        subst hempty
        exact absurd ((isPort_iff []).2 hport) (by decide)
    · exact hnot path (.inl ⟨hpath, rfl⟩)
  relative habs := hnot t (.inr ⟨habs, rfl⟩)

/-! ## What is displayed -/

/-- What is read from the end of a trimmed text comes back, with its mark in front.

**Proof sketch.** By cases of what was read.  A socket is displayed as its path behind `unix:`, and
an address as its text behind `tcp:`; read again, each is found behind its mark, and the text that
was read ends in the same part. -/
lemma reading_display {e : Endpoint} (h : Reading t (.ok e)) :
    Reading e.display.toList (.ok e) ∧
      ∃ mark front part, t = front ++ part ∧ e.display.toList = mark ++ part ∧ part ≠ [] ∧
        (mark = "unix:".toList ∨ mark = "tcp:".toList) := by
  cases h with
  | @socket _ path h =>
    have hdisplay : (unix (String.ofList path)).display.toList = "unix:".toList ++ path := by
      simp [display]
    rw [hdisplay]
    have hpath : path ≠ [] := by
      rcases h with ⟨hne, -⟩ | ⟨habs, rfl⟩
      · exact hne
      · rintro rfl
        cases habs
    refine ⟨.socket (.inl ⟨hpath, rfl⟩), "unix:".toList, ?_⟩
    rcases h with ⟨-, rfl⟩ | ⟨-, rfl⟩
    · exact ⟨_, path, rfl, rfl, hpath, .inl rfl⟩
    · exact ⟨[], path, rfl, rfl, hpath, .inl rfl⟩
  | @address _ host port ht h hcolon hhost hport =>
    have hdisplay : (tcp (String.ofList (host ++ ':' :: port))).display.toList =
        "tcp:".toList ++ (host ++ ':' :: port) := by
      simp [display]
    have hpart : host ++ ':' :: port ≠ [] := by simp
    rw [hdisplay]
    refine ⟨.address ⟨by simp, ?_, by simp⟩ (.inl rfl) hcolon hhost hport, "tcp:".toList, ?_⟩
    · rintro ⟨rest, hrest⟩
      cases hrest
    · rcases h with rfl | ⟨-, rfl⟩
      · exact ⟨_, _, rfl, rfl, hpart, .inr rfl⟩
      · exact ⟨[], _, rfl, rfl, hpart, .inr rfl⟩

/-- **What is displayed** is read back. -/
lemma parse_display_of_parse {s : String} {e : Endpoint} (h : parse s = .ok e) :
    parse e.display = .ok e := by
  obtain ⟨hread, mark, front, part, ht, hdisplay, hpart, hmark⟩ :=
    reading_display (parseTrimmed_eq_iff.1 h)
  have htrims : Text.Trims e.display.toList e.display.toList := by
    rw [hdisplay]
    refine (Text.trims_trim s.toList).marked ht hpart (fun c hc => ?_) ?_
    · rcases hmark with rfl | rfl
      · obtain rfl : 'u' = c := Option.some.inj hc
        rfl
      · obtain rfl : 't' = c := Option.some.inj hc
        rfl
    · rcases hmark with rfl | rfl <;> exact List.cons_ne_nil _ _
  rw [parse, Text.trim_eq_iff.2 htrims]
  exact parseTrimmed_eq_iff.2 hread

/-! ## Which texts are read as what -/

/-- **Which texts are endpoints**, and why the others are not.  A text without the blanks at its
ends names a socket, by `unix:` or as an absolute path; or else it names an address, where the last
colon stands between a host that is not empty and the numeral of a port.  It is empty if nothing
follows the mark of a socket or nothing is there at all, it is not recognised if it has no colon or
no host, and in all that remains the port is not one.  What was read is displayed so that it is read
again.

**Proof sketch.** Parsing is the relation `Reading` on the trimmed text (`parseTrimmed_eq_iff`),
which has one constructor for each way in which a text can be read.  Each equivalence is therefore a
case analysis of `Reading` in one direction and its constructor in the other. -/
theorem parse_forms (s : String) : ∃ t, Text.Trims s.toList t ∧
    (∀ path, parse s = .ok (.unix path) ↔ NamesSocket t path.toList) ∧
    (∀ address, parse s = .ok (.tcp address) ↔
      (∀ path, ¬NamesSocket t path) ∧ NamesAddress t address.toList ∧
        ∃ host port, address.toList = host ++ ':' :: port ∧ ':' ∉ port ∧ host ≠ [] ∧
          IsPortNumeral port) ∧
    (parse s = .error .empty ↔ t = [] ∨ t = "unix:".toList) ∧
    (∀ shown, parse s = .error (.unrecognized shown) ↔
      shown.toList = t ∧ IsAddressed t ∧ ∃ address, NamesAddress t address ∧
        (':' ∉ address ∨ ∃ port, ':' ∉ port ∧ address = ':' :: port)) ∧
    (∀ shown, parse s = .error (.invalidPort shown) ↔
      shown.toList = t ∧ IsAddressed t ∧ ∃ host port, NamesAddress t (host ++ ':' :: port) ∧
        ':' ∉ port ∧ host ≠ [] ∧ ¬IsPortNumeral port) ∧
    ∀ e, parse s = .ok e → parse e.display = .ok e := by
  have hparse (r : Except EndpointError Endpoint) : parse s = r ↔ Reading (Text.trim s.toList) r :=
    parseTrimmed_eq_iff
  refine ⟨Text.trim s.toList, Text.trims_trim s.toList, fun path => ?_, fun address => ?_, ?_,
    fun shown => ?_, fun shown => ?_, fun e => parse_display_of_parse⟩
  all_goals rw [hparse]; generalize Text.trim s.toList = t
  · constructor
    · rintro (_ | _ | h)
      simpa using h
    · intro h
      simpa using Reading.socket h
  · constructor
    · rintro (_ | _ | _ | ⟨ht, h, hcolon, hhost, hport⟩)
      exact ⟨ht.not_namesSocket, by simpa using h, _, _, by simp, hcolon, hhost, hport⟩
    · rintro ⟨hnot, h, host, port, haddress, hcolon, hhost, hport⟩
      rw [haddress] at h
      rw [← String.ofList_toList (s := address), haddress]
      exact .address (.of_address hnot h hcolon hport) h hcolon hhost hport
  · constructor
    · rintro (_ | _)
      · exact .inl rfl
      · exact .inr rfl
    · rintro (rfl | rfl)
      · exact .empty
      · exact .noPath
  · constructor
    · rintro (_ | _ | _ | _ | ⟨ht, h, hcolon⟩ | ⟨ht, h, hcolon⟩)
      · exact ⟨String.toList_ofList, ht, _, h, .inl hcolon⟩
      · exact ⟨String.toList_ofList, ht, _, h, .inr ⟨_, hcolon, rfl⟩⟩
    · rintro ⟨rfl, ht, address, h, hcolon | ⟨port, hcolon, rfl⟩⟩
      · simpa using Reading.noColon ht h hcolon
      · simpa using Reading.noHost ht h hcolon
  · constructor
    · rintro (_ | _ | _ | _ | _ | _ | ⟨ht, h, hcolon, hhost, hport⟩)
      exact ⟨String.toList_ofList, ht, _, _, h, hcolon, hhost, hport⟩
    · rintro ⟨rfl, ht, host, port, h, hcolon, hhost, hport⟩
      simpa using Reading.noPort ht h hcolon hhost hport

/-- A host that begins like a mark and holds colons, and a port with a sign and zeros, between
blanks. -/
theorem parse_forms_marks :
    parse "\u2003tcp:unix:[::1]:+0080 \n" = .ok (.tcp "unix:[::1]:+0080") ∧
      parse (Endpoint.tcp "unix:[::1]:+0080").display = .ok (.tcp "unix:[::1]:+0080") := by
  have hparse : parse "\u2003tcp:unix:[::1]:+0080 \n" = .ok (.tcp "unix:[::1]:+0080") := by decide
  obtain ⟨-, -, -, -, -, -, -, hback⟩ := parse_forms "\u2003tcp:unix:[::1]:+0080 \n"
  exact ⟨hparse, hback _ hparse⟩

/-- An address may be a bare one of IPv6 and begin like a mark, but a mark is no host. -/
example : parse "tcp:tcp:::1:80" = .ok (.tcp "tcp:::1:80") ∧
    parse "tcp:80" = .error (.unrecognized "tcp:80") ∧
    parse "host:65536" = .error (.invalidPort "host:65536") := by
  decide

end Endpoint

end CommandRelay
