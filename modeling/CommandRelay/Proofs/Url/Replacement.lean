import CommandRelay.Proofs.Url.Host
import Mathlib.Data.List.DropRight

/-!
# Replacing the host in a URL

If a text has another host in the place where the parser finds its host, all other parts of it are
read as before.

## Main definitions

* `Url.HostAt` — a host stands where a kind of scheme reads one.

## Main results

* `Url.parseSignificant_replace` — another host in that place changes the host alone.
-/

namespace CommandRelay.Url

/-! ## The place of a host -/

/-- Neither `user` nor `host` ends the authority, and no at sign comes after `user`. -/
structure Fits (kind : Kind) (user host rest : List Char) : Prop where
  ne_nil : host ≠ []
  inside : ∀ c ∈ user ++ host, endsAuthority kind c = false
  lastAt : '@' ∉ host ++ rest.takeWhile fun c => !endsAuthority kind c

/-- Between `user`, which is empty or ends in an at sign, and `rest` stands a host: either without
brackets and up to a colon or the end of the authority, or all in one pair of brackets. -/
structure HostAt (kind : Kind) (user host rest : List Char) : Prop extends
    Fits kind user host rest where
  endsInAt : user = [] ∨ ∃ name, user = name ++ ['@']
  shape : ('[' ∉ host ∧ ':' ∉ host ∧ ∀ c ∈ rest.head?, c = ':' ∨ endsAuthority kind c = true) ∨
    ∃ inside, host = '[' :: inside ++ [']'] ∧ ']' ∉ inside

/-- No character of a plain name separates parts of a URL. -/
lemma IsPlainName.ne_of_mem {name : List Char} (h : IsPlainName name) {c d : Char} (hc : c ∈ name)
    (hd : d ∈ [':', '@', '[', ']', '/', '\\', '?', '#']) : c ≠ d := by
  rintro rfl
  exact notMem_delimiters_of_plain (h.plain c hc) hd

/-- No character of a plain name ends the authority. -/
lemma IsPlainName.endsAuthority_eq_false {name : List Char} (h : IsPlainName name) (kind : Kind)
    {c : Char} (hc : c ∈ name) : endsAuthority kind c = false := by
  simp [endsAuthority, h.ne_of_mem hc]

/-- A plain name fits wherever something does. -/
lemma Fits.plain {kind : Kind} {user host rest name : List Char} (h : Fits kind user host rest)
    (hname : IsPlainName name) : Fits kind user name rest where
  ne_nil := hname.ne_nil
  inside c hc := (List.mem_append.1 hc).elim
    (fun hc => h.inside c (List.mem_append_left _ hc)) (hname.endsAuthority_eq_false kind)
  lastAt hat := (List.mem_append.1 hat).elim
    (fun hat => hname.ne_of_mem hat (by decide) rfl)
    (fun hat => h.lastAt (List.mem_append_right _ hat))

/-! ## The host text -/

/-- The host and what follows it are the text again. -/
lemma spanHost_append_self (kind : Kind) (inside : Bool) (s : List Char) :
    (spanHost kind inside s).1 ++ (spanHost kind inside s).2 = s := by
  fun_induction spanHost kind inside s <;> simp_all

/-- Characters that end nothing are read together with what is read after them. -/
lemma spanHost_append {kind : Kind} {s : List Char} (rest : List Char)
    (hs : ∀ c ∈ s, c ≠ ':' ∧ c ≠ '[' ∧ endsAuthority kind c = false) :
    spanHost kind false (s ++ rest) =
      (s ++ (spanHost kind false rest).1, (spanHost kind false rest).2) := by
  induction s with
  | nil => rfl
  | cons c s ih =>
    obtain ⟨hcolon, hbracket, hends⟩ := hs c (by simp)
    rw [List.cons_append, spanHost]
    simp only [hcolon, hbracket, hends, decide_false, Bool.false_and, Bool.or_false,
      Bool.false_eq_true, if_false, ite_self, ih fun d hd => hs d (by simp [hd]), List.cons_append]

/-- Within brackets colons do not count. -/
lemma spanHost_inside {kind : Kind} {s : List Char} (rest : List Char)
    (hs : ∀ c ∈ s, c ≠ ']' ∧ endsAuthority kind c = false) :
    spanHost kind true (s ++ ']' :: rest) =
      (s ++ ']' :: (spanHost kind false rest).1, (spanHost kind false rest).2) := by
  have hclose : endsAuthority kind ']' = false := by cases kind <;> rfl
  induction s with
  | nil => simp [spanHost, hclose]
  | cons c s ih =>
    obtain ⟨hbracket, hends⟩ := hs c (by simp)
    rw [List.cons_append, spanHost]
    simp [hbracket, hends, ih fun d hd => hs d (by simp [hd])]

/-- A host text that can be read is the host in its place, and nothing of what follows. -/
lemma HostAt.spanHost_eq {kind : Kind} {user host rest : List Char} {found : Host}
    (h : HostAt kind user host rest)
    (hread : kind.readHostText (spanHost kind false (host ++ rest)).1 = .ok found) :
    spanHost kind false (host ++ rest) = (host, rest) ∧ spanHost kind false rest = ([], rest) := by
  have hends : ∀ c ∈ host, endsAuthority kind c = false := fun c hc =>
    h.inside c (List.mem_append_right _ hc)
  rcases h.shape with ⟨hopen, hcolon, hrest⟩ | ⟨inside, rfl, hclose⟩
  · have hstop : spanHost kind false rest = ([], rest) := by
      cases rest with
      | nil => rfl
      | cons c rest =>
        rw [spanHost, if_pos]
        simpa using hrest c rfl
    have hplain : ∀ c ∈ host, c ≠ ':' ∧ c ≠ '[' ∧ endsAuthority kind c = false := fun c hc =>
      ⟨fun e => hcolon (e ▸ hc), fun e => hopen (e ▸ hc), hends c hc⟩
    rw [spanHost_append rest hplain, hstop, List.append_nil]
    exact ⟨rfl, rfl⟩
  · have hinside : ∀ c ∈ inside, c ≠ ']' ∧ endsAuthority kind c = false := fun c hc =>
      ⟨fun e => hclose (e ▸ hc), hends c (by simp [hc])⟩
    have hspan : spanHost kind false ('[' :: inside ++ [']'] ++ rest) =
        ('[' :: inside ++ ']' :: (spanHost kind false rest).1, (spanHost kind false rest).2) := by
      have hbracket := hends '[' (by simp)
      simp [spanHost, hbracket, spanHost_inside rest hinside]
    rw [hspan] at hread
    have hnone := readHostText_bracketed kind hread
    have hall := spanHost_append_self kind false rest
    rw [hnone, List.nil_append] at hall
    rw [hspan, hnone, hall]
    exact ⟨rfl, Prod.ext hnone hall⟩

/-! ## Host, port and what follows -/

/-- The port after a host, and what follows it. -/
def readPortMark (scheme : List Char) : List Char → Except Error (Option Nat × List Char)
  | ':' :: rest => readPort scheme rest
  | rest => .ok (none, rest)

/-- A host that is no empty name. -/
def presentHost? (host : Host) : Option Host := if host = .domain [] then none else some host


/-- **Reading a host**, step by step.

**Proof sketch.** The definition checks for an empty host, reads its text by the kind of the scheme,
checks for a port without a host, and reads the port if its colon is there.  Each check is brought
to the form that it has here, one after another, and what is left on both sides is the same. -/
lemma readHost_eq {kind : Kind} {u : Url} {hasUser : Bool} {s text rest : List Char}
    (hspan : spanHost kind false s = (text, rest)) :
    readHost kind u hasUser s =
      if kind = .special ∧ text = [] then .error .emptyHost
      else kind.readHostText text >>= fun host =>
        if presentHost? host = none ∧ rest.head? = some ':' then .error .emptyHost
        else readPortMark u.scheme rest >>= fun port =>
          if presentHost? host = none ∧ hasUser then .error .emptyHost
          else .ok ({ u with host := presentHost? host, port := port.1 }.withTail port.2) := by
  rw [readHost, hspan]
  by_cases hempty : kind = .special ∧ text = []
  · rw [if_pos hempty]
    exact if_pos hempty
  rw [if_neg hempty]
  refine (if_neg hempty).trans ?_
  refine (apply_ite (fun read : Except Error Host => read >>= _) (kind = .other) _ _).symm.trans ?_
  refine bind_congr fun host => ?_
  have hpresent : presentHost? host = if host = .domain [] then none else some host := rfl
  simp only [← hpresent, Option.isNone_iff_eq_none]
  by_cases hcolon : presentHost? host = none ∧ rest.head? = some ':'
  · rw [if_pos hcolon, if_pos hcolon]
    rfl
  rw [if_neg hcolon, if_neg hcolon]
  split
  · refine bind_congr fun port => ?_
    split_ifs <;> rfl
  · next hother =>
    rw [readPortMark]
    · refine bind_congr fun port => ?_
      split_ifs <;> rfl
    · exact hother

/-- A step that succeeds has a first part that does. -/
lemma exists_of_bind_eq_ok {ε α β : Type} {x : Except ε α} {f : α → Except ε β} {b : β}
    (h : x >>= f = .ok b) : ∃ a, x = .ok a ∧ f a = .ok b := by
  cases x with
  | error e => cases h
  | ok a => exact ⟨a, rfl, h⟩

/-- A step that succeeds was not stopped by its check. -/
lemma eq_ok_of_guard {ε α : Type} {p : Prop} [Decidable p] {e : ε} {x : Except ε α} {a : α}
    (h : (if p then .error e else x) = .ok a) : x = .ok a := by
  split at h
  · cases h
  · exact h

/-- The parts of a URL whose host was read. -/
lemma exists_of_readHost {kind : Kind} {u url : Url} {hasUser : Bool} {s text rest : List Char}
    (hspan : spanHost kind false s = (text, rest)) (h : readHost kind u hasUser s = .ok url) :
    ∃ host port, kind.readHostText text = .ok host ∧ readPortMark u.scheme rest = .ok port ∧
      url = { u with host := presentHost? host, port := port.1 }.withTail port.2 := by
  rw [readHost_eq hspan] at h
  obtain ⟨host, hhost, h⟩ := exists_of_bind_eq_ok (eq_ok_of_guard h)
  obtain ⟨port, hport, h⟩ := exists_of_bind_eq_ok (eq_ok_of_guard h)
  exact ⟨host, port, hhost, hport, (Except.ok.inj (eq_ok_of_guard h)).symm⟩

/-- With a plain name in the place of the host, the host is that name, and all else is as before. -/
lemma readHost_replace {kind : Kind} {u url : Url} {hasUser : Bool}
    {user host rest name : List Char} (h : HostAt kind user host rest) (hname : IsPlainName name)
    (hread : readHost kind u hasUser (host ++ rest) = .ok url) :
    readHost kind u hasUser (name ++ rest) = .ok { url with host := some (.domain name) } := by
  obtain ⟨found, port, hfound, hport, rfl⟩ := exists_of_readHost rfl hread
  obtain ⟨hhost, hrest⟩ := h.spanHost_eq hfound
  rw [hhost] at hport
  have hplain : spanHost kind false (name ++ rest) = (name, rest) := by
    have hspan := spanHost_append rest fun c hc => ⟨hname.ne_of_mem hc (by decide),
      hname.ne_of_mem hc (by decide), hname.endsAuthority_eq_false kind hc⟩
    rw [hspan, hrest, List.append_nil]
  have hpresent : presentHost? (.domain name) = some (.domain name) :=
    if_neg fun e => hname.ne_nil (Host.domain.inj e)
  rw [readHost_eq hplain, if_neg fun e => hname.ne_nil e.2, readHostText_plain kind hname, hport]
  have hnone : presentHost? (.domain name) ≠ none := by simp [hpresent]
  refine ((if_neg fun e => hnone e.1).trans (if_neg fun e => hnone e.1)).trans ?_
  rw [hpresent]
  rfl

/-! ## User information -/

/-- What stands before the last at sign does not depend on the host after it. -/
lemma exists_readHost_of_user (kind : Kind) (scheme : List Char) {user : List Char}
    (rest : List Char) (huser : user = [] ∨ ∃ name, user = name ++ ['@']) :
    ∃ u hasUser, ∀ host, Fits kind user host rest →
      readAuthority kind scheme (user ++ host ++ rest) =
        readHost kind u hasUser (host ++ rest) := by
  rcases huser with rfl | ⟨name, rfl⟩
  · refine ⟨{ scheme }, false, fun host h => ?_⟩
    have hcut : Text.cutLast? '@' ((host ++ rest).takeWhile fun c => !endsAuthority kind c) =
        none := by
      rw [List.takeWhile_append_of_pos fun c hc => by rw [h.inside c hc]; rfl]
      exact Text.cutLast?_eq_none_iff.2 h.lastAt
    rw [readAuthority, List.nil_append, hcut]
  · let parts := (Text.cutFirst? ':' name).getD (name, [])
    refine ⟨{ scheme, username := parts.1, password := parts.2 }, name ≠ [] && name ≠ [':'],
      fun host h => ?_⟩
    have hp : ∀ c ∈ name ++ ['@'] ++ host, (!endsAuthority kind c) = true := fun c hc => by
      rw [h.inside c hc]
      rfl
    have hcut : Text.cutLast? '@' ((name ++ ['@'] ++ host ++ rest).takeWhile
        fun c => !endsAuthority kind c) =
        some (name, host ++ rest.takeWhile fun c => !endsAuthority kind c) := by
      rw [List.takeWhile_append_of_pos hp]
      exact Text.cutLast?_eq_some_iff.2 ⟨by simp, h.lastAt⟩
    rw [readAuthority, hcut, List.dropWhile_append_of_pos hp]
    refine (if_neg fun e => h.ne_nil (List.append_eq_nil_iff.1 e.2.1).1).trans ?_
    rw [List.append_assoc, List.takeWhile_append_dropWhile]

/-! ## The whole text -/

/-- The scheme that the text before a colon spells. -/
def schemeOf? (lead : List Char) : Option (List Char) :=
  if lead.head?.any Char.isAlpha && lead.all isSchemeChar then some (lead.map Char.toLower)
  else none

/-- Whether a text has a scheme is seen before its first colon. -/
lemma cutScheme?_append {lead : List Char} (hlead : ':' ∉ lead) (rest : List Char) :
    cutScheme? (lead ++ ':' :: rest) = (schemeOf? lead).map fun scheme => (scheme, rest) := by
  have hcolon : isSchemeChar ':' = false := by decide
  cases lead with
  | nil => rfl
  | cons c lead =>
    rw [List.cons_append, cutScheme?, ← List.cons_append, schemeOf?, List.head?_cons,
      Option.any_some]
    cases hc : c.isAlpha with
    | false => rfl
    | true =>
      cases hall : (c :: lead).all isSchemeChar with
      | true =>
        have hp := List.all_eq_true.1 hall
        rw [List.dropWhile_append_of_pos hp, List.takeWhile_append_of_pos hp,
          List.dropWhile_cons_of_neg (by simp [hcolon]),
          List.takeWhile_cons_of_neg (by simp [hcolon]), List.append_nil]
        rfl
      | false =>
        -- the first character that no scheme holds is not the colon
        obtain ⟨d, tail, hd⟩ := List.exists_cons_of_ne_nil (l := (c :: lead).dropWhile isSchemeChar)
          fun e => by simp [List.all_eq_true.2 (List.dropWhile_eq_nil_iff.1 e)] at hall
        have hne : d ≠ ':' := by
          rintro rfl
          exact hlead ((List.dropWhile_suffix isSchemeChar).subset (hd ▸ List.mem_cons_self))
        rw [List.dropWhile_append, hd]
        simp [hne]

/-- Reading a host leaves the scheme alone. -/
lemma scheme_of_readHost {kind : Kind} {u url : Url} {hasUser : Bool} {s : List Char}
    (h : readHost kind u hasUser s = .ok url) : url.scheme = u.scheme := by
  obtain ⟨host, port, -, -, rfl⟩ := exists_of_readHost rfl h
  rfl

/-- Reading an authority leaves the scheme alone. -/
lemma scheme_of_readAuthority {kind : Kind} {scheme s : List Char} {url : Url}
    (h : readAuthority kind scheme s = .ok url) : url.scheme = scheme := by
  rw [readAuthority] at h
  split at h
  · exact scheme_of_readHost h
  · exact scheme_of_readHost (eq_ok_of_guard h)

/-- Reading a file's address leaves the scheme alone. -/
lemma scheme_of_readFile {scheme s : List Char} {url : Url}
    (h : readFile scheme s = .ok url) : url.scheme = scheme := by
  unfold readFile at h
  split at h
  · split at h
    · dsimp only at h
      split_ifs at h
      · cases h; rfl
      · cases h; rfl
      · split at h
        · cases h
        · split_ifs at h <;> (cases h; rfl)
    · cases h; rfl
  · cases h; rfl

/-- A text that can be read has the scheme of its URL. -/
lemma scheme_of_parseSignificant {s : List Char} {url : Url} (h : parseSignificant s = .ok url) :
    ∃ rest, cutScheme? s = some (url.scheme, rest) := by
  rw [parseSignificant] at h
  split at h
  · cases h
  · next scheme rest hcut =>
    have hscheme : url.scheme = scheme := by
      split at h
      · exact scheme_of_readFile h
      · exact scheme_of_readAuthority h
      · split at h
        · exact scheme_of_readAuthority h
        · cases h; rfl
    exact ⟨rest, hscheme ▸ hcut⟩

/-- What does not end the authority of a special scheme is no slash. -/
lemma isSlash_of_endsAuthority {c : Char} (h : endsAuthority .special c = false) :
    isSlash c = false := by
  simp_all [endsAuthority, isSlash]

/-- After `://` stands the authority, unless the scheme is that of files. -/
lemma parseSignificant_authority {lead scheme user host rest : List Char} (hlead : ':' ∉ lead)
    (hscheme : schemeOf? lead = some scheme) (hfile : scheme ≠ "file".toList)
    (h : Fits (kindOf scheme) user host rest) :
    parseSignificant (lead ++ ':' :: '/' :: '/' :: (user ++ host ++ rest)) =
      readAuthority (kindOf scheme) scheme (user ++ host ++ rest) := by
  obtain ⟨c, body, hbody⟩ := List.exists_cons_of_ne_nil (l := user ++ host)
    fun e => h.ne_nil (List.append_eq_nil_iff.1 e).2
  have hc := h.inside c (hbody ▸ List.mem_cons_self)
  rw [parseSignificant, cutScheme?_append hlead, hscheme]
  cases hkind : kindOf scheme with
  | file =>
    rw [kindOf, if_neg hfile] at hkind
    split at hkind <;> cases hkind
  | special =>
    have hslash : isSlash '/' = true := by decide
    have hslashes : ('/' :: '/' :: (user ++ host ++ rest)).dropWhile isSlash =
        user ++ host ++ rest := by
      rw [List.dropWhile_cons_of_pos hslash, List.dropWhile_cons_of_pos hslash, hbody]
      exact List.dropWhile_cons_of_neg (by simp [isSlash_of_endsAuthority (hkind ▸ hc)])
    simp only [Option.map_some, hkind, hslashes]
  | other =>
    have hafter : Text.after? ['/', '/'] ('/' :: '/' :: (user ++ host ++ rest)) =
        some (user ++ host ++ rest) := Text.after?_append ['/', '/'] _
    simp only [Option.map_some, hkind, hafter]

/-- **Replacing the host.** With a plain name in the place of the host, the URL has that host, and
all its other parts are as before. -/
theorem parseSignificant_replace {lead user host rest name : List Char} {url : Url}
    (hlead : ':' ∉ lead) (hname : IsPlainName name) (hfile : url.scheme ≠ "file".toList)
    (hplace : HostAt (kindOf url.scheme) user host rest)
    (h : parseSignificant (lead ++ ':' :: '/' :: '/' :: (user ++ host ++ rest)) = .ok url) :
    parseSignificant (lead ++ ':' :: '/' :: '/' :: (user ++ name ++ rest)) =
      .ok { url with host := some (.domain name) } := by
  obtain ⟨after, hcut⟩ := scheme_of_parseSignificant h
  have hscheme : schemeOf? lead = some url.scheme := by
    rw [cutScheme?_append hlead, Option.map_eq_some_iff] at hcut
    obtain ⟨scheme, hscheme, he⟩ := hcut
    rw [hscheme, (Prod.mk.inj he).1]
  have hfits := hplace.toFits.plain hname
  obtain ⟨u, hasUser, hread⟩ :=
    exists_readHost_of_user (kindOf url.scheme) url.scheme rest hplace.endsInAt
  rw [parseSignificant_authority hlead hscheme hfile hplace.toFits, hread host hplace.toFits] at h
  rw [parseSignificant_authority hlead hscheme hfile hfits, hread name hfits]
  exact readHost_replace hplace hname h

end CommandRelay.Url
