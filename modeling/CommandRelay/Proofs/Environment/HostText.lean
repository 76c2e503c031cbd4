import CommandRelay.Proofs.Environment.Redirection

/-!
# The host in a text

The host of a proxy's URL is found in its text by a scan: for the first `://`, for the end of the
authority, for the last at sign in it, and then for the end of the host.  Every text with a `://`
can be cut at these places, and whether there is a host to replace is read off what stands between
the at sign and the end of the authority.

In a URL that is written plainly the host is found where it was written, whatever at signs, colons,
brackets and further `://` the parts around it hold.  So it can be replaced, and put back.

## Main definitions

* `Proxy.IsFirstMark` — the place of the first `://`.
* `Proxy.Cuts`, `Proxy.Cuts.Of` — a text cut where the scan cuts it.
* `Proxy.LacksHost` — there is no host to replace.
* `Proxy.IsHostText` — a host written plainly.
* `Proxy.PlainUrl` — a URL written plainly around its host.

## Main results

* `Proxy.exists_cuts_iff` — the texts that can be cut.
* `Proxy.Cuts.Of.replaceHost?_eq_map` — replacing the host of a text that is cut.
* `Proxy.replaceHost?_withHost` — replacing the host of a URL written plainly.
* `Proxy.replaceHost?_back` — replacing, putting back, and when there is nothing to replace.
-/

namespace CommandRelay.Proxy

/-! ## The first mark -/

/-- The mark between a scheme and an authority. -/
def schemeMark : List Char := [':', '/', '/']

/-- No mark stands before the end of `scheme`. -/
def IsFirstMark (url scheme : List Char) : Prop :=
  ∀ front back, url = front ++ schemeMark ++ back → scheme.length ≤ front.length

/-- A URL is cut behind the first mark in it. -/
lemma exists_of_cutSchemeMark? {url lead rest : List Char}
    (h : cutSchemeMark? url = some (lead, rest)) :
    ∃ scheme, lead = scheme ++ schemeMark ∧ url = scheme ++ schemeMark ++ rest ∧
      IsFirstMark url scheme := by
  fun_induction cutSchemeMark? url generalizing lead with
  | case1 rest' =>
    cases h
    exact ⟨[], rfl, rfl, fun _ _ _ => Nat.zero_le _⟩
  | case2 c url hmark ih =>
    obtain ⟨p, hp, he⟩ := Option.map_eq_some_iff.1 h
    obtain ⟨rfl, rfl⟩ := Prod.mk.inj he
    obtain ⟨scheme, hlead, hurl, hfirst⟩ := ih hp
    refine ⟨c :: scheme, congrArg (c :: ·) hlead, congrArg (c :: ·) hurl, fun front back hat => ?_⟩
    cases front with
    | nil =>
      obtain ⟨rfl, hback⟩ := List.cons.inj hat
      exact absurd hback (hmark _ rfl)
    | cons d front => exact Nat.succ_le_succ (hfirst front back (List.cons.inj hat).2)
  | case3 => cases h

/-- A URL is not cut just if there is no mark in it. -/
lemma cutSchemeMark?_eq_none_iff {url : List Char} :
    cutSchemeMark? url = none ↔ ¬schemeMark <:+: url := by
  constructor
  · intro h
    fun_induction cutSchemeMark? url with
    | case1 rest => cases h
    | case2 c url hmark ih =>
      rintro hinfix
      rcases List.infix_cons_iff.1 hinfix with ⟨back, hback⟩ | hinfix
      · obtain ⟨rfl, hurl⟩ := List.cons.inj hback
        exact hmark back rfl hurl.symm
      · exact ih (Option.map_eq_none_iff.1 h) hinfix
    | case3 => simp [schemeMark]
  · intro h
    cases hcut : cutSchemeMark? url with
    | none => rfl
    | some p =>
      obtain ⟨scheme, -, hurl, -⟩ := exists_of_cutSchemeMark? hcut
      exact absurd ⟨scheme, p.2, hurl.symm⟩ h

/-- **The first mark** is where a text is cut. -/
lemma cutSchemeMark?_of_isFirstMark {url scheme rest : List Char}
    (hurl : url = scheme ++ schemeMark ++ rest) (hfirst : IsFirstMark url scheme) :
    cutSchemeMark? url = some (scheme ++ schemeMark, rest) := by
  cases hcut : cutSchemeMark? url with
  | none => exact absurd ⟨scheme, rest, hurl.symm⟩ (cutSchemeMark?_eq_none_iff.1 hcut)
  | some p =>
    obtain ⟨scheme', hlead, hurl', hfirst'⟩ := exists_of_cutSchemeMark? hcut
    have hlength : scheme.length = scheme'.length :=
      Nat.le_antisymm (hfirst _ _ hurl') (hfirst' _ _ hurl)
    obtain ⟨hfront, rfl⟩ := List.append_inj (hurl.symm.trans hurl') (by simp [hlength])
    rw [hfront, ← hlead]

/-! ## Cutting the whole text -/

/-- The parts of a text around and behind its first mark. -/
structure Cuts where
  /-- What stands before the mark. -/
  scheme : List Char
  /-- The authority up to its last at sign. -/
  user : List Char
  /-- The rest of the authority. -/
  hostPort : List Char
  /-- What stands behind the authority. -/
  tail : List Char

/-- The parts are those of `url`. -/
structure Cuts.Of (cuts : Cuts) (url : List Char) : Prop where
  text : url = cuts.scheme ++ schemeMark ++ (cuts.user ++ cuts.hostPort ++ cuts.tail)
  first : IsFirstMark url cuts.scheme
  user : cuts.user = [] ∨ ∃ name, cuts.user = name ++ ['@']
  lastAt : '@' ∉ cuts.hostPort
  inside : ∀ c ∈ cuts.user ++ cuts.hostPort, endsAuthority c = false
  tailEnds : ∀ c ∈ cuts.tail.head?, endsAuthority c = true

/-- A user is cut off at the at sign behind it. -/
lemma cutUser_append {user hostPort : List Char} (huser : user = [] ∨ ∃ name, user = name ++ ['@'])
    (hat : '@' ∉ hostPort) : cutUser (user ++ hostPort) = (user, hostPort) := by
  rw [cutUser]
  rcases huser with rfl | ⟨name, rfl⟩
  · rw [List.nil_append, Text.cutLast?_eq_none_iff.2 hat]
  · have hcut : Text.cutLast? '@' (name ++ ['@'] ++ hostPort) = some (name, hostPort) :=
      Text.cutLast?_eq_some_iff.2 ⟨by simp, hat⟩
    rw [hcut]

/-- An authority is read up to what ends it. -/
lemma span_authority {authority tail : List Char}
    (hinside : ∀ c ∈ authority, endsAuthority c = false)
    (htail : ∀ c ∈ tail.head?, endsAuthority c = true) :
    (authority ++ tail).takeWhile (fun c => !endsAuthority c) = authority ∧
      (authority ++ tail).dropWhile (fun c => !endsAuthority c) = tail := by
  have hall : ∀ c ∈ authority, (!endsAuthority c) = true := fun c hc => by rw [hinside c hc]; rfl
  rw [List.takeWhile_append_of_pos hall, List.dropWhile_append_of_pos hall]
  cases tail with
  | nil => simp
  | cons c tail => simp [htail c rfl]

section Of

variable {cuts : Cuts} {url : List Char}

/-- The parts of a text are what the scan finds in it. -/
lemma Cuts.Of.scan (h : cuts.Of url) :
    cutSchemeMark? url =
        some (cuts.scheme ++ schemeMark, cuts.user ++ cuts.hostPort ++ cuts.tail) ∧
      (cuts.user ++ cuts.hostPort ++ cuts.tail).takeWhile (fun c => !endsAuthority c) =
        cuts.user ++ cuts.hostPort ∧
      (cuts.user ++ cuts.hostPort ++ cuts.tail).dropWhile (fun c => !endsAuthority c) = cuts.tail ∧
      cutUser (cuts.user ++ cuts.hostPort) = (cuts.user, cuts.hostPort) := by
  obtain ⟨hauthority, htail⟩ := span_authority h.inside h.tailEnds
  exact ⟨cutSchemeMark?_of_isFirstMark h.text h.first, hauthority, htail,
    cutUser_append h.user h.lastAt⟩

/-- **Replacing the host** of a text that is cut. -/
lemma Cuts.Of.replaceHost?_eq_map (h : cuts.Of url) (replacement : List Char) :
    replaceHost? url replacement = (hostAtFront? cuts.hostPort).map fun host =>
      cuts.scheme ++ schemeMark ++
        (cuts.user ++ (replacement ++ cuts.hostPort.drop host.length) ++ cuts.tail) := by
  obtain ⟨hmark, hauthority, htail, huser⟩ := h.scan
  rw [replaceHost?_eq]
  unfold hostSpan?
  simp only [hmark, Option.bind_eq_bind, Option.bind_some, hauthority, htail, huser]
  cases hostAtFront? cuts.hostPort with
  | none => rfl
  | some host => simp [HostSpan.withHost]

end Of

/-- A text with a mark can be cut. -/
lemma exists_cuts_iff {url : List Char} : (∃ cuts : Cuts, cuts.Of url) ↔ schemeMark <:+: url := by
  constructor
  · rintro ⟨cuts, h⟩
    exact ⟨cuts.scheme, _, h.text.symm⟩
  · intro h
    obtain ⟨⟨lead, rest⟩, hcut⟩ :=
      Option.ne_none_iff_exists'.1 (mt cutSchemeMark?_eq_none_iff.1 (not_not_intro h))
    obtain ⟨scheme, -, hurl, hfirst⟩ := exists_of_cutSchemeMark? hcut
    obtain ⟨hauthority, hat, huser⟩ := cutUser_spec (rest.takeWhile fun c => !endsAuthority c)
    refine ⟨⟨scheme, _, _, rest.dropWhile fun c => !endsAuthority c⟩, {
      text := by rw [← hauthority, List.takeWhile_append_dropWhile, hurl]
      first := hfirst
      user := huser
      lastAt := hat
      inside := fun c hc => by
        rw [← hauthority] at hc
        simpa using List.mem_takeWhile_imp hc
      tailEnds := fun c hc => by simpa using Url.eq_false_of_mem_head?_dropWhile hc }⟩

/-! ## When there is no host -/

/-- What stands between the at sign and the end of the authority has no host: nothing is there
before a colon or at all, or a bracket opens there that does not close. -/
def LacksHost (hostPort : List Char) : Prop :=
  hostPort = [] ∨ hostPort.head? = some ':' ∨ hostPort.head? = some '[' ∧ ']' ∉ hostPort

/-- No host is found just if there is none. -/
lemma hostAtFront?_eq_none_iff {hostPort : List Char} :
    hostAtFront? hostPort = none ↔ LacksHost hostPort := by
  cases hostPort with
  | nil => simp [hostAtFront?, LacksHost]
  | cons c rest =>
    by_cases hopen : c = '['
    · subst hopen
      rw [hostAtFront?, Option.map_eq_none_iff, Text.cutFirst?_eq_none_iff]
      simp [LacksHost]
    · have htake : hostAtFront? (c :: rest) = none ↔ (c :: rest).takeWhile (· ≠ ':') = [] := by
        unfold hostAtFront?
        split
        · next h => exact absurd (List.cons.inj h).1 hopen
        · split <;> simp_all
      rw [htake]
      by_cases hcolon : c = ':' <;> simp [LacksHost, hopen, hcolon]

/-- **Nothing to replace.** -/
lemma replaceHost?_eq_none_iff {url replacement : List Char} :
    replaceHost? url replacement = none ↔
      ¬schemeMark <:+: url ∨ ∃ cuts : Cuts, cuts.Of url ∧ LacksHost cuts.hostPort := by
  constructor
  · intro h
    by_cases hmark : schemeMark <:+: url
    · obtain ⟨cuts, hcuts⟩ := exists_cuts_iff.2 hmark
      rw [hcuts.replaceHost?_eq_map, Option.map_eq_none_iff] at h
      exact .inr ⟨cuts, hcuts, hostAtFront?_eq_none_iff.1 h⟩
    · exact .inl hmark
  · rintro (hmark | ⟨cuts, hcuts, hlacks⟩)
    · rw [replaceHost?_eq]
      unfold hostSpan?
      rw [cutSchemeMark?_eq_none_iff.2 hmark]
      rfl
    · rw [hcuts.replaceHost?_eq_map, hostAtFront?_eq_none_iff.2 hlacks, Option.map_none]

/-! ## URLs written plainly -/

/-- A host written plainly: a name without a colon, or anything in one pair of brackets. -/
inductive IsHostText : List Char → Prop
  | name {host : List Char} (ne_nil : host ≠ []) (unopened : host.head? ≠ some '[')
      (unmarked : ∀ c ∈ host, endsAuthority c = false ∧ c ≠ '@' ∧ c ≠ ':') : IsHostText host
  | bracketed {inside : List Char}
      (unmarked : ∀ c ∈ inside, endsAuthority c = false ∧ c ≠ '@' ∧ c ≠ ']') :
      IsHostText ('[' :: inside ++ [']'])

/-- A URL written plainly, but for its host: a scheme, user information, a port and what stands
behind the authority.  All but the scheme can be left out. -/
structure PlainUrl where
  scheme : List Char
  user? : Option (List Char)
  port? : Option (List Char)
  tail : List Char
  noColon : ':' ∉ scheme
  user_inside : ∀ user ∈ user?, ∀ c ∈ user, endsAuthority c = false
  port_digits : ∀ port ∈ port?, ∀ c ∈ port, c.isDigit = true
  tail_ends : ∀ c ∈ tail.head?, endsAuthority c = true

namespace PlainUrl

variable (u : PlainUrl)

/-- The user information with its at sign. -/
def userText : List Char := u.user?.elim [] (· ++ ['@'])

/-- The port with its colon. -/
def portText : List Char := u.port?.elim [] (':' :: ·)

/-- The text of the URL with a host. -/
def withHost (host : List Char) : List Char :=
  u.scheme ++ schemeMark ++ (u.userText ++ (host ++ u.portText) ++ u.tail)

/-- The text with a host, cut. -/
def cuts (host : List Char) : Cuts := ⟨u.scheme, u.userText, host ++ u.portText, u.tail⟩

end PlainUrl

/-- Nothing in a host ends the authority or the user information. -/
lemma IsHostText.unmarked {host : List Char} (h : IsHostText host) :
    ∀ c ∈ host, endsAuthority c = false ∧ c ≠ '@' := by
  cases h with
  | name _ _ hmarks => exact fun c hc => ⟨(hmarks c hc).1, (hmarks c hc).2.1⟩
  | bracketed hmarks =>
    intro c hc
    rw [List.mem_append, List.mem_cons, List.mem_singleton] at hc
    rcases hc with (rfl | hc) | rfl
    · decide
    · exact ⟨(hmarks c hc).1, (hmarks c hc).2.1⟩
    · decide

/-- A host written plainly is what the scan finds before a port or the end. -/
lemma hostAtFront?_append {host port : List Char} (h : IsHostText host)
    (hport : ∀ c ∈ port.head?, c = ':') : hostAtFront? (host ++ port) = some host := by
  cases h with
  | name hne hopen hmarks =>
    have hall : ∀ c ∈ host, (decide (c ≠ ':')) = true := fun c hc =>
      decide_eq_true (hmarks c hc).2.2
    have hstop : port.takeWhile (· ≠ ':') = [] := by
      cases port with
      | nil => rfl
      | cons c port => simp [hport c rfl]
    have htake : (host ++ port).takeWhile (· ≠ ':') = host := by
      rw [List.takeWhile_append_of_pos hall, hstop, List.append_nil]
    obtain ⟨c, host, rfl⟩ := List.exists_cons_of_ne_nil hne
    unfold hostAtFront?
    split
    · next heq => exact absurd (congrArg some (List.cons.inj heq).1) hopen
    · simp only [htake]
  | @bracketed inside hmarks =>
    have hclose : ']' ∉ '[' :: inside := by
      rw [List.mem_cons, not_or]
      exact ⟨by decide, fun hc => (hmarks _ hc).2.2 rfl⟩
    have hcut : Text.cutFirst? ']' ('[' :: (inside ++ [']'] ++ port)) =
        some ('[' :: inside, port) := Text.cutFirst?_eq_some_iff.2 ⟨by simp, hclose⟩
    change (Text.cutFirst? ']' ('[' :: (inside ++ [']'] ++ port))).map _ = _
    rw [hcut]
    rfl

namespace PlainUrl

variable (u : PlainUrl) {host : List Char}

/-- Nothing in a port ends the authority or the user information. -/
lemma portText_unmarked : ∀ c ∈ u.portText, endsAuthority c = false ∧ c ≠ '@' := by
  intro c hc
  cases hport : u.port? with
  | none => simp [portText, hport] at hc
  | some port =>
    rw [portText, hport] at hc
    rcases List.mem_cons.1 hc with rfl | hc
    · decide
    · have hdigit : c.isDigit = true := u.port_digits port hport c hc
      have hne : ∀ d, d.isDigit = false → c ≠ d := by
        rintro d hd rfl
        simp [hdigit] at hd
      simp [endsAuthority, hne '/' rfl, hne '?' rfl, hne '#' rfl, hne '@' rfl]

/-- A port starts with its colon. -/
lemma head?_portText : ∀ c ∈ u.portText.head?, c = ':' := by
  rw [portText]
  cases u.port? <;> simp

/-- The mark behind the scheme is the first one. -/
lemma isFirstMark (host : List Char) : IsFirstMark (u.withHost host) u.scheme := by
  intro front back hurl
  rw [withHost, List.append_assoc u.scheme, List.append_assoc front] at hurl
  rcases List.append_eq_append_iff.1 hurl with ⟨later, rfl, -⟩ | ⟨inside, hscheme, hmark⟩
  · simp
  · cases inside with
    | nil => simp [hscheme]
    | cons c inside =>
      obtain rfl : ':' = c := (List.cons.inj hmark).1
      exact absurd (by simp [hscheme]) u.noColon

/-- **A URL written plainly** is cut where its parts end. -/
lemma cuts_of (h : IsHostText host) : (u.cuts host).Of (u.withHost host) where
  text := rfl
  first := u.isFirstMark host
  user := by
    simp only [cuts, userText]
    cases u.user? with
    | none => exact .inl rfl
    | some user => exact .inr ⟨user, rfl⟩
  lastAt hat := by
    rcases List.mem_append.1 hat with hat | hat
    · exact (h.unmarked _ hat).2 rfl
    · exact (u.portText_unmarked _ hat).2 rfl
  inside c hc := by
    rcases List.mem_append.1 hc with hc | hc
    · simp only [cuts, userText] at hc
      cases huser : u.user? with
      | none => simp [huser] at hc
      | some user =>
        rw [huser] at hc
        rcases List.mem_append.1 hc with hc | hc
        · exact u.user_inside user huser c hc
        · rw [List.mem_singleton.1 hc]
          decide
    · rcases List.mem_append.1 hc with hc | hc
      · exact (h.unmarked c hc).1
      · exact (u.portText_unmarked c hc).1
  tailEnds := u.tail_ends

end PlainUrl

/-- **Replacing a host written plainly** replaces it and nothing else. -/
lemma replaceHost?_withHost (u : PlainUrl) {host : List Char} (h : IsHostText host)
    (replacement : List Char) :
    replaceHost? (u.withHost host) replacement = some (u.withHost replacement) := by
  have hfront : hostAtFront? (u.cuts host).hostPort = some host :=
    hostAtFront?_append h u.head?_portText
  have hdrop : (u.cuts host).hostPort.drop host.length = u.portText := List.drop_left
  rw [(u.cuts_of h).replaceHost?_eq_map, hfront, Option.map_some, hdrop]
  rfl

/-- **Replacing and putting back.** In a URL written plainly the host is replaced, whatever the
parts around it are and whatever it is replaced by, and where the new host is written plainly too,
the old one can be put back.  There is nothing to replace in a text just if it has no `://`, or
nothing stands where the host is looked for, or a bracket opens there and does not close before the
end of the authority.

**Proof sketch.** A text with a `://` can be cut at the first one, behind the last at sign of its
authority and at its end, and the scan finds these parts.  A plain URL is cut between the parts that
it is written in: its scheme has no colon, its user information takes all at signs, and neither host
nor port ends the authority. -/
theorem replaceHost?_back :
    (∀ (u : PlainUrl) (host replacement : List Char), IsHostText host →
      replaceHost? (u.withHost host) replacement = some (u.withHost replacement) ∧
      (IsHostText replacement →
        (replaceHost? (u.withHost host) replacement).bind (replaceHost? · host) =
          some (u.withHost host))) ∧
    ∀ url replacement, replaceHost? url replacement = none ↔
      ¬schemeMark <:+: url ∨ ∃ cuts : Cuts, cuts.Of url ∧ LacksHost cuts.hostPort := by
  refine ⟨fun u host replacement hhost => ?_, fun url replacement => replaceHost?_eq_none_iff⟩
  have hthere := replaceHost?_withHost u hhost replacement
  refine ⟨hthere, fun hreplacement => ?_⟩
  rw [hthere, Option.bind_some]
  exact replaceHost?_withHost u hreplacement host

/-- Brackets around colons, between user information with an at sign and a tail with another URL.

**Proof sketch.** The URL is a plain one with user information, a port and a tail, around a host in
brackets.  The theorem, applied to it and to the two hosts, gives both replacements. -/
theorem replaceHost?_back_bracketed :
    replaceHost? "socks5://me:p@w@[::1]:1080/x?at=a@b://c]".toList "gw".toList =
        some "socks5://me:p@w@gw:1080/x?at=a@b://c]".toList ∧
      replaceHost? "socks5://me:p@w@gw:1080/x?at=a@b://c]".toList "[::1]".toList =
        some "socks5://me:p@w@[::1]:1080/x?at=a@b://c]".toList := by
  let u : PlainUrl := {
    scheme := "socks5".toList
    user? := some "me:p@w".toList
    port? := some "1080".toList
    tail := "/x?at=a@b://c]".toList
    noColon := by decide
    user_inside := by
      rintro _ ⟨⟩
      simp [endsAuthority]
    port_digits := by
      rintro _ ⟨⟩
      simp
    tail_ends := by
      rintro _ ⟨⟩
      decide }
  have hbrackets : IsHostText "[::1]".toList := by
    have hmarks : ∀ c ∈ "::1".toList, endsAuthority c = false ∧ c ≠ '@' ∧ c ≠ ']' := by
      simp [endsAuthority]
    exact .bracketed hmarks
  have hname : IsHostText "gw".toList :=
    .name (by decide) (by decide) (by simp [endsAuthority])
  obtain ⟨hthere, hback⟩ := replaceHost?_back.1 u "[::1]".toList "gw".toList hbrackets
  refine ⟨hthere, ?_⟩
  have hboth := hback hname
  rw [hthere] at hboth
  exact hboth

end CommandRelay.Proxy
