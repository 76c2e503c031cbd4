import CommandRelay.Environment.Proxy
import CommandRelay.Proofs.Url.Trimming

/-!
# Redirecting a proxy

Whether a proxy is redirected is decided by the host that the URL parser reads, but the host that
is replaced is found by a scan of the text.  Where the two agree on the place of the host, the
redirected URL has the new host and is otherwise as before.  They disagree on texts that the parser
tolerates and the scan does not: slashes left out after the scheme, so that the first `://` comes
later, and backslashes, which end the authority for the parser alone.

## Main definitions

* `Proxy.HostSpan`, `Proxy.hostSpan?` — a text cut around the host that the scan finds.
* `Proxy.Recognised` — the hosts that are replaced in each direction.
* `Proxy.HostSpan.Agrees` — the scan finds the host where the parser reads it.

## Main results

* `Proxy.redirect_host` — what redirecting does to the URL that is read.
* `Proxy.redirect_laterMark` — a loopback that stays one, the first `://` being in the query.
-/

namespace CommandRelay.Proxy

/-! ## The host that the scan finds -/

/-- A text cut around a host. -/
structure HostSpan where
  /-- All up to and with `://`. -/
  scheme : List Char
  /-- The user information with its at sign, if there is any. -/
  user : List Char
  host : List Char
  rest : List Char

/-- The text of a span with another host. -/
def HostSpan.withHost (span : HostSpan) (host : List Char) : List Char :=
  span.scheme ++ span.user ++ host ++ span.rest

/-- The user information of an authority with its at sign, and what follows it. -/
def cutUser (authority : List Char) : List Char × List Char :=
  match Text.cutLast? '@' authority with
  | some (user, hostPort) => (user ++ ['@'], hostPort)
  | none => ([], authority)

/-- The text cut around the host that is replaced in it. -/
def hostSpan? (url : List Char) : Option HostSpan := do
  let (scheme, rest) ← cutSchemeMark? url
  let (user, hostPort) := cutUser (rest.takeWhile fun c => !endsAuthority c)
  let tail := rest.dropWhile fun c => !endsAuthority c
  let host ← hostAtFront? hostPort
  some { scheme, user, host, rest := hostPort.drop host.length ++ tail }

/-- The host is replaced where it is found. -/
lemma replaceHost?_eq (url replacement : List Char) :
    replaceHost? url replacement = (hostSpan? url).map fun span => span.withHost replacement := by
  unfold replaceHost? hostSpan?
  cases cutSchemeMark? url with
  | none => rfl
  | some p =>
    change (hostAtFront? (cutUser _).2).bind _ = Option.map _ ((hostAtFront? (cutUser _).2).bind _)
    cases hostAtFront? (cutUser (p.2.takeWhile fun c => !endsAuthority c)).2 with
    | none => rfl
    | some host => exact congrArg some (List.append_assoc ..)

/-! ## What the scan finds -/

/-- What is cut off in front of a URL ends in the mark. -/
lemma cutSchemeMark?_spec {url scheme rest : List Char}
    (h : cutSchemeMark? url = some (scheme, rest)) :
    url = scheme ++ rest ∧ ∃ lead, scheme = lead ++ [':', '/', '/'] := by
  fun_induction cutSchemeMark? url generalizing scheme with
  | case1 rest' =>
    cases h
    exact ⟨rfl, [], rfl⟩
  | case2 c url hmark ih =>
    obtain ⟨p, hp, he⟩ := Option.map_eq_some_iff.1 h
    obtain ⟨rfl, rfl⟩ := Prod.mk.inj he
    obtain ⟨hurl, lead, hlead⟩ := ih hp
    exact ⟨congrArg (c :: ·) hurl, c :: lead, congrArg (c :: ·) hlead⟩
  | case3 => cases h

/-- What is cut off in front of an authority is nothing or goes up to its last at sign. -/
lemma cutUser_spec (authority : List Char) :
    authority = (cutUser authority).1 ++ (cutUser authority).2 ∧ '@' ∉ (cutUser authority).2 ∧
      ((cutUser authority).1 = [] ∨ ∃ name, (cutUser authority).1 = name ++ ['@']) := by
  unfold cutUser
  split
  · next user hostPort hcut =>
    obtain ⟨rfl, hat⟩ := Text.cutLast?_eq_some_iff.1 hcut
    exact ⟨by simp, hat, .inr ⟨user, rfl⟩⟩
  · next hcut => exact ⟨rfl, Text.cutLast?_eq_none_iff.1 hcut, .inl rfl⟩

/-- A host that is found stands in brackets or goes up to a colon.

**Proof sketch.** With a bracket at the start the host is cut off behind the first closing one.
Without it the host is what comes before the first colon, so that it has no colon itself and a colon
follows it, if anything does. -/
lemma hostAtFront?_spec {hostPort host : List Char} (h : hostAtFront? hostPort = some host) :
    ∃ port, hostPort = host ++ port ∧
      ((∃ inside, host = '[' :: inside ++ [']'] ∧ ']' ∉ inside) ∨
        host.head? ≠ some '[' ∧ ':' ∉ host ∧ ∀ c ∈ port.head?, c = ':') := by
  unfold hostAtFront? at h
  split at h
  · next after =>
    obtain ⟨⟨before, port⟩, hcut, rfl⟩ := Option.map_eq_some_iff.1 h
    obtain ⟨hsplit, hclose⟩ := Text.cutFirst?_eq_some_iff.1 hcut
    cases before with
    | nil => cases hsplit
    | cons c inside =>
      obtain ⟨rfl, hafter⟩ := List.cons.inj hsplit
      refine ⟨port, by simp [hafter], .inl ⟨inside, rfl, ?_⟩⟩
      exact fun hc => hclose (List.mem_cons_of_mem _ hc)
  · next hopen =>
    have hhost : hostPort.takeWhile (· ≠ ':') = host := by
      split at h
      · cases h
      · exact Option.some.inj h
    have hsplit := List.takeWhile_append_dropWhile (p := (· ≠ ':')) (l := hostPort)
    rw [hhost] at hsplit
    -- without a bracket the host ends at the first colon
    refine ⟨hostPort.dropWhile (· ≠ ':'), hsplit.symm, .inr ⟨?_, ?_, ?_⟩⟩
    · intro hhead
      cases host with
      | nil => cases hhead
      | cons c rest => exact hopen _ (hsplit.symm.trans (by rw [Option.some.inj hhead]; rfl))
    · intro hc
      rw [← hhost] at hc
      simpa using List.mem_takeWhile_imp hc
    · intro c hc
      simpa using Url.eq_false_of_mem_head?_dropWhile hc

/-- A span of a text, cut at a `://`, at the last at sign of the authority and behind the host.
After the host the authority goes on with `port`, and then comes `tail`. -/
structure HostSpan.CutsAt (span : HostSpan) (url port tail : List Char) : Prop where
  text : url = span.withHost span.host
  rest : span.rest = port ++ tail
  scheme : ∃ lead, span.scheme = lead ++ [':', '/', '/']
  user : span.user = [] ∨ ∃ name, span.user = name ++ ['@']
  lastAt : '@' ∉ span.host ++ port
  tailEnds : ∀ c ∈ tail.head?, endsAuthority c = true
  shape : (∃ inside, span.host = '[' :: inside ++ [']'] ∧ ']' ∉ inside) ∨
    span.host.head? ≠ some '[' ∧ ':' ∉ span.host ∧ ∀ c ∈ port.head?, c = ':'

/-- A span that is found cuts the URL. -/
lemma hostSpan?_spec {url : List Char} {span : HostSpan} (h : hostSpan? url = some span) :
    ∃ port tail, span.CutsAt url port tail := by
  unfold hostSpan? at h
  obtain ⟨⟨scheme, rest⟩, hscheme, h⟩ := Option.bind_eq_some_iff.1 h
  dsimp only at h
  generalize hcut : cutUser (rest.takeWhile fun c => !endsAuthority c) = cut at h
  obtain ⟨host, hhost, h⟩ := Option.bind_eq_some_iff.1 h
  cases h
  obtain ⟨rfl, hlead⟩ := cutSchemeMark?_spec hscheme
  obtain ⟨huser, hat, hname⟩ := cutUser_spec (rest.takeWhile fun c => !endsAuthority c)
  obtain ⟨port, hport, hshape⟩ := hostAtFront?_spec hhost
  have hdrop : cut.2.drop host.length = port := by rw [hport, List.drop_left]
  rw [hcut] at huser hat hname
  refine ⟨port, rest.dropWhile fun c => !endsAuthority c, {
    text := ?_
    rest := congrArg (· ++ _) hdrop
    scheme := hlead
    user := hname
    lastAt := hport ▸ hat
    tailEnds := fun c hc => by simpa using Url.eq_false_of_mem_head?_dropWhile hc
    shape := hshape }⟩
  calc scheme ++ rest
    _ = scheme ++ (cut.1 ++ cut.2 ++ rest.dropWhile fun c => !endsAuthority c) := by
      rw [← huser, List.takeWhile_append_dropWhile]
    _ = _ := by simp [HostSpan.withHost, hport]

/-! ## Where scan and parser agree -/

/-- The scan finds the host where the parser reads it: the first colon is that of the first `://`,
nothing in the user information or the host ends the authority for the parser, the host holds more
than characters that do not count, and a bracket opens at its start if at all. -/
structure HostSpan.Agrees (kind : Url.Kind) (span : HostSpan) : Prop where
  scheme : ∃ lead, ':' ∉ lead ∧ span.scheme = lead ++ [':', '/', '/']
  inside : ∀ c ∈ span.user ++ span.host, Url.endsAuthority kind c = false
  visible : ∃ c ∈ span.host, Url.isControlOrSpace c = false
  bracket : span.host.head? = some '[' ∨ '[' ∉ span.host

/-- The parser ends the authority wherever the scan does. -/
lemma endsAuthority_of_scan {kind : Url.Kind} {c : Char} (h : endsAuthority c = true) :
    Url.endsAuthority kind c = true := by
  simp only [endsAuthority, Bool.or_eq_true, decide_eq_true_eq] at h
  simp only [Url.endsAuthority, Bool.or_eq_true, decide_eq_true_eq]
  exact .inl h

/-- What is taken of a text goes no further than a character that stops it. -/
lemma takeWhile_append_subset {p : Char → Bool} {s t : List Char}
    (ht : ∀ c ∈ t.head?, p c = false) : (s ++ t).takeWhile p ⊆ s := by
  rw [List.takeWhile_append]
  split
  · cases t with
    | nil => simp
    | cons c t => simp [ht c rfl]
  · exact (List.takeWhile_prefix p).subset

/-- Where the scan and the parser agree, the host that is found is the parser's. -/
lemma HostSpan.Agrees.hostAt {kind : Url.Kind} {span : HostSpan} {url port tail : List Char}
    (h : span.Agrees kind) (hcut : span.CutsAt url port tail) :
    Url.HostAt kind span.user span.host span.rest where
  ne_nil := by
    obtain ⟨c, hc, -⟩ := h.visible
    exact List.ne_nil_of_mem hc
  inside := h.inside
  lastAt hat := by
    have hport : (span.rest.takeWhile fun c => !Url.endsAuthority kind c) ⊆ port := by
      rw [hcut.rest]
      exact takeWhile_append_subset fun c hc => by simp [endsAuthority_of_scan (hcut.tailEnds c hc)]
    rcases List.mem_append.1 hat with hat | hat
    · exact hcut.lastAt (List.mem_append_left _ hat)
    · exact hcut.lastAt (List.mem_append_right _ (hport hat))
  endsInAt := hcut.user
  shape := by
    rcases hcut.shape with hbracket | ⟨hopen, hcolon, hport⟩
    · exact .inr hbracket
    · refine .inl ⟨h.bracket.resolve_left hopen, hcolon, ?_⟩
      rw [hcut.rest]
      cases hp : port with
      | nil => exact fun c hc => .inr (endsAuthority_of_scan (hcut.tailEnds c hc))
      | cons d port' => exact fun c hc => .inl (hport c (hp ▸ hc))

/-- With a plain name for the host of a span where scan and parser agree, the URL has that host, and
all its other parts are as before. -/
lemma HostSpan.Agrees.parse_withHost {url : Url} {span : HostSpan} {text port tail name : List Char}
    (h : span.Agrees (Url.kindOf url.scheme)) (hcut : span.CutsAt text port tail)
    (hname : Url.IsPlainName name) (hfile : url.scheme ≠ "file".toList)
    (hparse : Url.parse text = .ok url) :
    Url.parse (span.withHost name) = .ok { url with host := some (.domain name) } := by
  obtain ⟨lead, hlead, hscheme⟩ := h.scheme
  have hwith : ∀ host, span.withHost host =
      lead ++ ':' :: '/' :: '/' :: (span.user ++ (host ++ span.rest)) := fun host => by
    simp [HostSpan.withHost, hscheme]
  rw [hcut.text, hwith] at hparse
  rw [hwith]
  exact Url.parse_replace hlead hname hfile (h.hostAt hcut) h.visible hparse

/-! ## Recognised hosts -/

/-- The hosts that are replaced: the loopback on the way to the foreign side, and the gateway on
the way back. -/
def Recognised (gateway : String) : Direction → Url.Host → Prop
  | .toForeign, host => bareHost host ∈ loopbackHosts
  | .toLocal, host => Text.sameIgnoringAsciiCase (String.ofList (bareHost host)) gateway = true

/-- What a recognised host is replaced by. -/
def target (gateway : String) : Direction → List Char
  | .toForeign => gateway.toList
  | .toLocal => "localhost".toList

/-- A host that is recognised is replaced by the target. -/
lemma replacement?_of_recognised {gateway : String} {direction : Direction} {host : Url.Host}
    (h : Recognised gateway direction host) :
    replacement? gateway direction (bareHost host) = some (target gateway direction) := by
  cases direction with
  | toForeign =>
    have hany : (loopbackHosts.any fun name => name = bareHost host) = true :=
      List.any_eq_true.2 ⟨_, h, decide_eq_true rfl⟩
    rw [replacement?, if_pos hany]
    rfl
  | toLocal =>
    rw [Recognised] at h
    rw [replacement?, if_pos h]
    rfl

/-- A host that is not recognised is not replaced. -/
lemma replacement?_of_not_recognised {gateway : String} {direction : Direction} {host : Url.Host}
    (h : ¬Recognised gateway direction host) :
    replacement? gateway direction (bareHost host) = none := by
  cases direction with
  | toForeign =>
    have hany : ¬(loopbackHosts.any fun name => name = bareHost host) = true := by
      intro hany
      obtain ⟨name, hname, he⟩ := List.any_eq_true.1 hany
      rw [of_decide_eq_true he] at hname
      exact h hname
    rw [replacement?, if_neg hany]
  | toLocal =>
    rw [Recognised] at h
    rw [replacement?, if_neg h]

/-- A plain name stands without brackets. -/
lemma bareHost_plain {name : List Char} (h : Url.IsPlainName name) :
    bareHost (.domain name) = name := by
  have hdrop : ∀ s ⊆ name, ∀ d ∈ ['[', ']'], s.dropWhile (· == d) = s := by
    intro s hs d hd
    cases s with
    | nil => rfl
    | cons c s =>
      have hc : c ≠ d := h.ne_of_mem (hs List.mem_cons_self) (by
        rcases List.mem_pair.1 hd with rfl | rfl <;> decide)
      exact List.dropWhile_cons_of_neg (by simpa using hc)
  rw [bareHost, Url.Host.display, Text.dropLeading, hdrop name (List.Subset.refl _) '[' (by decide),
    Text.dropTrailing, hdrop name.reverse (fun c hc => List.mem_reverse.1 hc) ']' (by decide),
    List.reverse_reverse]

/-- Both targets are plain names. -/
lemma isPlainName_target {gateway : String} (h : Url.IsPlainName gateway.toList)
    (direction : Direction) : Url.IsPlainName (target gateway direction) := by
  cases direction with
  | toForeign => exact h
  | toLocal => exact Url.isPlainName_localhost

/-! ## Redirecting -/

/-- A value that is redirected is a URL, and it is either kept or given another host.

**Proof sketch.** The value is parsed, or there is nothing to redirect.  If its host is recognised,
it has a replacement, and then a span has been found in the value, as the result would otherwise be
an error.  If it is not, there is no replacement, and the value comes back. -/
lemma redirect_ok {gateway value out : String} {direction : Direction}
    (h : redirect gateway direction value = .ok out) :
    ∃ url, Url.parse value.toList = .ok url ∧
      ((∀ host ∈ url.host, ¬Recognised gateway direction host) ∧ out = value ∨
        (∃ host ∈ url.host, Recognised gateway direction host) ∧
          ∃ span, hostSpan? value.toList = some span ∧
            out.toList = span.withHost (target gateway direction)) := by
  obtain ⟨chars, hchars, rfl⟩ : ∃ chars, redirectChars gateway direction value.toList = .ok chars ∧
      String.ofList chars = out := by
    rw [redirect] at h
    cases hchars : redirectChars gateway direction value.toList with
    | error e =>
      rw [hchars] at h
      cases h
    | ok chars =>
      rw [hchars] at h
      exact ⟨chars, rfl, Except.ok.inj h⟩
  rw [redirectChars] at hchars
  cases hparse : Url.parse value.toList with
  | error e =>
    rw [hparse] at hchars
    cases hchars
  | ok url =>
    rw [hparse] at hchars
    dsimp only at hchars
    refine ⟨url, rfl, ?_⟩
    by_cases hrecognised : ∃ host ∈ url.host, Recognised gateway direction host
    · refine .inr ⟨hrecognised, ?_⟩
      obtain ⟨host, hhost, hrec⟩ := hrecognised
      rw [Option.mem_def.1 hhost, Option.bind_some, replacement?_of_recognised hrec] at hchars
      dsimp only at hchars
      rw [replaceHost?_eq] at hchars
      cases hspan : hostSpan? value.toList with
      | none =>
        rw [hspan] at hchars
        cases hchars
      | some span =>
        rw [hspan] at hchars
        cases hchars
        exact ⟨span, rfl, String.toList_ofList⟩
    · have hnone : ∀ host ∈ url.host, ¬Recognised gateway direction host := fun host hhost hrec =>
        hrecognised ⟨host, hhost, hrec⟩
      have hkeep : (url.host.bind fun host => replacement? gateway direction (bareHost host)) =
          none := Option.bind_eq_none_iff.2 fun host hhost =>
        replacement?_of_not_recognised (hnone host hhost)
      rw [hkeep] at hchars
      cases hchars
      exact .inl ⟨hnone, String.ofList_toList⟩

/-- **Redirecting.** A value whose host is not recognised stays as it is, and in one whose host is
recognised the host that the scan finds is replaced.  Where scan and parser agree on the place of
the host, the URL that is read afterwards has the new host and is otherwise as before; so what goes
to the foreign side names no loopback.

**Proof sketch.** By `redirect_ok` the value is kept or the host that the scan finds is replaced.
In the second case the span cuts the value, and where scan and parser agree, parsing the spliced
text gives the same URL with the target as its host (`HostSpan.Agrees.parse_withHost`).  Towards the
foreign side a kept value has no loopback because none was recognised, and a new host is the
gateway. -/
theorem redirect_host {gateway value out : String} {direction : Direction}
    (hname : Url.IsPlainName gateway.toList) (hgateway : gateway.toList ∉ loopbackHosts)
    (h : redirect gateway direction value = .ok out) :
    ∃ url, Url.parse value.toList = .ok url ∧
      ((∀ host ∈ url.host, ¬Recognised gateway direction host) ∧ out = value ∨
        (∃ host ∈ url.host, Recognised gateway direction host) ∧
          ∃ span, hostSpan? value.toList = some span ∧
            out.toList = span.withHost (target gateway direction) ∧
            (url.scheme ≠ "file".toList → span.Agrees (Url.kindOf url.scheme) →
              Url.parse out.toList =
                .ok { url with host := some (.domain (target gateway direction)) })) ∧
      (direction = .toForeign → url.scheme ≠ "file".toList →
        (∀ span, hostSpan? value.toList = some span → span.Agrees (Url.kindOf url.scheme)) →
          ∃ url', Url.parse out.toList = .ok url' ∧
            ∀ host ∈ url'.host, bareHost host ∉ loopbackHosts) := by
  obtain ⟨url, hparse, ⟨hnone, rfl⟩ | ⟨hrecognised, span, hspan, hout⟩⟩ := redirect_ok h
  · refine ⟨url, hparse, .inl ⟨hnone, rfl⟩, ?_⟩
    rintro rfl - -
    exact ⟨url, hparse, hnone⟩
  · have hreplaced (hfile : url.scheme ≠ "file".toList)
        (hagrees : span.Agrees (Url.kindOf url.scheme)) : Url.parse out.toList =
          .ok { url with host := some (.domain (target gateway direction)) } := by
      obtain ⟨port, tail, hcut⟩ := hostSpan?_spec hspan
      rw [hout]
      exact hagrees.parse_withHost hcut (isPlainName_target hname direction) hfile hparse
    refine ⟨url, hparse, .inr ⟨hrecognised, span, hspan, hout, hreplaced⟩, ?_⟩
    rintro rfl hfile hagrees
    refine ⟨_, hreplaced hfile (hagrees span hspan), ?_⟩
    rintro host hhost
    rw [← Option.some.inj hhost, bareHost_plain (isPlainName_target hname .toForeign)]
    exact hgateway

/-- A loopback between brackets, with user information before it and a port and a path after it.

**Proof sketch.** Redirecting, parsing and the scan are computed for this value, and the scan agrees
with the parser.  The theorem then gives the URL that is read afterwards; its first case is
impossible, since the host is recognised. -/
theorem redirect_host_ipv6 :
    Url.IsPlainName "gw.internal".toList ∧ "gw.internal".toList ∉ loopbackHosts ∧
      redirect "gw.internal" .toForeign "http://me:pw@[::1]:3128/x" =
        .ok "http://me:pw@gw.internal:3128/x" ∧
      ∃ url, Url.parse "http://me:pw@[::1]:3128/x".toList = .ok url ∧
        Url.parse "http://me:pw@gw.internal:3128/x".toList =
          .ok { url with host := some (.domain "gw.internal".toList) } := by
  have hname : Url.IsPlainName "gw.internal".toList :=
    .of_unmarked (by decide) (by decide) (by decide) (by decide)
  have hgateway : "gw.internal".toList ∉ loopbackHosts := by decide
  have hredirect : redirect "gw.internal" .toForeign "http://me:pw@[::1]:3128/x" =
      .ok "http://me:pw@gw.internal:3128/x" := by rfl
  have hurl : Url.parse "http://me:pw@[::1]:3128/x".toList = .ok
      { scheme := "http".toList, username := "me".toList, password := "pw".toList,
        host := some (.ipv6 [0, 0, 0, 0, 0, 0, 0, 1]), port := some 3128,
        path := "/x".toList } := by rfl
  have hspan : hostSpan? "http://me:pw@[::1]:3128/x".toList =
      some ⟨"http://".toList, "me:pw@".toList, "[::1]".toList, ":3128/x".toList⟩ := by rfl
  have hkind : Url.kindOf "http".toList = .special := by decide
  have hagrees : HostSpan.Agrees (Url.kindOf "http".toList)
      ⟨"http://".toList, "me:pw@".toList, "[::1]".toList, ":3128/x".toList⟩ := by
    rw [hkind]
    have hinside : ("me:pw@".toList ++ "[::1]".toList).all
        (fun c => Url.endsAuthority .special c = false) = true := by decide
    exact {
      scheme := ⟨"http".toList, by decide, by decide⟩
      inside := fun c hc => of_decide_eq_true (List.all_eq_true.1 hinside c hc)
      visible := ⟨'1', by decide, by decide⟩
      bracket := .inl (by decide) }
  have hloopback : Recognised "gw.internal" .toForeign (.ipv6 [0, 0, 0, 0, 0, 0, 0, 1]) :=
    show bareHost _ ∈ loopbackHosts by decide
  obtain ⟨url, hparse, ⟨hnone, -⟩ | ⟨-, span, hspan', -, hreplaced⟩, -⟩ :=
    redirect_host hname hgateway hredirect
  · cases hurl.symm.trans hparse
    exact absurd hloopback (hnone _ rfl)
  · cases hurl.symm.trans hparse
    cases hspan.symm.trans hspan'
    exact ⟨hname, hgateway, hredirect, _, hparse, hreplaced (by decide) hagrees⟩

/-- With slashes left out after the scheme the first `://` may come later.  The scan then replaces
what follows it, here in the query, and the host stays the loopback. -/
theorem redirect_laterMark :
    Url.IsPlainName "gw.internal".toList ∧ "gw.internal".toList ∉ loopbackHosts ∧
      redirect "gw.internal" .toForeign "http:/[::1]:3128/?via=http://proxy/" =
        .ok "http:/[::1]:3128/?via=http://gw.internal/" ∧
      ∃ url, Url.parse "http:/[::1]:3128/?via=http://gw.internal/".toList = .ok url ∧
        url.scheme ≠ "file".toList ∧ ∃ host ∈ url.host, bareHost host ∈ loopbackHosts := by
  refine ⟨.of_unmarked (by decide) (by decide) (by decide) (by decide), by decide, by rfl,
    { scheme := "http".toList, host := some (.ipv6 [0, 0, 0, 0, 0, 0, 0, 1]), port := some 3128,
      path := "/".toList, query := some "via=http://gw.internal/".toList }, by rfl, by decide,
    _, rfl, by decide⟩

end CommandRelay.Proxy
