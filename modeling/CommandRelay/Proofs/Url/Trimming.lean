import CommandRelay.Proofs.Url.Replacement

/-!
# Characters that do not count

Blanks and controls at the ends of a text and line breaks inside it do not count.  If a host stands
in its place in the whole text, it stands in its place in what counts.

## Main definitions

* `Url.kept`, `Url.front`, `Url.back` — what counts of a middle part, of a first and of a last one.

## Main results

* `Url.significant_append` — what counts of a text, part by part.
* `Url.parse_replace` — another host in its place changes the host alone.
-/

namespace CommandRelay.Url

/-- What counts of a text with text on both sides. -/
def kept (s : List Char) : List Char := s.filter fun c => !isIgnored c

/-- What counts of a text with text after it. -/
def front (s : List Char) : List Char := kept (s.dropWhile isControlOrSpace)

/-- What counts of a text with text before it. -/
def back (s : List Char) : List Char := kept (s.rdropWhile isControlOrSpace)

/-! ## Cutting at a character that counts -/

section Cut

variable {p : Char → Bool} {c : Char}

/-- Dropping from the front stops at a character that stays. -/
lemma dropWhile_append_of_neg (hc : p c = false) (s t : List Char) :
    (s ++ c :: t).dropWhile p = s.dropWhile p ++ c :: t := by
  rw [List.dropWhile_append]
  split
  · next h => rw [List.isEmpty_iff.1 h, List.dropWhile_cons_of_neg (by simp [hc]), List.nil_append]
  · rfl

/-- Dropping from the end stops at a character that stays. -/
lemma rdropWhile_append_of_neg (hc : p c = false) (s t : List Char) :
    (s ++ c :: t).rdropWhile p = s ++ c :: t.rdropWhile p := by
  rw [List.rdropWhile, List.reverse_append, List.reverse_cons, List.append_assoc,
    List.singleton_append, dropWhile_append_of_neg hc]
  simp [List.rdropWhile]

/-- Dropping from the front leaves a character that stays. -/
lemma eq_false_of_mem_head?_dropWhile {s : List Char} (h : c ∈ (s.dropWhile p).head?) :
    p c = false := by
  have hstop := List.head?_dropWhile_not p s
  rw [Option.mem_def.1 h] at hstop
  simpa using hstop

end Cut

/-- A visible character is not ignored. -/
lemma isIgnored_of_visible {c : Char} (hc : isControlOrSpace c = false) : isIgnored c = false := by
  by_contra h
  simp only [isIgnored, Bool.not_eq_false, Bool.or_eq_true, decide_eq_true_eq] at h
  rcases h with (rfl | rfl) | rfl <;> exact absurd hc (by decide)

/-- What counts of a text with text on both sides is part of it. -/
lemma kept_subset (s : List Char) : kept s ⊆ s := List.filter_subset_self ..

/-- What counts of a text with text before it is part of it. -/
lemma back_subset (s : List Char) : back s ⊆ s := fun _ hc =>
  (List.rdropWhile_prefix isControlOrSpace s).subset (kept_subset _ hc)

/-- The ends of two texts are apart if a character between them counts. -/
lemma back_append_cons {c : Char} (hc : isControlOrSpace c = false) (s t : List Char) :
    back (s ++ c :: t) = kept s ++ c :: back t := by
  rw [back, rdropWhile_append_of_neg hc, kept, List.filter_append,
    List.filter_cons_of_pos (by simp [isIgnored_of_visible hc])]
  rfl

/-- A visible character at the start counts. -/
lemma back_cons {c : Char} (hc : isControlOrSpace c = false) (s : List Char) :
    back (c :: s) = c :: back s := back_append_cons hc [] s

/-- Visible characters at the start count. -/
lemma back_append_of_visible {s : List Char} (hs : ∀ c ∈ s, isControlOrSpace c = false)
    (t : List Char) : back (s ++ t) = s ++ back t := by
  induction s with
  | nil => rfl
  | cons c s ih =>
    rw [List.cons_append, back_cons (hs c (by simp)), ih fun d hd => hs d (by simp [hd])]
    rfl

/-- A visible character counts. -/
lemma mem_back {s : List Char} {c : Char} (h : c ∈ s) (hc : isControlOrSpace c = false) :
    c ∈ back s := by
  obtain ⟨before, after, rfl⟩ := List.append_of_mem h
  rw [back_append_cons hc]
  simp

/-- **What counts** of a text whose first part ends at `://`. -/
lemma significant_append (lead text : List Char) :
    significant (lead ++ ':' :: '/' :: '/' :: text) =
      front lead ++ ':' :: '/' :: '/' :: back text := by
  have hcolon : isControlOrSpace ':' = false := by decide
  have hslash : isControlOrSpace '/' = false := by decide
  calc significant (lead ++ ':' :: '/' :: '/' :: text)
    _ = back ((lead ++ ':' :: '/' :: '/' :: text).dropWhile isControlOrSpace) := rfl
    _ = front lead ++ ':' :: back ('/' :: '/' :: text) := by
      rw [dropWhile_append_of_neg hcolon, back_append_cons hcolon, front]
    _ = front lead ++ ':' :: '/' :: '/' :: back text := by
      rw [back_cons hslash, back_cons hslash]

/-! ## A host in its place -/

/-- What counts of a host text, which is its end as well if nothing after it counts. -/
lemma exists_back_append (host rest : List Char) :
    ∃ host', (host' = kept host ∨ host' = back host) ∧
      back (host ++ rest) = host' ++ back rest := by
  by_cases hrest : ∀ c ∈ rest, isControlOrSpace c = true
  · -- nothing after the host counts, so the blanks at its own end do not either
    refine ⟨back host, .inr rfl, ?_⟩
    have hall : ∀ c ∈ rest.reverse, isControlOrSpace c = true := fun c hc =>
      hrest c (List.mem_reverse.1 hc)
    have hnil : rest.rdropWhile isControlOrSpace = [] := List.rdropWhile_eq_nil_iff.2 hrest
    rw [back, List.rdropWhile, List.reverse_append, List.dropWhile_append_of_pos hall, back, back,
      hnil]
    exact (List.append_nil _).symm
  · obtain ⟨c, hc, hvisible⟩ := not_forall₂.1 hrest
    obtain ⟨before, after, rfl⟩ := List.append_of_mem hc
    rw [Bool.not_eq_true] at hvisible
    refine ⟨kept host, .inl rfl, ?_⟩
    rw [← List.append_assoc, back_append_cons hvisible, back_append_cons hvisible, kept,
      List.filter_append, List.append_assoc]
    rfl

/-- What ends an authority is visible. -/
lemma visible_of_endsAuthority {kind : Kind} {c : Char} (h : endsAuthority kind c = true) :
    isControlOrSpace c = false := by
  simp only [endsAuthority, Bool.or_eq_true, Bool.and_eq_true, decide_eq_true_eq] at h
  rcases h with ((rfl | rfl) | rfl) | ⟨rfl, -⟩ <;> decide

/-- The part before the end of the authority stays in front of it. -/
lemma takeWhile_back_subset {kind : Kind} (rest : List Char) :
    ((back rest).takeWhile fun c => !endsAuthority kind c) ⊆
      rest.takeWhile fun c => !endsAuthority kind c := by
  have hsplit := List.takeWhile_append_dropWhile (p := fun c => !endsAuthority kind c) (l := rest)
  cases hend : rest.dropWhile fun c => !endsAuthority kind c with
  | nil =>
    rw [hend, List.append_nil] at hsplit
    rw [hsplit]
    exact fun c hc => back_subset rest ((List.takeWhile_prefix _).subset hc)
  | cons e after =>
    have he : endsAuthority kind e = true := by
      have := eq_false_of_mem_head?_dropWhile (c := e) (by rw [hend]; rfl)
      simpa using this
    have hbefore : ∀ c ∈ kept (rest.takeWhile fun c => !endsAuthority kind c),
        (!endsAuthority kind c) = true := fun c hc =>
      List.mem_takeWhile_imp (p := fun c => !endsAuthority kind c) (kept_subset _ hc)
    rw [hend] at hsplit
    conv_lhs => rw [← hsplit, back_append_cons (visible_of_endsAuthority he),
      List.takeWhile_append_of_pos hbefore, List.takeWhile_cons_of_neg (by simp [he]),
      List.append_nil]
    exact kept_subset _

/-- A text that starts with a character that counts has the same start in what counts. -/
lemma head?_back {s : List Char} (h : ∀ c ∈ s.head?, isControlOrSpace c = false) :
    (back s).head? = s.head? := by
  cases s with
  | nil => rfl
  | cons c s => rw [back_cons (h c rfl)]; rfl

section Part

variable {kind : Kind} {user host rest host' : List Char}
  (hhost : host' = kept host ∨ host' = back host)

include hhost

/-- What counts of a host is part of it. -/
lemma part_subset : host' ⊆ host := by
  rcases hhost with rfl | rfl
  · exact kept_subset host
  · exact back_subset host

/-- A visible character of a host is in what counts of it. -/
lemma mem_part {c : Char} (hc : c ∈ host) (hvisible : isControlOrSpace c = false) : c ∈ host' := by
  rcases hhost with rfl | rfl
  · exact List.mem_filter.2 ⟨hc, by simp [isIgnored_of_visible hvisible]⟩
  · exact mem_back hc hvisible

/-- Brackets around a host stay around it. -/
lemma part_bracketed {inside : List Char} (h : host = '[' :: inside ++ [']']) :
    host' = '[' :: kept inside ++ [']'] := by
  have hbracket : isControlOrSpace ']' = false := by decide
  rcases hhost with rfl | rfl
  · rw [h]
    exact List.filter_append ..
  · rw [h]
    exact (back_append_cons hbracket ('[' :: inside) []).trans rfl

/-- Parts that fit together fit with only what counts of them, unless nothing of the host does. -/
lemma Fits.significant (h : Fits kind user host rest)
    (hvisible : ∃ c ∈ host, isControlOrSpace c = false) :
    Fits kind (kept user) host' (back rest) where
  ne_nil := by
    obtain ⟨c, hc, hvisible⟩ := hvisible
    exact List.ne_nil_of_mem (mem_part hhost hc hvisible)
  inside c hc := h.inside c ((List.mem_append.1 hc).elim
    (fun hc => List.mem_append_left _ (kept_subset user hc))
    (fun hc => List.mem_append_right _ (part_subset hhost hc)))
  lastAt hat := h.lastAt ((List.mem_append.1 hat).elim
    (fun hat => List.mem_append_left _ (part_subset hhost hat))
    (fun hat => List.mem_append_right _ (takeWhile_back_subset rest hat)))

/-- A host that stands in its place does so in what counts as well. -/
lemma HostAt.significant (h : HostAt kind user host rest)
    (hvisible : ∃ c ∈ host, isControlOrSpace c = false) :
    HostAt kind (kept user) host' (back rest) where
  toFits := h.toFits.significant hhost hvisible
  endsInAt := by
    rcases h.endsInAt with rfl | ⟨name, rfl⟩
    · exact .inl rfl
    · exact .inr ⟨kept name, List.filter_append ..⟩
  shape := by
    rcases h.shape with ⟨hopen, hcolon, hrest⟩ | ⟨inside, hinside, hclose⟩
    · have hhead : (back rest).head? = rest.head? := by
        refine head?_back fun c hc => ?_
        rcases hrest c hc with rfl | hends
        · decide
        · exact visible_of_endsAuthority hends
      rw [hhead]
      exact .inl ⟨fun hc => hopen (part_subset hhost hc), fun hc => hcolon (part_subset hhost hc),
        hrest⟩
    · exact .inr ⟨kept inside, part_bracketed hhost hinside,
        fun hc => hclose (kept_subset inside hc)⟩

end Part

/-- The user information stays apart from the host after it. -/
lemma back_user_append {user : List Char} (huser : user = [] ∨ ∃ name, user = name ++ ['@'])
    (text : List Char) : back (user ++ text) = kept user ++ back text := by
  have hat : isControlOrSpace '@' = false := by decide
  rcases huser with rfl | ⟨name, rfl⟩
  · rfl
  · rw [List.append_assoc, List.singleton_append, back_append_cons hat]
    simp [kept, isIgnored_of_visible hat]

/-- **Replacing the host.** With a plain name in the place of the host, the URL has that host, and
all its other parts are as before. -/
theorem parse_replace {lead user host rest name : List Char} {url : Url}
    (hlead : ':' ∉ lead) (hname : IsPlainName name) (hfile : url.scheme ≠ "file".toList)
    (hplace : HostAt (kindOf url.scheme) user host rest)
    (hvisible : ∃ c ∈ host, isControlOrSpace c = false)
    (h : parse (lead ++ ':' :: '/' :: '/' :: (user ++ (host ++ rest))) = .ok url) :
    parse (lead ++ ':' :: '/' :: '/' :: (user ++ (name ++ rest))) =
      .ok { url with host := some (.domain name) } := by
  have hfront : ':' ∉ front lead := fun hc =>
    hlead ((List.dropWhile_suffix isControlOrSpace).subset (kept_subset _ hc))
  have hback : back (name ++ rest) = name ++ back rest :=
    back_append_of_visible (fun c hc => isControlOrSpace_of_plain (hname.plain c hc)) rest
  obtain ⟨host', hhost, hrest⟩ := exists_back_append host rest
  rw [parse, significant_append, back_user_append hplace.endsInAt, hrest, ← List.append_assoc] at h
  rw [parse, significant_append, back_user_append hplace.endsInAt, hback, ← List.append_assoc]
  exact parseSignificant_replace hfront hname hfile (hplace.significant hhost hvisible) h

end CommandRelay.Url
