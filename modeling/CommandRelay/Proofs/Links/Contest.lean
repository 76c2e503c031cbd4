import CommandRelay.Proofs.Links.Steps

/-!
# Calls to a registry at once

Several processes call the same registry at once, and one operation of one of them at a time is done
on the tree.  Nothing but links is ever taken out of the user's directory, and of all calls that
want a link of the same new name exactly one gets it.

## Main definitions

* `LinkRegistry.Site.Change` — what one operation does to the tree.
* `LinkRegistry.Site.Kept` — what stood there stands there still, but for the user's links.
* `LinkRegistry.Contest` — how far calls for the same name have come.

## Main results

* `LinkRegistry.Site.Change.kept`, `LinkRegistry.kept_run` — what one operation keeps, and all of
  them.
* `LinkRegistry.Contest.turn`, `LinkRegistry.contest_run` — how a contest goes on.
* `LinkRegistry.calls_at_once` — calls at once are safe.
-/

namespace CommandRelay.LinkRegistry

variable {r : LinkRegistry} {cwd : Place} {s : Site} {t t' t'' : FileTree} {name : String}

/-! ## What one operation does -/

/-- What one operation of a call does to the tree. -/
inductive Site.Change (s : Site) : FileTree → FileTree → Prop where
  | same {t : FileTree} : s.Change t t
  | paved {t t' : FileTree} (h : FileTree.Paved s.userDir t t') (hsound : t'.Sound) : s.Change t t'
  | put {t : FileTree} {name target : String} (hfile : IsFileName name)
      (hdirectory : t.node? s.userDir = some .directory) (hnone : s.named? t name = none) :
      s.Change t (t.put (s.userDir ++ [name]) (.link target))
  | erase {t : FileTree} {name target : String} (h : s.named? t name = some (.link target)) :
      s.Change t (t.erase (s.userDir ++ [name]))

/-- A step of a link call is a change that calls make. -/
lemma LinkStep.change {result : Option (Except LinkError String)}
    (h : LinkStep r cwd s name t t' result) : s.Change t t' := by
  cases h with
  | paved h hsound | noDirectory h hsound => exact .paved h hsound
  | made hfile hdirectory hnone => exact .put hfile hdirectory hnone
  | _ => exact .same

/-- A step of an unlink call is a change that calls make. -/
lemma UnlinkStep.change {result : Option (Except LinkError Unit)}
    (h : UnlinkStep s name t t' result) : s.Change t t' := by
  cases h with
  | look => exact .same
  | removed h => exact .erase h

/-- What stood in a tree stands there still, but for links in the user's directory. -/
def Site.Kept (s : Site) (t t' : FileTree) : Prop :=
  ∀ q n, t.node? q = some n →
    t'.node? q = some n ∨ (n.isLink = true ∧ ∃ name, q = s.userDir ++ [name])

namespace Site

/-- Nothing need have changed. -/
lemma Kept.refl (s : Site) (t : FileTree) : s.Kept t t := fun _ _ h => .inl h

/-- What is kept for some time and then for some more is kept all the time. -/
lemma Kept.trans (h : s.Kept t t') (h' : s.Kept t' t'') : s.Kept t t'' :=
  fun q n hnode => (h q n hnode).elim (h' q n) .inr

namespace Change

/-- A change leaves everything in a directory. -/
lemma sound (h : s.Change t t') (hsound : t.Sound) : t'.Sound := by
  cases h with
  | same => exact hsound
  | paved _ hsound' => exact hsound'
  | put hfile hdirectory hnone => exact hsound.put hdirectory hfile hnone _
  | erase h =>
    rw [named?] at h
    exact hsound.erase (by simp) (by simp [h])

/-- Every path still leads where it did that does not lead through the user's directory. -/
lemma elsewhere (h : s.Change t t') : Elsewhere s.userDir t t' := by
  cases h with
  | same => exact fun q _ => .inl rfl
  | paved h _ => exact .of_paved h
  | put => exact .of_put _
  | erase => exact .of_erase

/-- The other calls can rely on what they do. -/
lemma lasting (h : s.Change t t') : s.Lasting t t' := by
  cases h with
  | same => exact .refl s t
  | paved h hsound =>
    refine ⟨h.within _ _, fun name hopen n hn => hopen n ?_⟩
    rw [← hn]
    exact (h.node?_eq (FileTree.not_prefix_of_concat _ _)).symm
  | put hfile hdirectory hnone =>
    refine ⟨fun _ => ?_, fun name hopen n hn => ?_⟩
    · rw [FileTree.node?_put _ _ (by simp), if_neg (by simp), hdirectory]
    · rw [named?, FileTree.node?_put _ _ (by simp)] at hn
      split_ifs at hn with hmade
      · cases hn
        rfl
      · exact hopen n hn
  | erase h =>
    refine ⟨fun hdirectory => ?_, fun name hopen n hn => ?_⟩
    · rw [FileTree.node?_erase _ (by simp), if_neg (by simp), hdirectory]
    · rw [named?, FileTree.node?_erase _ (by simp)] at hn
      split_ifs at hn with hgone
      exact hopen n hn

/-- **What one operation keeps.** -/
lemma kept (h : s.Change t t') : s.Kept t t' := by
  intro q n hnode
  cases h with
  | same => exact .inl hnode
  | paved h _ => exact .inl (h.within _ _ hnode)
  | put _ _ hnone => exact .inl (FileTree.Within.put (by simp) hnone _ _ _ hnode)
  | @erase gone target h =>
    rw [FileTree.node?_erase _ (by simp)]
    split_ifs with hgone
    · rw [named?, ← hgone, hnode] at h
      cases h
      exact .inr ⟨rfl, gone, hgone⟩
    · exact .inl hnode

end Change

end Site

/-- A change leaves the user's directory to the registry. -/
lemma owns_of_change (h : s.Change t t') (howns : r.OwnsAt cwd s.userDir t) :
    r.OwnsAt cwd s.userDir t' :=
  howns.keep (h.sound howns.sound) h.elsewhere

/-- What one operation does leaves alone what the others rely on. -/
lemma harmless {α : Type} {inv : FileTree → Prop} {step : FileTree → FileTree → Option α → Prop}
    (hinv : ∀ {t t'}, s.Change t t' → inv t → inv t')
    (h : ∀ {t t' result}, step t t' result → s.Change t t') : Crew.Harmless inv s.Lasting step where
  keeps ht hstep := ⟨hinv (h hstep) ht, (h hstep).lasting⟩
  refl := .refl s
  trans _ _ _ := Site.Lasting.trans

/-! ## Any calls at once -/

/-- All operations of a call change the tree in one of these ways. -/
lemma always_script (r : LinkRegistry) (cwd : Place) (s : Site) (c : Call) (t : FileTree) :
    (c.script r).Always cwd (r.OwnsAt cwd s.userDir) s.Lasting (fun t t' _ => s.Change t t') t := by
  cases c with
  | link name =>
    exact Script.Always.bind
      ((always_link r cwd s name t).imp fun _ _ _ _ h => ⟨h.change, fun _ _ => trivial⟩)
      fun _ _ => trivial
  | unlink name =>
    exact Script.Always.bind
      ((always_unlink r cwd s name t).imp fun _ _ _ _ h => ⟨h.change, fun _ _ => trivial⟩)
      fun _ _ => trivial
  | names =>
    exact Script.Always.bind
      ((always_names r cwd s t).imp fun _ _ _ _ h => ⟨h ▸ .same, fun _ _ => trivial⟩)
      fun _ _ => trivial

/-- **Calls at once keep** all that stood there but for the user's links. -/
lemma kept_run (h : r.OwnsAt cwd s.userDir t) (calls : List Call) (turns : List Nat) :
    s.Kept t ((Crew.mk t (calls.map (Call.script r))).run cwd turns).tree := by
  have hheld : (Crew.mk t (calls.map (Call.script r))).Held cwd (r.OwnsAt cwd s.userDir) s.Lasting
      fun t t' _ => s.Change t t' := by
    refine ⟨h, fun script hscript => ?_⟩
    obtain ⟨c, -, rfl⟩ := List.mem_map.1 hscript
    exact always_script r cwd s c t
  have hharmless : Crew.Harmless (r.OwnsAt cwd s.userDir) s.Lasting
      fun t t' (_ : Option Answer) => s.Change t t' := harmless owns_of_change id
  refine (hheld.run hharmless (P := fun c => s.Kept t c.tree) ?_ (.refl s t) turns).2
  intro c i hheld hkept
  rcases (hheld.turn hharmless i).2 with hsame | ⟨_, _, -, -, hchange, -⟩
  · rw [hsame]
    exact hkept
  · exact hkept.trans hchange.kept

/-! ## Calls for one name -/

/-- How far calls for the same name have come that nothing keeps from being linked: either there is
no link yet and nobody has made it, or there is one and somebody has. -/
structure Contest (r : LinkRegistry) (cwd : Place) (s : Site) (name : String)
    (c : Crew (Except LinkError String)) : Prop where
  free : r.Spares cwd s.userDir c.tree name
  winner : (s.named? c.tree name = none ∧ c.results.countP Except.isOk = 0) ∨
    (s.named? c.tree name = some (.link r.target) ∧ c.results.countP Except.isOk = 1)
  results : ∀ a ∈ c.results, a = .ok (r.userPath name) ∨
    (a = .error (.alreadyLinked name false) ∧ s.named? c.tree name = some (.link r.target)) ∨
    ∃ e, a = .error (.file r.userDir e)

/-- What an operation means for a name that can be linked: it changes nothing about the name and
answers at most that there is no directory; or something stands there, and it answers so; or it
makes the link. -/
lemma LinkStep.outcome {result : Option (Except LinkError String)}
    (h : LinkStep r cwd s name t t' result) (hfile : IsFileName name) (hpath : Path.IsPath r.target)
    (hshort : (r.userPath name).utf8ByteSize < Way.maxPath) (hfree : ¬r.Protects cwd t name) :
    (s.named? t' name = s.named? t name ∧ ∀ a ∈ result, ∃ e, a = .error (.file r.userDir e)) ∨
    (t' = t ∧ (s.named? t name).isSome ∧ result = some (.error (.alreadyLinked name false))) ∨
    (s.named? t name = none ∧ s.named? t' name = some (.link r.target) ∧
      result = some (.ok (r.userPath name))) := by
  cases h with
  | look => exact .inl ⟨rfl, nofun⟩
  | reserved h => exact absurd h hfree
  | taken h => exact .inr (.inl ⟨rfl, h, rfl⟩)
  | paved h => exact .inl ⟨h.node?_eq (FileTree.not_prefix_of_concat _ _), nofun⟩
  | noDirectory h =>
    refine .inl ⟨h.node?_eq (FileTree.not_prefix_of_concat _ _), fun a ha => ?_⟩
    cases ha
    exact ⟨_, rfl⟩
  | made _ _ hnone =>
    refine .inr (.inr ⟨hnone, ?_, rfl⟩)
    rw [Site.named?, FileTree.node?_put _ _ (by simp), if_pos rfl]
  | noLink h => exact absurd (h hshort) (by simp [hfile, hpath])

namespace Contest

variable {c : Crew (Except LinkError String)}

/-- What stands under the name is the link. -/
lemma link_of_isSome (h : Contest r cwd s name c) (hthere : (s.named? c.tree name).isSome) :
    s.named? c.tree name = some (.link r.target) := by
  rcases h.winner with ⟨hnone, -⟩ | ⟨hlink, -⟩
  · simp [hnone] at hthere
  · exact hlink

/-- As long as nothing stands there, nobody has won and nobody has lost to a winner. -/
lemma open_of_none (h : Contest r cwd s name c) (hnone : s.named? c.tree name = none) :
    c.results.countP Except.isOk = 0 ∧
      ∀ a ∈ c.results, a = .ok (r.userPath name) ∨ ∃ e, a = .error (.file r.userDir e) := by
  have hlost : ¬s.named? c.tree name = some (.link r.target) := by simp [hnone]
  refine ⟨?_, fun a ha => ?_⟩
  · rcases h.winner with ⟨-, hzero⟩ | ⟨hlink, -⟩
    · exact hzero
    · exact absurd hlink hlost
  · rcases h.results a ha with hok | ⟨-, hlink⟩ | hdirectory
    · exact .inl hok
    · exact absurd hlink hlost
    · exact .inr hdirectory

/-- **How a contest goes on**: a turn leaves the link where it is once it has been made.

**Proof sketch.** A turn carries out one operation of one call, which is a `LinkStep` with three
possible outcomes for the name: nothing happens to it, the call finds something there, or it makes
the link.  There is at most one result more than before.  In the first case it is no victory; in the
second one it is a defeat, and the link is that of a winner, since nothing else can stand there; in
the third one it is the first victory, since nothing stood there. -/
lemma turn (hfile : IsFileName name) (hpath : Path.IsPath r.target)
    (hshort : (r.userPath name).utf8ByteSize < Way.maxPath)
    (h : Contest r cwd s name c)
    (hheld : c.Held cwd (r.OwnsAt cwd s.userDir) s.Lasting (LinkStep r cwd s name)) (i : Nat) :
    Contest r cwd s name (c.turn cwd i) ∧
      (s.named? c.tree name = some (.link r.target) →
        s.named? (c.turn cwd i).tree name = some (.link r.target)) := by
  obtain ⟨-, hsame | ⟨x, x', hx, hnone, hstep, hscripts⟩⟩ :=
    hheld.turn (harmless owns_of_change LinkStep.change) i
  · rw [hsame]
    exact ⟨h, id⟩
  -- the results are those from before and at most one more, that of the call whose turn it is
  have hperm : (c.turn cwd i).results.Perm (x'.result?.toList ++ c.results) := by
    rw [Crew.results, hscripts]
    exact Crew.filterMap_result?_set hx hnone
  have hcount : (c.turn cwd i).results.countP Except.isOk =
      x'.result?.toList.countP Except.isOk + c.results.countP Except.isOk := by
    rw [hperm.countP_eq, List.countP_append]
  have hmem : ∀ a ∈ (c.turn cwd i).results, x'.result? = some a ∨ a ∈ c.results := by
    intro a ha
    simpa using hperm.mem_iff.1 ha
  have hfree : r.Spares cwd s.userDir (c.turn cwd i).tree name := h.free.keep hstep.change.elsewhere
  rcases hstep.outcome hfile hpath hshort (h.free _ hheld.tree.sound (.refl _ _)) with
    ⟨hsame, hanswer⟩ | ⟨hsame, hthere, hanswer⟩ | ⟨hnone, hmade, hanswer⟩
  · -- nothing happens to the name: a result, if there is one, is no victory
    have hnoOk : x'.result?.toList.countP Except.isOk = 0 := by
      rw [List.countP_eq_zero]
      intro a ha
      obtain ⟨e, rfl⟩ := hanswer a (by simpa using ha)
      exact Bool.false_ne_true
    rw [hnoOk, Nat.zero_add] at hcount
    refine ⟨⟨hfree, by rw [hsame, hcount]; exact h.winner, fun a ha => ?_⟩, fun hlink => ?_⟩
    · rw [hsame]
      exact (hmem a ha).elim (fun hnew => .inr (.inr (hanswer a hnew))) (h.results a)
    · rw [hsame, hlink]
  · -- the call finds the link of a winner
    have hlink : s.named? c.tree name = some (.link r.target) := h.link_of_isSome hthere
    have hcount' : (c.turn cwd i).results.countP Except.isOk = c.results.countP Except.isOk := by
      rw [hcount, hanswer]
      exact Nat.zero_add _
    refine ⟨⟨hfree, by rw [hsame, hcount']; exact h.winner, fun a ha => ?_⟩,
      fun _ => by rwa [hsame]⟩
    rw [hsame]
    rcases hmem a ha with hnew | hold
    · rw [hanswer] at hnew
      cases hnew
      exact .inr (.inl ⟨rfl, hlink⟩)
    · exact h.results a hold
  · -- the call makes the link, so nobody has won before it
    obtain ⟨hzero, hresults⟩ := h.open_of_none hnone
    refine ⟨⟨hfree, .inr ⟨hmade, ?_⟩, fun a ha => ?_⟩, fun _ => hmade⟩
    · rw [hcount, hanswer, hzero]
      rfl
    · rcases hmem a ha with hnew | hold
      · rw [hanswer] at hnew
        cases hnew
        exact .inl rfl
      · exact (hresults a hold).imp id .inr

/-- A contest from its start. -/
lemma start (hname : Path.IsName name.toList) (hsound : t.Sound)
    (hfree : r.Spares cwd s.userDir t name) (hnone : s.named? t name = none) (k : Nat) :
    Contest r cwd s name (Crew.mk t (List.replicate k (r.link name))) := by
  have hlists : ¬(defaultNames.contains name || priorityNames.contains name) = true := by
    rw [Bool.or_eq_true, List.contains_iff_mem, List.contains_iff_mem]
    exact fun h => hfree t hsound (.refl _ _) (h.imp id .inl)
  have hresult : (r.link name).result? = none := by
    rw [link, if_neg (by simp [isName_iff.2 hname]), Script.result?_bind, result?_isProtected,
      if_neg hlists]
    rfl
  have hresults : (Crew.mk t (List.replicate k (r.link name))).results = [] :=
    List.filterMap_eq_nil_iff.2 fun x hx => by rw [List.eq_of_mem_replicate hx, hresult]
  refine ⟨hfree, .inl ⟨hnone, ?_⟩, fun a ha => ?_⟩
  · rw [hresults]
    rfl
  · rw [hresults] at ha
    cases ha

/-- **How a contest goes on** for any number of turns. -/
lemma run (hfile : IsFileName name) (hpath : Path.IsPath r.target)
    (hshort : (r.userPath name).utf8ByteSize < Way.maxPath)
    (h : Contest r cwd s name c)
    (hheld : c.Held cwd (r.OwnsAt cwd s.userDir) s.Lasting (LinkStep r cwd s name))
    (turns : List Nat) :
    (c.run cwd turns).Held cwd (r.OwnsAt cwd s.userDir) s.Lasting (LinkStep r cwd s name) ∧
      Contest r cwd s name (c.run cwd turns) ∧
      (s.named? c.tree name = some (.link r.target) →
        s.named? (c.run cwd turns).tree name = some (.link r.target)) := by
  refine hheld.run (harmless owns_of_change LinkStep.change)
    (P := fun c' => Contest r cwd s name c' ∧
    (s.named? c.tree name = some (.link r.target) →
      s.named? c'.tree name = some (.link r.target))) ?_ ⟨h, id⟩ turns
  rintro c' i hheld' ⟨h', hlink⟩
  obtain ⟨hturn, hstays⟩ := h'.turn hfile hpath hshort hheld' i
  exact ⟨hturn, hstays ∘ hlink⟩

/-- **At the end of a contest** there is one winner, if the user's directory could be made. -/
lemma winner_of_isDone (h : Contest r cwd s name c) (hdone : c.isDone = true)
    (hsome : c.scripts ≠ [])
    (hdirectory : ∀ e, .error (.file r.userDir e) ∉ c.results) :
    c.results.countP Except.isOk = 1 ∧
      (∀ a ∈ c.results, a = .ok (r.userPath name) ∨ a = .error (.alreadyLinked name false)) ∧
      s.named? c.tree name = some (.link r.target) := by
  have hlength := Crew.length_results hdone
  have hresults : ∀ a ∈ c.results, a = .ok (r.userPath name) ∨
      (a = .error (.alreadyLinked name false) ∧ s.named? c.tree name = some (.link r.target)) := by
    intro a ha
    rcases h.results a ha with hok | hlost | ⟨e, rfl⟩
    · exact .inl hok
    · exact .inr hlost
    · exact absurd ha (hdirectory e)
  have hlink : s.named? c.tree name = some (.link r.target) ∧ c.results.countP Except.isOk = 1 := by
    rcases h.winner with ⟨hnone, hzero⟩ | hwon
    · -- the first result is a victory, or a defeat by somebody who has won
      have hne : c.results ≠ [] := by
        intro hnil
        rw [hnil, List.length_nil, eq_comm, List.length_eq_zero_iff] at hlength
        exact hsome hlength
      obtain ⟨a, rest, hcons⟩ := List.exists_cons_of_ne_nil hne
      have ha : a ∈ c.results := hcons ▸ List.mem_cons_self
      rcases (h.open_of_none hnone).2 a ha with rfl | ⟨e, rfl⟩
      · exact absurd rfl (List.countP_eq_zero.1 hzero _ ha)
      · exact absurd ha (hdirectory e)
    · exact hwon
  exact ⟨hlink.2, fun a ha => (hresults a ha).imp id And.left, hlink.1⟩

end Contest

/-- **Calls to a registry at once are safe.**  Of calls for a link of the same name, which is new
and can be linked, exactly one gets it and says where it stands, and all others answer that there is
such a link, provided that the user's directory can be made; the link is never replaced, and the
calls come to an end from wherever they are.  And whatever calls run at once, all that stood there
at first stands there, but for links in the user's directory.

**Proof sketch.** Every operation of a call for a link changes the tree in one of a few ways and
answers accordingly, whatever the others have done in between.  As long as nothing stands under the
name nobody has got the link; who finds nothing makes it; from then on everybody finds it.  Since
the last operation of each call gives its result, a winner is among those that have come to their
end. -/
theorem calls_at_once (h : r.OwnsAt cwd s.userDir t) :
    (Path.IsPath r.target → ∀ name, IsFileName name →
      (r.userPath name).utf8ByteSize < Way.maxPath →
      r.Spares cwd s.userDir t name → s.named? t name = none →
      ∀ (k : Nat) (turns : List Nat),
        let c := (Crew.mk t (List.replicate k (r.link name))).run cwd turns
        (∃ more, (c.run cwd more).isDone = true) ∧
        (∀ n, s.named? c.tree name = some n →
          n = .link r.target ∧ ∀ more, s.named? (c.run cwd more).tree name = some n) ∧
        (c.isDone = true → k ≠ 0 → (∀ e, .error (.file r.userDir e) ∉ c.results) →
          c.results.length = k ∧ c.results.countP Except.isOk = 1 ∧
          (∀ a ∈ c.results, a = .ok (r.userPath name) ∨ a = .error (.alreadyLinked name false)) ∧
          s.named? c.tree name = some (.link r.target))) ∧
    ∀ (calls : List Call) (turns : List Nat),
      s.Kept t ((Crew.mk t (calls.map (Call.script r))).run cwd turns).tree := by
  refine ⟨fun hpath name hfile hshort hfree hnone k turns => ?_,
    fun calls turns => kept_run h calls turns⟩
  have hheld :
      (Crew.mk t (List.replicate k (r.link name))).Held cwd (r.OwnsAt cwd s.userDir) s.Lasting
        (LinkStep r cwd s name) := by
    refine ⟨h, fun x hx => ?_⟩
    rw [List.eq_of_mem_replicate hx]
    exact always_link r cwd s name t
  intro c
  obtain ⟨hheld', hcontest, -⟩ :=
    (Contest.start hfile.isName h.sound hfree hnone k).run hfile hpath hshort hheld turns
  refine ⟨Crew.exists_isDone cwd c, fun n hn => ?_, fun hdone hk hdirectory => ?_⟩
  · rcases hcontest.winner with ⟨hnone, -⟩ | ⟨hlink, -⟩
    · rw [hnone] at hn
      cases hn
    · obtain rfl : Node.link r.target = n := by
        rw [hlink] at hn
        exact Option.some.inj hn
      exact ⟨rfl, fun more => (hcontest.run hfile hpath hshort hheld' more).2.2 hlink⟩
  · have hlength : c.scripts.length = k := by
      rw [Crew.length_scripts_run, List.length_replicate]
    have hsome : c.scripts ≠ [] := fun hnil => hk (by rw [← hlength, hnil]; rfl)
    exact ⟨(Crew.length_results hdone).trans hlength,
      hcontest.winner_of_isDone hdone hsome hdirectory⟩

/-- Two calls for a link of the same name that take turns: the first one gets it. -/
theorem calls_at_once_sample :
    let turns := [0, 1, 0, 1, 0, 1, 0, 1, 0, 1, 1, 0, 1, 0]
    let c := (Crew.mk sampleTree (List.replicate 2 (sample.link "note"))).run [] turns
    c.isDone = true ∧ c.results.length = 2 ∧ c.results.countP Except.isOk = 1 ∧
      (∀ a ∈ c.results, a = .ok "/h/links/note" ∨ a = .error (.alreadyLinked "note" false)) ∧
      sampleSite.named? c.tree "note" = some (.link "/h/ferry") := by
  intro turns c
  have hdone : c.isDone = true := by rfl
  have hresults : c.results = [.ok "/h/links/note", .error (.alreadyLinked "note" false)] := by rfl
  have hreserved : ¬sampleSite.Reserved sampleTree "note" := by
    unfold Site.Reserved
    decide
  have hname : IsFileName "note" := by decide
  have hcontest := (calls_at_once (s := sampleSite) standsAt_sample.toOwnsAt).1
    ⟨by decide, by decide, by decide⟩ "note" hname (by decide)
    (standsAt_sample.spares hname.isName hreserved) (by rfl) 2 turns
  exact ⟨hdone, hcontest.2.2 hdone (by decide) fun e he => by rw [hresults] at he; simp at he⟩

/-- A tree in which one of the directories of links that are always there is a link to the user's.
-/
def mirrorTree : FileTree :=
  ⟨.ofList [(["h"], .directory), (["h", "bin"], .link "links")]⟩

/-- The name has to be one that a directory can hold, and no directory of links that are always
there may lead to the user's.  A call for a link of a name that holds a null character finds that
nothing has that name, makes the user's directory, and fails to make the link.  And where the
directory of default links is a link to the user's, the second of two calls takes the link of the
first for one that is always there. -/
theorem link_unstorable_or_mirrored :
    (let c := (Crew.mk sampleTree [sample.link "a\x00b"]).run [] [0, 0, 0, 0, 0, 0]
     isName "a\x00b" = true ∧ ¬sample.Protects [] sampleTree "a\x00b" ∧
       sampleSite.named? sampleTree "a\x00b" = none ∧ c.isDone = true ∧
       c.tree.node? sampleSite.userDir = some .directory ∧
       c.results = [.error (.file "/h/links/a\x00b" .nulInName)]) ∧
    (let c := (Crew.mk mirrorTree (List.replicate 2 (sample.link "note"))).run []
       [0, 0, 0, 0, 0, 0, 1, 1, 1, 1, 1, 1]
     isName "note" = true ∧ ¬sample.Protects [] mirrorTree "note" ∧
       sampleSite.named? mirrorTree "note" = none ∧ c.isDone = true ∧
       c.results = [.ok "/h/links/note", .error (.alreadyLinked "note" true)]) := by
  refine ⟨⟨by rfl, ?_, by rfl, by rfl, by rfl, by rfl⟩, by rfl, ?_, by rfl, by rfl, by rfl⟩ <;>
  · unfold Protects
    decide

end CommandRelay.LinkRegistry
