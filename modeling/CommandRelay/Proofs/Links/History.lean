import CommandRelay.Proofs.Links.Calls

/-!
# Histories of a registry of links

Over any sequence of calls to a registry each one does what its answer says, and the names that are
always linked, like those that are no names at all, are never linked or unlinked.

## Main definitions

* `LinkRegistry.Record` — a call with its answer and its effect.
* `LinkRegistry.history` — what a sequence of calls does.
* `LinkRegistry.Lawful` — a call that does what its answer says.
* `LinkRegistry.Site.Spared` — what no call touches.

## Main results

* `LinkRegistry.Lawful.spared` — what one call spares.
* `LinkRegistry.history_induction` — what holds of every call in a history.
* `LinkRegistry.history_lawful` — every history is lawful, and a link that is made can be taken
  back.
-/

namespace CommandRelay.LinkRegistry

/-- A call with its answer, and the tree before and after it. -/
structure Record where
  call : Call
  answer : Answer
  before : FileTree
  after : FileTree

/-- What a call does in a tree. -/
def record (r : LinkRegistry) (cwd : Place) (t : FileTree) (c : Call) : Record :=
  ⟨c, ((c.script r).run cwd t).1, t, ((c.script r).run cwd t).2⟩

/-- What calls one after another do. -/
def history (r : LinkRegistry) (cwd : Place) : FileTree → List Call → List Record
  | _, [] => []
  | t, c :: calls => r.record cwd t c :: r.history cwd (r.record cwd t c).after calls

/-- A call that does what its answer says. -/
inductive Lawful (r : LinkRegistry) (s : Site) : Record → Prop where
  | linked {name : String} {t t' : FileTree} {answer : Except LinkError String}
      (h : Linked r s name t answer t') : Lawful r s ⟨.link name, .linked answer, t, t'⟩
  | unlinked {name : String} {t t' : FileTree} {answer : Except LinkError Unit}
      (h : Unlinked r s name t answer t') : Lawful r s ⟨.unlink name, .unlinked answer, t, t'⟩
  | listed {names : List String} {t : FileTree} (h : s.Listed t names) :
      Lawful r s ⟨.names, .listed (.ok names), t, t⟩

/-- What no call touches: the two directories of links that are always there, and what stands in the
user's directory under a name that is reserved or no name at all. -/
structure Site.Spared (s : Site) (t t' : FileTree) : Prop where
  builtin : ∀ q, s.defaultDir <+: q ∨ s.priorityDir <+: q → t'.node? q = t.node? q
  entry : ∀ name, ¬Path.IsName name.toList ∨ s.Reserved t name → s.named? t' name = s.named? t name

namespace Site.Spared

variable {s : Site} {t t' t'' : FileTree}

/-- Nothing need have been touched. -/
lemma refl (s : Site) (t : FileTree) : s.Spared t t := ⟨fun _ _ => rfl, fun _ _ => rfl⟩

/-- The same names are reserved afterwards. -/
lemma reserved_iff (h : s.Spared t t') (name : String) :
    s.Reserved t' name ↔ s.Reserved t name := by
  unfold Reserved
  rw [h.builtin _ (.inl (List.prefix_append _ _)), h.builtin _ (.inr (List.prefix_append _ _))]

/-- What is spared by one call and by the next is spared by both. -/
lemma trans (h : s.Spared t t') (h' : s.Spared t' t'') : s.Spared t t'' where
  builtin q hq := (h'.builtin q hq).trans (h.builtin q hq)
  entry name hname :=
    (h'.entry name (hname.imp id (h.reserved_iff name).2)).trans (h.entry name hname)

end Site.Spared

variable {r : LinkRegistry} {cwd : Place} {s : Site} {t t' : FileTree}

namespace StandsAt

/-- **Each call is lawful**, and the registry stands where it did. -/
lemma lawful_record (h : r.StandsAt cwd s t) (c : Call) :
    Lawful r s (r.record cwd t c) ∧ r.StandsAt cwd s (r.record cwd t c).after := by
  unfold record
  cases c with
  | link name =>
    obtain ⟨hlinked, hstands⟩ := h.run_link name
    simp only [Call.script, Script.run_bind]
    exact ⟨.linked hlinked, hstands⟩
  | unlink name =>
    obtain ⟨hunlinked, hstands⟩ := h.run_unlink name
    simp only [Call.script, Script.run_bind]
    exact ⟨.unlinked hunlinked, hstands⟩
  | names =>
    obtain ⟨names, hrun, hlisted⟩ := h.run_names
    simp only [Call.script, Script.run_bind, hrun]
    exact ⟨.listed hlisted, h⟩

end StandsAt

/-- A name that can be linked is not one that no call touches. -/
lemma Site.place_ne {name x : String} (hname : Path.IsName name.toList) (hfree : ¬s.Reserved t name)
    (hx : ¬Path.IsName x.toList ∨ s.Reserved t x) : s.userDir ++ [x] ≠ s.userDir ++ [name] := by
  intro heq
  obtain rfl : x = name := by simpa using heq
  exact hx.elim (fun h => h hname) hfree

/-- Making a link and directories above it spares what no call touches. -/
lemma Site.Spared.of_made (h : r.StandsAt cwd s t) {name : String} {n : Node}
    (hname : Path.IsName name.toList) (hfree : ¬s.Reserved t name)
    (hnode : ∀ q, t'.node? q = if q = s.userDir ++ [name] then some n
      else if q <+: s.userDir then some .directory else t.node? q) : s.Spared t t' where
  builtin q hq := by
    obtain ⟨hbelow, habove⟩ := h.apart hq
    have hne : q ≠ s.userDir ++ [name] := fun heq => hbelow (heq ▸ List.prefix_append _ _)
    rw [hnode, if_neg hne, if_neg habove]
  entry x hx := by
    rw [Site.named?, hnode, if_neg (Site.place_ne hname hfree hx),
      if_neg (FileTree.not_prefix_of_concat _ _), Site.named?]

/-- Removing a link spares what no call touches. -/
lemma Site.Spared.of_removed (h : r.StandsAt cwd s t) {name : String}
    (hname : Path.IsName name.toList) (hfree : ¬s.Reserved t name)
    (hnode : ∀ q, t'.node? q = if q = s.userDir ++ [name] then none else t.node? q) :
    s.Spared t t' where
  builtin q hq := by
    have hne : q ≠ s.userDir ++ [name] := fun heq => (h.apart hq).1 (heq ▸ List.prefix_append _ _)
    rw [hnode, if_neg hne]
  entry x hx := by
    rw [Site.named?, hnode, if_neg (Site.place_ne hname hfree hx), Site.named?]

/-- Making directories above the user's links spares what no call touches. -/
lemma Site.Spared.of_paved (h : r.StandsAt cwd s t) (hpaved : FileTree.Paved s.userDir t t') :
    s.Spared t t' where
  builtin _ hq := hpaved.node?_eq (h.apart hq).2
  entry _ _ := hpaved.node?_eq (FileTree.not_prefix_of_concat _ _)

/-- **What one call spares.** -/
lemma Lawful.spared {e : Record} (he : Lawful r s e) (h : r.StandsAt cwd s e.before) :
    s.Spared e.before e.after := by
  cases he with
  | linked he =>
    cases he with
    | made hname hfree _ hnode => exact .of_made h hname hfree hnode
    | noDirectory _ _ _ hpaved | noLink _ _ _ _ hpaved => exact .of_paved h hpaved
    | _ => exact .refl s _
  | unlinked he =>
    cases he with
    | removed hname hfree _ hnode => exact .of_removed h hname hfree hnode
    | _ => exact .refl s _
  | listed _ => exact .refl s _

/-- **What holds of every call in a history**: the registry stands before and after it, it is
lawful, and all calls up to it have spared what it spares. -/
lemma history_induction (h : r.StandsAt cwd s t) (calls : List Call) :
    ∀ e ∈ r.history cwd t calls, r.StandsAt cwd s e.before ∧ r.StandsAt cwd s e.after ∧
      Lawful r s e ∧ s.Spared t e.before ∧ s.Spared t e.after := by
  induction calls generalizing t with
  | nil => exact fun e he => absurd he List.not_mem_nil
  | cons c calls ih =>
    obtain ⟨hlawful, hstands⟩ := h.lawful_record c
    have hspared : s.Spared t (r.record cwd t c).after := hlawful.spared h
    intro e he
    rcases List.mem_cons.1 he with rfl | he
    · exact ⟨h, hstands, hlawful, .refl s t, hspared⟩
    · obtain ⟨hbefore, hafter, he', hsbefore, hsafter⟩ := ih hstands e he
      exact ⟨hbefore, hafter, he', hspared.trans hsbefore, hspared.trans hsafter⟩

/-- **A link that was just made can be taken back**, and then the user's links are what they were.

**Proof sketch.** A link that was made stands under its name, which is not reserved, since making it
has spared the directories of reserved names.  Of all that a call to remove it can do
(`run_unlink`), the other cases contradict one of these facts, and the removal leaves nothing under
this name, as before, and all other names as they were. -/
lemma Linked.run_unlink {name path : String} (he : Linked r s name t (.ok path) t')
    (h : r.StandsAt cwd s t) (h' : r.StandsAt cwd s t') :
    ((r.unlink name).run cwd t').1 = .ok () ∧
      ∀ x, s.named? ((r.unlink name).run cwd t').2 x = s.named? t x := by
  cases he with
  | made hname hfree hnone hnode =>
    have hspared : s.Spared t t' := .of_made h hname hfree hnode
    have hfree' : ¬s.Reserved t' name := fun hreserved =>
      hfree ((hspared.reserved_iff name).1 hreserved)
    have hentry : ∀ x,
        s.named? t' x = if x = name then some (.link r.target) else s.named? t x := by
      intro x
      rw [Site.named?, hnode, if_neg (FileTree.not_prefix_of_concat _ _)]
      simp only [List.append_cancel_left_eq, List.cons.injEq, and_true]
      rfl
    have hthere : s.named? t' name = some (.link r.target) := by rw [hentry, if_pos rfl]
    have hfile : IsFileName name := by
      rw [Site.named?] at hthere
      exact h'.sound.name hthere
    -- of what a call to remove it can do, only one goes with a link that is there
    have hunlinked := (h'.run_unlink name).1
    generalize (r.unlink name).run cwd t' = out at hunlinked
    obtain ⟨answer, t''⟩ := out
    cases hunlinked with
    | removed _ _ _ hgone =>
      refine ⟨rfl, fun x => ?_⟩
      rw [Site.named?, hgone]
      by_cases hx : x = name
      · rw [if_pos (by rw [hx]), hx, hnone]
      · rw [if_neg (by simpa using hx)]
        exact (hentry x).trans (if_neg hx)
    | invalid hbad => exact absurd hname hbad
    | reserved hbad => exact absurd hbad hfree'
    | missing _ _ hbad => rw [hthere] at hbad; cases hbad
    | unfit _ _ hunfit => exact absurd hfile hunfit
    | notLink _ _ hbad hn =>
      rw [hthere] at hbad
      cases hbad
      cases hn

/-- **Every history of a registry is lawful.**  Each call does what its answer says; what is always
linked, and what is no name at all, is as it was at first; and after each call that made a link,
taking the link back succeeds and leaves in the user's directory what was there before. -/
theorem history_lawful (h : r.StandsAt cwd s t) (calls : List Call) :
    ∀ e ∈ r.history cwd t calls,
      Lawful r s e ∧ s.Spared t e.before ∧ s.Spared t e.after ∧
      ∀ name path, e.call = .link name → e.answer = .linked (.ok path) →
        ((r.unlink name).run cwd e.after).1 = .ok () ∧
          ∀ x, s.named? ((r.unlink name).run cwd e.after).2 x = s.named? e.before x := by
  intro e he
  obtain ⟨hbefore, hafter, hlawful, hsbefore, hsafter⟩ := history_induction h calls e he
  refine ⟨hlawful, hsbefore, hsafter, fun name path hcall hanswer => ?_⟩
  cases hlawful with
  | linked hlinked =>
    cases hcall
    cases hanswer
    exact hlinked.run_unlink hbefore hafter
  | unlinked => cases hcall
  | listed => cases hcall

/-- The lawful history of five calls, of which two are refused. -/
theorem history_lawful_sample :
    let calls : List Call := [.link "note", .link "code", .names, .unlink "note", .unlink "open"]
    sample.StandsAt [] sampleSite sampleTree ∧
      ∀ e ∈ sample.history [] sampleTree calls, Lawful sample sampleSite e ∧
        sampleSite.Spared sampleTree e.before ∧ sampleSite.Spared sampleTree e.after ∧
        ∀ name path, e.call = .link name → e.answer = .linked (.ok path) →
          ((sample.unlink name).run [] e.after).1 = .ok () ∧
            ∀ x, sampleSite.named? ((sample.unlink name).run [] e.after).2 x =
              sampleSite.named? e.before x :=
  ⟨standsAt_sample, history_lawful standsAt_sample _⟩

/-- The paths have to lead somewhere: where a file bars them, no directory is there and none can be
made, and to ask for the names of the links is an error. -/
theorem names_below_file :
    let t : FileTree := ⟨.ofList [(["p"], .file [] false)]⟩
    let r : LinkRegistry := ⟨"/p/links", "/p/bin", "/p/bin-priority", "/ferry"⟩
    t.Sound ∧ t.node? ["p", "links"] = none ∧ t.node? ["p", "bin"] = none ∧
      t.node? ["p", "bin-priority"] = none ∧
      (r.names.run [] t).1 = .error (.file "/p/links" .notDirectory) :=
  ⟨.of_entries (by decide), by rfl, by rfl, by rfl, by rfl⟩

end CommandRelay.LinkRegistry
