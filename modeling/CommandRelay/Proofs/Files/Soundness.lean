import CommandRelay.Proofs.Files.Walking
import CommandRelay.Proofs.Path.Segments
import Mathlib.Data.List.Induction

/-!
# Sound file trees

In the tree of a file system everything stands in a directory, under a name that a directory can
hold.  Each change that an operation makes keeps it so.

## Main definitions

* `IsFileName` — a name that something in a directory can have.
* `FileTree.Sound` — everything stands in a directory.
* `FileTree.Paved` — directories are made on the way to a place.

## Main results

* `FileTree.Sound.above` — above everything there are directories.
* `FileTree.Sound.put`, `FileTree.Sound.erase`, `FileTree.Sound.eraseBelow` — what changes keep.
* `FileTree.mem_entries`, `FileTree.nodup_entries` — what a directory holds.
-/

namespace CommandRelay

namespace Path.IsName

variable {name : String}

/-- No name is empty. -/
lemma text_ne_empty (h : IsName name.toList) : name ≠ "" := fun hname => h.ne_nil (hname ▸ rfl)

/-- No name is the single dot. -/
lemma text_ne_dot (h : IsName name.toList) : name ≠ "." := fun hname => h.ne_dot (hname ▸ rfl)

/-- No name is the double dot. -/
lemma text_ne_up (h : IsName name.toList) : name ≠ ".." := fun hname => h.ne_up (hname ▸ rfl)

end Path.IsName

/-- A name that something in a directory can have. -/
structure IsFileName (name : String) : Prop where
  isName : Path.IsName name.toList
  noNul : '\x00' ∉ name.toList
  short : name.utf8ByteSize ≤ Way.maxName

/-- The four parts are decided one by one. -/
instance (s : List Char) : Decidable (Path.IsName s) :=
  decidable_of_iff (s ≠ [] ∧ s ≠ ['.'] ∧ s ≠ Path.up ∧ '/' ∉ s)
    ⟨fun h => ⟨h.1, h.2.1, h.2.2.1, h.2.2.2⟩, fun h => ⟨h.ne_nil, h.ne_dot, h.ne_up, h.noSlash⟩⟩

/-- The three parts are decided one by one. -/
instance (name : String) : Decidable (IsFileName name) :=
  decidable_of_iff
    (Path.IsName name.toList ∧ '\x00' ∉ name.toList ∧ name.utf8ByteSize ≤ Way.maxName)
    ⟨fun h => ⟨h.1, h.2.1, h.2.2⟩, fun h => ⟨h.isName, h.noNul, h.short⟩⟩

/-- No name that a directory can hold is the single dot. -/
lemma IsFileName.ne_dot {name : String} (h : IsFileName name) : name ≠ "." := h.isName.text_ne_dot

/-- No name that a directory can hold is the double dot. -/
lemma IsFileName.ne_up {name : String} (h : IsFileName name) : name ≠ ".." := h.isName.text_ne_up

namespace FileTree

variable {t t' : FileTree}

/-- What stands in a directory is not above it. -/
lemma not_prefix_of_concat (place : Place) (name : String) : ¬place ++ [name] <+: place := by
  intro h
  have hlength := h.length_le
  simp only [List.length_append, List.length_singleton] at hlength
  omega

/-- What stands in a directory or below it does not stand in another one beside it, nor above that.
-/
lemma apart_of_sibling {parent q : Place} {x y : String} (h : x ≠ y) (hq : parent ++ [x] <+: q) :
    ¬parent ++ [y] <+: q ∧ ¬q <+: parent ++ [y] := by
  have hne : ¬parent ++ [x] <+: parent ++ [y] := by
    rw [List.prefix_append_right_inj, List.cons_prefix_cons]
    exact fun hx => h hx.1
  refine ⟨fun hy => hne ?_, fun hy => hne (hq.trans hy)⟩
  exact List.prefix_of_prefix_length_le hq hy (by simp)

/-- A name leads into a directory. -/
lemma child_name {here : Place} {name : String} (h : t.node? here = some .directory)
    (hname : IsFileName name) : t.child here name = .ok (here ++ [name]) :=
  child_eq_ok.2 ⟨h, .inr (.inr ⟨hname.ne_dot, hname.ne_up, hname.short, rfl⟩)⟩

/-- Everything stands in a directory, under a name that a directory can hold. -/
structure Sound (t : FileTree) : Prop where
  parent : ∀ {p : Place} {name : String} {n : Node},
    t.node? (p ++ [name]) = some n → t.node? p = some .directory
  name : ∀ {p : Place} {name : String} {n : Node},
    t.node? (p ++ [name]) = some n → IsFileName name

namespace Sound

/-- A tree is sound if each of its entries is in a directory, which can be seen by looking at them.
-/
lemma of_entries (h : ∀ e ∈ t.nodes.entries, t.node? e.1.dropLast = some .directory ∧
    ∀ name ∈ e.1.getLast?, IsFileName name) : t.Sound := by
  have hentry : ∀ {p : Place} {name : String} {n : Node}, t.node? (p ++ [name]) = some n →
      (p ++ [name], n) ∈ t.nodes.entries := by
    intro p name n hnode
    rw [node?, if_neg (by simp)] at hnode
    exact Dictionary.mem_of_get? hnode
  refine ⟨fun hnode => ?_, fun hnode => ?_⟩
  · simpa using (h _ (hentry hnode)).1
  · exact (h _ (hentry hnode)).2 _ (by simp)

/-- **Above everything there are directories.** -/
lemma above (h : t.Sound) {p q : Place} (hpq : p <+: q) (hne : p ≠ q) {n : Node}
    (hnode : t.node? q = some n) : t.node? p = some .directory := by
  induction q using List.reverseRecOn generalizing n with
  | nil => exact absurd (List.prefix_nil.1 hpq) hne
  | append_singleton q name ih =>
    have hq : t.node? q = some .directory := h.parent hnode
    have hbelow : p <+: q := (List.prefix_concat_iff.1 hpq).resolve_left hne
    by_cases hsame : p = q
    · rw [hsame, hq]
    · exact ih hbelow hsame hq

/-- Nothing stands below what is no directory. -/
lemma none_below (h : t.Sound) {p q : Place} (hpq : p <+: q) (hne : p ≠ q)
    (hnode : t.node? p ≠ some .directory) : t.node? q = none := by
  cases hq : t.node? q with
  | none => rfl
  | some n => exact absurd (h.above hpq hne hq) hnode

/-- Something new in a directory. -/
lemma put (h : t.Sound) {place : Place} {name : String} (hplace : t.node? place = some .directory)
    (hname : IsFileName name) (hfree : t.node? (place ++ [name]) = none) (n : Node) :
    (t.put (place ++ [name]) n).Sound where
  parent {p x m} hnode := by
    rw [node?_put _ _ (by simp)] at hnode ⊢
    split_ifs at hnode with hnew
    · obtain ⟨rfl, -⟩ := List.append_inj' hnew rfl
      rw [if_neg (by simp), hplace]
    · have hp : t.node? p = some .directory := h.parent hnode
      rw [if_neg fun hsame => ?_, hp]
      rw [← hsame, hp] at hfree
      cases hfree
  name {p x m} hnode := by
    rw [node?_put _ _ (by simp)] at hnode
    split_ifs at hnode with hnew
    · obtain ⟨-, hx⟩ := List.append_inj' hnew rfl
      obtain rfl : x = name := by simpa using hx
      exact hname
    · exact h.name hnode

/-- What is no directory can be taken away. -/
lemma erase (h : t.Sound) {place : Place} (hne : place ≠ [])
    (hplace : t.node? place ≠ some .directory) : (t.erase place).Sound where
  parent {p x m} hnode := by
    rw [node?_erase _ hne] at hnode ⊢
    split_ifs at hnode with hgone
    have hp : t.node? p = some .directory := h.parent hnode
    rw [if_neg fun hsame : p = place => hplace (hsame ▸ hp), hp]
  name {p x m} hnode := by
    rw [node?_erase _ hne] at hnode
    split_ifs at hnode with hgone
    exact h.name hnode

/-- A directory can be taken away with everything in it. -/
lemma eraseBelow (h : t.Sound) {place : Place} (hne : place ≠ []) : (t.eraseBelow place).Sound where
  parent {p x m} hnode := by
    rw [node?_eraseBelow _ hne] at hnode ⊢
    split_ifs at hnode with hgone
    rw [if_neg fun hp => hgone (hp.trans (List.prefix_append p [x])), h.parent hnode]
  name {p x m} hnode := by
    rw [node?_eraseBelow _ hne] at hnode
    split_ifs at hnode with hgone
    exact h.name hnode

/-- A directory can be emptied. -/
lemma eraseInside (h : t.Sound) (place : Place) : (t.eraseInside place).Sound where
  parent {p x m} hnode := by
    rw [node?_eraseInside] at hnode ⊢
    split_ifs at hnode with hgone
    rw [if_neg fun hp => hgone ⟨hp.1.trans (List.prefix_append p [x]), ?_⟩, h.parent hnode]
    rintro rfl
    exact not_prefix_of_concat p x hp.1
  name {p x m} hnode := by
    rw [node?_eraseInside] at hnode
    split_ifs at hnode with hgone
    exact h.name hnode

end Sound

/-! ## Changes -/

/-- A tree is part of what it is after something was put where nothing stood. -/
lemma Within.put {place : Place} (hne : place ≠ []) (hfree : t.node? place = none) (n : Node) :
    t.Within (t.put place n) := by
  intro p m hnode
  rw [node?_put _ _ hne, if_neg fun hsame => ?_, hnode]
  rw [hsame, hfree] at hnode
  cases hnode

/-- A tree without what is below a place is part of it. -/
lemma Within.eraseBelow {place : Place} (hne : place ≠ []) : (t.eraseBelow place).Within t := by
  intro p n hnode
  rw [node?_eraseBelow _ hne] at hnode
  split_ifs at hnode
  exact hnode

/-- A tree without what is inside a place is part of it. -/
lemma Within.eraseInside (place : Place) : (t.eraseInside place).Within t := by
  intro p n hnode
  rw [node?_eraseInside] at hnode
  split_ifs at hnode
  exact hnode

/-- Some of the directories that are missing on the way to a place are made, and nothing else is
changed. -/
def Paved (place : Place) (t t' : FileTree) : Prop :=
  ∀ q, t'.node? q = t.node? q ∨
    (q <+: place ∧ t.node? q = none ∧ t'.node? q = some .directory)

namespace Paved

variable {place : Place}

/-- No directory has to be made. -/
lemma refl (place : Place) (t : FileTree) : Paved place t t := fun _ => .inl rfl

/-- More of the missing directories may be made later. -/
lemma trans {t'' : FileTree} (h : Paved place t t') (h' : Paved place t' t'') :
    Paved place t t'' := by
  intro q
  rcases h' q with hsame' | ⟨hq, hnone, hnew⟩
  · rw [hsame']
    exact h q
  · rcases h q with hsame | ⟨-, -, hdirectory⟩
    · exact .inr ⟨hq, hsame ▸ hnone, hnew⟩
    · rw [hnone] at hdirectory
      cases hdirectory

/-- One directory that was missing. -/
lemma put {p : Place} (hne : p ≠ []) (hp : p <+: place) (hfree : t.node? p = none) :
    Paved place t (t.put p .directory) := by
  intro q
  rw [node?_put _ _ hne]
  split_ifs with hq
  · exact .inr ⟨hq ▸ hp, hq ▸ hfree, rfl⟩
  · exact .inl rfl

/-- Making directories takes nothing away. -/
lemma within (h : Paved place t t') : t.Within t' := by
  intro q n hnode
  rcases h q with hsame | ⟨-, hnone, -⟩
  · rw [hsame, hnode]
  · rw [hnode] at hnone
    cases hnone

/-- Away from the place nothing changes. -/
lemma node?_eq (h : Paved place t t') {q : Place} (hq : ¬q <+: place) : t'.node? q = t.node? q :=
  (h q).resolve_right fun hnew => hq hnew.1

end Paved

/-! ## What a directory holds -/

/-- **What a directory holds** is listed. -/
lemma mem_entries {p : Place} {name : String} {n : Node} :
    (name, n) ∈ t.entries p ↔ t.node? (p ++ [name]) = some n := by
  have hget : t.node? (p ++ [name]) = t.nodes.get? (p ++ [name]) := by simp [node?]
  rw [hget, entries, List.mem_filterMap]
  constructor
  · rintro ⟨⟨q, m⟩, hmem, hentry⟩
    split at hentry
    · next x hbelow hdrop =>
      obtain ⟨rest, rfl⟩ := List.isPrefixOf_iff_prefix.1 hbelow
      simp only [List.drop_left] at hdrop
      obtain ⟨rfl, rfl⟩ : x = name ∧ m = n := by simpa using hentry
      rw [← hdrop]
      exact t.nodes.get?_of_mem hmem
    · cases hentry
  · intro hnode
    have hbelow : p.isPrefixOf (p ++ [name]) = true :=
      List.isPrefixOf_iff_prefix.2 (List.prefix_append p [name])
    exact ⟨_, Dictionary.mem_of_get? hnode, by simp [hbelow]⟩

/-- A directory holds each name once. -/
lemma nodup_entries (t : FileTree) (p : Place) : ((t.entries p).map Prod.fst).Nodup := by
  refine List.pairwise_map.2 (List.pairwise_filterMap.2 (t.nodes.sorted.imp ?_))
  intro a b hlt e he e' he' hsame
  split at he
  · next x hbelow hdrop =>
    split at he'
    · next y hbelow' hdrop' =>
      obtain ⟨rest, ha⟩ := List.isPrefixOf_iff_prefix.1 hbelow
      obtain ⟨rest', hb⟩ := List.isPrefixOf_iff_prefix.1 hbelow'
      rw [← ha, List.drop_left] at hdrop
      rw [← hb, List.drop_left] at hdrop'
      obtain rfl : x = y := by
        cases he
        cases he'
        exact hsame
      rw [← ha, ← hb, hdrop, hdrop'] at hlt
      exact Std.lt_irrefl hlt
    · cases he'
  · cases he

end FileTree

end CommandRelay
