import CommandRelay.Files.Walk
import Mathlib.Data.List.Basic
import Mathlib.Tactic.Common

/-!
# Walks through a file tree

A walk along names can be cut into a walk along the first of them and a walk along the others.  What
a walk finds is found in every larger tree as well, and the single dots among the names do not
matter as long as the walk ends at a directory.

## Main definitions

* `FileTree.Within` — a tree is part of another one.
* `FileTree.bare` — names without single dots.

## Main results

* `FileTree.child_eq_ok` — the places that one name leads to.
* `FileTree.walk_append_ok`, `FileTree.walk_append_error` — walks one after another.
* `FileTree.Within.walk` — a walk through a larger tree.
* `FileTree.walk_congr` — walks along the same names but for single dots.
-/

namespace CommandRelay.FileTree

/-! ## One name -/

/-- **The places that one name leads to**, from a directory only. -/
lemma child_eq_ok {t : FileTree} {here place : Place} {name : String} :
    t.child here name = .ok place ↔ t.node? here = some .directory ∧
      ((name = "." ∧ place = here) ∨ (name = ".." ∧ place = here.dropLast) ∨
        (name ≠ "." ∧ name ≠ ".." ∧ name.utf8ByteSize ≤ Way.maxName ∧ place = here ++ [name])) := by
  unfold child
  split
  · next hnone => simp [hnone]
  · next hdirectory =>
    rw [hdirectory]
    split_ifs with hdot hup hlong
    · subst hdot
      simp [eq_comm]
    · subst hup
      simp [eq_comm]
    · simp [hdot, hup, Nat.not_le.2 hlong]
    · simp [hdot, hup, Nat.not_lt.1 hlong, eq_comm]
  · next n hother hnode =>
    simp only [hnode, Option.some.injEq, reduceCtorEq, false_iff, not_and]
    exact fun hdirectory => absurd hdirectory hother

/-- Only a directory has names in it. -/
lemma isDirectory_of_child {t : FileTree} {here place : Place} {name : String}
    (h : t.child here name = .ok place) : t.node? here = some .directory :=
  (child_eq_ok.1 h).1

/-- The single dot in a directory is the directory. -/
lemma child_dot {t : FileTree} {here : Place} (h : t.node? here = some .directory) :
    t.child here "." = .ok here := by
  simp [child, h]

/-! ## Names one after another -/

/-- A way starts at the root or where it is walked from. -/
lemma start_of_ofPath {cwd : Place} {path : String} {w : Way} (h : Way.ofPath cwd path = .ok w) :
    w.start = [] ∨ w.start = cwd := by
  simp only [Way.ofPath] at h
  split_ifs at h <;> cases h
  · exact .inl rfl
  · exact .inr rfl

/-- A link on the way is followed before the names that come later. -/
lemma followLink_append (here : Place) (target : String) (a b : List String) :
    followLink here target (a ++ b) =
      (followLink here target a).map fun next => (next.1, next.2 ++ b) := by
  unfold followLink
  cases Way.ofPath here target <;> simp [Except.map]

/-- A stride goes on where no link stands. -/
lemma stride_cons {t : FileTree} {here place : Place} {name : String} {n : Node}
    (hchild : t.child here name = .ok place) (hnode : t.node? place = some n)
    (hlink : ∀ target, n ≠ .link target) (names : List String) :
    t.stride here (name :: names) = t.stride place names := by
  rw [stride, hchild]
  cases n with
  | link target => exact absurd rfl (hlink target)
  | _ => simp only [hnode]

/-- What is left to walk along when the names `b` come behind. -/
def behind (b : List String) : Place ⊕ Place × List String → Place ⊕ Place × List String
  | .inl place => .inl place
  | .inr (place, names) => .inr (place, names ++ b)

/-- Walking along some names up to the first link, where others come behind them. -/
lemma stride_append (t : FileTree) (here : Place) (a b : List String) :
    t.stride here (a ++ b) =
      match t.stride here a with
      | .error e => .error e
      | .ok (.inl place) => t.stride place b
      | .ok (.inr next) => .ok (behind b (.inr next)) := by
  fun_induction t.stride here a with
  | case1 => rfl
  | case2 here name a e hchild => rw [List.cons_append, stride, hchild]
  | case3 here name a place hchild hnode =>
    rw [List.cons_append, stride, hchild]
    simp only [hnode]
  | case4 here name a place hchild target hnode =>
    rw [List.cons_append, stride, hchild]
    simp only [hnode, followLink_append]
    cases followLink here target a <;> rfl
  | case5 here name a place hchild n hlink hnode ih =>
    rw [List.cons_append, stride_cons hchild hnode hlink]
    exact ih

/-- A walk that fails at some names fails with more behind them. -/
lemma walk_append_error {t : FileTree} {links : Nat} {here : Place} {a : List String}
    {e : FileError}
    (h : t.walk links here a = .error e) (b : List String) :
    t.walk links here (a ++ b) = .error e := by
  fun_induction t.walk links here a with
  | case1 links here a e' hstride =>
    rw [walk.eq_def, stride_append, hstride]
    exact h
  | case2 => cases h
  | case3 here a place names hstride =>
    rw [walk, stride_append, hstride]
    exact h
  | case4 here a place names hstride links ih =>
    rw [walk, stride_append, hstride]
    exact ih h

/-- **Walks one after another**: behind a walk that ends, the other names are walked along from its
end, with the links that may still be followed. -/
lemma walk_append_ok {t : FileTree} {links : Nat} {here place : Place} {a : List String}
    (h : t.walk links here a = .ok place) :
    ∃ left, ∀ b, t.walk links here (a ++ b) = t.walk left place b := by
  fun_induction t.walk links here a with
  | case1 => cases h
  | case2 links here a end_ hstride =>
    cases h
    refine ⟨links, fun b => ?_⟩
    rw [walk.eq_def, stride_append, hstride]
    exact (walk.eq_def ..).symm
  | case3 => cases h
  | case4 here a next names hstride links ih =>
    obtain ⟨left, hleft⟩ := ih h
    refine ⟨left, fun b => ?_⟩
    rw [walk, stride_append, hstride]
    exact hleft b

/-- A walk starts at a directory if it goes anywhere. -/
lemma isDirectory_start {t : FileTree} {links : Nat} {here place : Place} {names : List String}
    (h : t.walk links here names = .ok place) (hplace : t.node? place = some .directory) :
    t.node? here = some .directory := by
  cases names with
  | nil =>
    rw [walk_nil] at h
    cases h
    exact hplace
  | cons name names =>
    cases hchild : t.child here name with
    | ok next => exact isDirectory_of_child hchild
    | error e =>
      rw [walk.eq_def, stride] at h
      simp [hchild] at h

section LastName

variable {t : FileTree} {links : Nat} {here place : Place} {names : List String} {name : String}

/-- A walk to a place and on to something there that is no link. -/
lemma walk_snoc {n : Node} (h : t.walk links here names = .ok place)
    {next : Place} (hchild : t.child place name = .ok next) (hnode : t.node? next = some n)
    (hlink : n.isLink = false) : t.walk links here (names ++ [name]) = .ok next := by
  obtain ⟨left, hleft⟩ := walk_append_ok h
  have hother : ∀ target, n ≠ .link target := by
    rintro target rfl
    cases hlink
  have hstride : t.stride place [name] = .ok (.inl next) := by
    rw [stride_cons hchild hnode hother, stride]
  rw [hleft, walk.eq_def, hstride]

/-- A walk to a place from which the last name does not lead on. -/
lemma walk_snoc_child_error (h : t.walk links here names = .ok place) {e : FileError}
    (hchild : t.child place name = .error e) : t.walk links here (names ++ [name]) = .error e := by
  obtain ⟨left, hleft⟩ := walk_append_ok h
  rw [hleft, walk.eq_def, stride, hchild]

/-- A walk to a place and on to where nothing stands. -/
lemma walk_snoc_error (h : t.walk links here names = .ok place) {next : Place}
    (hchild : t.child place name = .ok next) (hnode : t.node? next = none) :
    t.walk links here (names ++ [name]) = .error .notFound := by
  obtain ⟨left, hleft⟩ := walk_append_ok h
  rw [hleft, walk.eq_def, stride, hchild]
  simp [hnode]

end LastName

/-! ## Larger trees -/

/-- Everything that stands in a tree stands in another one. -/
def Within (t t' : FileTree) : Prop := ∀ p n, t.node? p = some n → t'.node? p = some n

namespace Within

variable {t t' : FileTree}

/-- A tree is within itself. -/
lemma refl (t : FileTree) : t.Within t := fun _ _ h => h

/-- A tree within a tree within a third one is within that one. -/
lemma trans {t'' : FileTree} (h : t.Within t') (h' : t'.Within t'') : t.Within t'' :=
  fun p n hnode => h' p n (h p n hnode)

/-- A name leads to the same place in a larger tree. -/
lemma child (h : t.Within t') {here place : Place} {name : String}
    (hchild : t.child here name = .ok place) : t'.child here name = .ok place := by
  obtain ⟨hdirectory, hplace⟩ := child_eq_ok.1 hchild
  exact child_eq_ok.2 ⟨h _ _ hdirectory, hplace⟩

/-- A stride leads to the same place in a larger tree. -/
lemma stride (h : t.Within t') {here : Place} {names : List String}
    {next : Place ⊕ Place × List String} (hstride : t.stride here names = .ok next) :
    t'.stride here names = .ok next := by
  fun_induction FileTree.stride t here names with
  | case1 => exact hstride
  | case2 | case3 => cases hstride
  | case4 here name names place hchild target hnode =>
    rw [FileTree.stride, h.child hchild]
    simpa only [h _ _ hnode] using hstride
  | case5 here name names place hchild n hlink hnode ih =>
    rw [stride_cons (h.child hchild) (h _ _ hnode) hlink]
    exact ih hstride

/-- **A walk through a larger tree** goes the same way. -/
lemma walk (h : t.Within t') {links : Nat} {here place : Place} {names : List String}
    (hwalk : t.walk links here names = .ok place) : t'.walk links here names = .ok place := by
  fun_induction FileTree.walk t links here names with
  | case1 => cases hwalk
  | case2 links here names end_ hstride =>
    rw [FileTree.walk.eq_def, h.stride hstride]
    exact hwalk
  | case3 => cases hwalk
  | case4 here names next rest hstride links ih =>
    rw [FileTree.walk, h.stride hstride]
    exact ih hwalk

/-! A walk that something stops, other than that nothing is there, is stopped in a larger tree too.
-/

/-- An error that does not say that something is missing stays in a larger tree. -/
lemma child_error (h : t.Within t') {here : Place} {name : String} {e : FileError}
    (hchild : t.child here name = .error e) (he : e ≠ .notFound) :
    t'.child here name = .error e := by
  cases hnode : t.node? here with
  | none =>
    simp only [FileTree.child, hnode, Except.error.injEq] at hchild
    exact absurd hchild.symm he
  | some n =>
    simp only [FileTree.child, h _ _ hnode]
    simpa only [FileTree.child, hnode] using hchild

/-- So it does at the end of a stride. -/
lemma stride_error (h : t.Within t') {here : Place} {names : List String} {e : FileError}
    (hstride : t.stride here names = .error e) (he : e ≠ .notFound) :
    t'.stride here names = .error e := by
  fun_induction FileTree.stride t here names with
  | case1 => cases hstride
  | case2 here name names e' hchild =>
    cases hstride
    rw [FileTree.stride, h.child_error hchild he]
  | case3 =>
    cases hstride
    exact absurd rfl he
  | case4 here name names place hchild target hnode =>
    rw [FileTree.stride, h.child hchild]
    simpa only [h _ _ hnode] using hstride
  | case5 here name names place hchild n hlink hnode ih =>
    rw [stride_cons (h.child hchild) (h _ _ hnode) hlink]
    exact ih hstride

/-- So it does at the end of a walk. -/
lemma walk_error (h : t.Within t') {links : Nat} {here : Place} {names : List String}
    {e : FileError}
    (hwalk : t.walk links here names = .error e) (he : e ≠ .notFound) :
    t'.walk links here names = .error e := by
  fun_induction FileTree.walk t links here names with
  | case1 links here names e' hstride =>
    cases hwalk
    rw [FileTree.walk.eq_def, h.stride_error hstride he]
  | case2 => cases hwalk
  | case3 here names next rest hstride =>
    rw [FileTree.walk, h.stride hstride]
    exact hwalk
  | case4 here names next rest hstride links ih =>
    rw [FileTree.walk, h.stride hstride]
    exact ih hwalk

end Within

/-! ## Single dots -/

/-- Names without single dots. -/
def bare (names : List String) : List String := names.filter (· ≠ ".")

/-- No names have no dots among them. -/
@[simp] lemma bare_nil : bare [] = [] := rfl

/-- Dots are left out of each part. -/
@[simp] lemma bare_append (a b : List String) : bare (a ++ b) = bare a ++ bare b :=
  List.filter_append ..

/-- A dot is left out. -/
@[simp] lemma bare_dot (names : List String) : bare ("." :: names) = bare names := by
  simp [bare]

/-- Another name is not left out. -/
lemma bare_cons {name : String} (h : name ≠ ".") (names : List String) :
    bare (name :: names) = name :: bare names := by
  simp [bare, h]

/-- Dots are left out once and for all. -/
@[simp] lemma bare_bare (names : List String) : bare (bare names) = bare names := by
  simp [bare, List.filter_filter]

/-- A dot in a directory does not change a stride. -/
lemma stride_dot {t : FileTree} {here : Place} (h : t.node? here = some .directory)
    (names : List String) : t.stride here ("." :: names) = t.stride here names := by
  rw [stride, child_dot h]
  simp [h]

/-- Names that begin with a name and perhaps with dots before it. -/
lemma stride_of_bare_cons {t : FileTree} {here : Place} (h : t.node? here = some .directory)
    {names rest : List String} {name : String} (hbare : bare names = name :: bare rest) :
    ∃ rest', t.stride here names = t.stride here (name :: rest') ∧ bare rest' = bare rest := by
  induction names with
  | nil => cases hbare
  | cons first names ih =>
    by_cases hdot : first = "."
    · subst hdot
      rw [bare_dot] at hbare
      obtain ⟨rest', hstride, hrest⟩ := ih hbare
      exact ⟨rest', (stride_dot h names).trans hstride, hrest⟩
    · rw [bare_cons hdot, List.cons.injEq] at hbare
      obtain ⟨rfl, hrest⟩ := hbare
      exact ⟨names, rfl, hrest⟩

/-- Names that are nothing but dots. -/
lemma stride_of_bare_nil {t : FileTree} {here : Place} (h : t.node? here = some .directory)
    {names : List String} (hbare : bare names = []) : t.stride here names = .ok (.inl here) := by
  induction names with
  | nil => rfl
  | cons first names ih =>
    by_cases hdot : first = "."
    · subst hdot
      rw [stride_dot h]
      exact ih (by simpa using hbare)
    · rw [bare_cons hdot] at hbare
      cases hbare

/-- What two strides along the same names but for dots have in common.

**Proof sketch.** Induction on the names of the first stride.  Its dots change nothing.  At a name
the second stride passes its own dots and comes to the same name, which leads to the same place.  If
a directory is there, both go on; at a link both stop with the names that are left, which differ in
dots only; and below anything else there is nothing, so that the names end there. -/
lemma stride_congr {t : FileTree} {here : Place} (h : t.node? here = some .directory)
    {a b : List String} (hbare : bare a = bare b) :
    (∀ place, t.stride here a = .ok (.inl place) → t.node? place = some .directory →
      t.stride here b = .ok (.inl place)) ∧
    ∀ place names, t.stride here a = .ok (.inr (place, names)) → ∃ names',
      t.stride here b = .ok (.inr (place, names')) ∧ bare names = bare names' ∧
        t.node? place = some .directory := by
  induction a generalizing here b with
  | nil =>
    have hb : t.stride here b = .ok (.inl here) := stride_of_bare_nil h hbare.symm
    exact ⟨fun place hplace _ => hb.trans hplace, fun _ _ hnever => by cases hnever⟩
  | cons name a ih =>
    by_cases hdot : name = "."
    · subst hdot
      rw [stride_dot h]
      exact ih h (by simpa using hbare)
    rw [bare_cons hdot] at hbare
    -- the second stride passes its dots and is then at the same name
    obtain ⟨rest, hb, hrest⟩ := stride_of_bare_cons h hbare.symm
    rw [hb, stride, stride]
    cases hchild : t.child here name with
    | error e => simp
    | ok place =>
      cases hnode : t.node? place with
      | none => simp [hnode]
      | some n =>
        simp only [hnode]
        cases n with
        | directory => exact ih hnode hrest.symm
        | link target =>
          -- both strides stop at the link, with the names that are left
          simp only [followLink]
          cases hway : Way.ofPath here target with
          | error e => simp [Except.map]
          | ok w =>
            have hstart : t.node? w.start = some .directory := by
              rcases start_of_ofPath hway with hroot | hhere
              · rw [hroot, node?_root]
              · rw [hhere, h]
            refine ⟨fun _ hnever => by simp [Except.map] at hnever, fun place' names hinr => ?_⟩
            simp only [Except.map, Except.ok.injEq, Sum.inr.injEq, Prod.mk.injEq] at hinr
            obtain ⟨rfl, rfl⟩ := hinr
            exact ⟨_, rfl, by simp [hrest], hstart⟩
        | file content executable | socket listener =>
          -- nothing is below it, so the names end here, and what stands here is no directory
          have hend : ∀ names next, t.stride place names = .ok next → next = .inl place := by
            intro names next hstride
            cases names with
            | nil => simpa [stride, eq_comm] using hstride
            | cons first names => simp [stride, child, hnode] at hstride
          refine ⟨fun end_ hend_ hdirectory => ?_, fun end_ names hinr => ?_⟩
          · have hsame := hend _ _ hend_
            simp only [Sum.inl.injEq] at hsame
            rw [hsame, hnode] at hdirectory
            cases hdirectory
          · have hnever := hend _ _ hinr
            cases hnever

/-- **Walks along the same names but for single dots** end at the same directory. -/
lemma walk_congr {t : FileTree} {links : Nat} {here place : Place} {a b : List String}
    (hwalk : t.walk links here a = .ok place) (hplace : t.node? place = some .directory)
    (hbare : bare a = bare b) : t.walk links here b = .ok place := by
  have hstart := isDirectory_start hwalk hplace
  fun_induction t.walk links here a generalizing b with
  | case1 => cases hwalk
  | case2 links here a end_ hstride =>
    cases hwalk
    rw [walk.eq_def, (stride_congr hstart hbare).1 _ hstride hplace]
  | case3 => cases hwalk
  | case4 here a next names hstride links ih =>
    obtain ⟨names', hb, hnames, hnext⟩ := (stride_congr hstart hbare).2 _ _ hstride
    rw [walk, hb]
    exact ih hwalk hnames hnext

end CommandRelay.FileTree
