import CommandRelay.Links.Registry
import CommandRelay.Proofs.Files.Replacement

/-!
# Building a directory of links beside its place

A directory of links is made under a temporary name beside the place that it is for, and then put
there.  Whatever fails, the temporary directory is removed, and the other directory is replaced by
the new one or stays what it was.

## Main definitions

* `LinkRegistry.Fits` — a link can have its target and its path.
* `LinkRegistry.Workplace` — a tree in which a directory is about to be built.
* `LinkRegistry.Swapped` — what an attempt to put it in its place comes to.

## Main results

* `LinkRegistry.run_fill` — the directory holds its links, or the target or a path does not fit.
* `LinkRegistry.run_clear` — the place is emptied, or nothing happens.
* `LinkRegistry.Workplace.run_replace` — the place holds the new links, or nothing has changed.
-/

namespace CommandRelay.LinkRegistry

open FileTree

variable {t t₁ : FileTree} {cwd here : Place} {dir temporary target d x : String}
  {names : List String}

/-! ## Filling a directory -/

/-- A link can have its target and stand under its path. -/
def Fits (target dir name : String) : Prop :=
  Path.IsPath target ∧ (Path.join dir name).utf8ByteSize < Way.maxPath

/-- **Making a link where nothing stands** succeeds if it fits. -/
lemma run_makeLink_of_none {place : Place} {path name : String} (h : t.PathLeads cwd path place)
    (hplace : t.node? place = some .directory) (hname : IsFileName name)
    (hnone : t.node? (place ++ [name]) = none) :
    (Fits target path name ∧ (Script.makeLink target (Path.join path name)).run cwd t =
      (.ok (), t.put (place ++ [name]) (.link target))) ∨
    (¬Fits target path name ∧ ∃ e, (Script.makeLink target (Path.join path name)).run cwd t =
      (.error e, t)) := by
  simp only [Script.makeLink, Script.run, FileCall.run]
  cases htarget : Way.ofPath cwd target with
  | error e =>
    refine .inr ⟨fun hfits => ?_, e, rfl⟩
    obtain ⟨w, hw⟩ := Path.exists_way_iff.2 hfits.1
    rw [hw] at htarget
    cases htarget
  | ok w =>
    have hpath : Path.IsPath target := Path.exists_way_iff.1 ⟨w, htarget⟩
    cases hlocate : t.locate cwd (Path.join path name) with
    | error e =>
      refine .inr ⟨fun hfits => ?_, e, rfl⟩
      rw [(h.locate_join hname.isName).2 ⟨hplace, hname, hfits.2, rfl⟩] at hlocate
      cases hlocate
    | ok p =>
      obtain ⟨-, -, hshort, rfl⟩ := (h.locate_join hname.isName).1 hlocate
      refine .inl ⟨⟨hpath, hshort⟩, ?_⟩
      simp only [FileCall.atPlace, FileCall.putNew, hnone, Option.isSome_none, Bool.false_eq_true,
        if_false]

/-- **Filling a directory with links** changes nothing outside it, and succeeds if all links fit.

**Proof sketch.** Induction on the names.  No entry has the first name yet, since the names are
different, so the link to it is made if it fits.  Then the directory holds one link more, and the
rest are put into it.  If it does not fit, filling ends there, and nothing has changed. -/
lemma run_fill (h : t.Names cwd temporary here x) {filled : List String}
    (hholds : t.Holds (here ++ [x]) filled target) (hnodup : (filled ++ names).Nodup)
    (hnames : ∀ name ∈ names, IsFileName name) :
    let out := (fill target temporary names).run cwd t
    (∀ q, ¬here ++ [x] <+: q → out.2.node? q = t.node? q) ∧
      out.2.node? (here ++ [x]) = some .directory ∧
      (out.1 = .ok () → out.2.Holds (here ++ [x]) (filled ++ names) target) ∧
      (out.1 = .ok () ↔ ∀ name ∈ names, Fits target temporary name) := by
  induction names generalizing t filled with
  | nil =>
    refine ⟨fun q _ => rfl, hholds.directory, fun _ => ?_, fun _ => by simp, fun _ => rfl⟩
    rw [List.append_nil]
    exact hholds
  | cons name names ih =>
    have hname := hnames name List.mem_cons_self
    have hfresh : ∀ y ∈ filled, y ≠ name := fun y hy =>
      (List.nodup_append.1 hnodup).2.2 y hy name List.mem_cons_self
    have hnone : t.node? (here ++ [x] ++ [name]) = none := by
      refine hholds.other _ (List.prefix_append _ _) (by simp) fun y hy heq => ?_
      exact hfresh y hy (by simpa using heq.symm)
    intro out
    rw [List.forall_mem_cons]
    have hrun : out = (fill target temporary (name :: names)).run cwd t := rfl
    rw [fill, Script.run_bind] at hrun
    rcases run_makeLink_of_none (h.pathLeads hholds.directory) hholds.directory hname hnone with
      ⟨hfits, hmade⟩ | ⟨hunfit, e, hmade⟩
    · -- the directory holds one link more, and the others are put into it
      rw [hmade] at hrun
      have hrest : (filled ++ [name] ++ names).Nodup := by simpa using hnodup
      obtain ⟨houtside, hthere, hfull, hok⟩ := ih
        (h.within (.put (by simp) hnone _)) (hholds.put name) hrest
        fun y hy => hnames y (List.mem_cons_of_mem _ hy)
      rw [hrun]
      refine ⟨fun q hq => ?_, hthere, fun hdone => ?_, ?_⟩
      · rw [houtside q hq, node?_put _ _ (by simp), if_neg fun heq => hq ?_]
        exact heq ▸ List.prefix_append _ _
      · simpa using hfull hdone
      · exact hok.trans (iff_and_self.2 fun _ => hfits)
    · rw [hmade] at hrun
      rw [hrun]
      refine ⟨fun q _ => rfl, hholds.directory, fun hok => ?_, fun hok => ?_,
        fun hfits => absurd hfits.1 hunfit⟩ <;> cases hok

/-! ## Emptying the place -/

/-- **Emptying a place** removes the directory or the link there, or fails and changes nothing; what
is not seen behind a link is left where it is.

**Proof sketch.** If nothing is seen at the path, nothing is done.  Otherwise all that stands at the
place is removed, by its kind: a directory goes with everything below it, a link goes alone, with
nothing below it to be seen, and the removal of anything else fails. -/
lemma run_clear (h : t.Names cwd dir here d)
    (hbelow : t.node? (here ++ [d]) ≠ some .directory →
      ∀ q, here ++ [d] <+: q → q ≠ here ++ [d] → t.node? q = none) :
    let out := (clear dir).run cwd t
    (out.1 = .ok () ∧ ∀ q, out.2.node? q = if here ++ [d] <+: q then none else t.node? q) ∨
      t.node? (here ++ [d]) ≠ some .directory ∧ (out = (.ok (), t) ∨ ∃ e, out = (.error e, t)) := by
  intro out
  have hrun : out = (clear dir).run cwd t := rfl
  rw [clear, Script.run_bind, Script.run_stat] at hrun
  cases hstat : t.stat cwd dir with
  | error e =>
    -- nothing is seen, so there is no directory, but a link may stand there
    rw [hstat] at hrun
    refine .inr ⟨fun hthere => ?_, .inl hrun⟩
    rw [h.stat_eq hthere] at hstat
    cases hstat
  | ok n =>
    rw [hstat] at hrun
    dsimp only at hrun
    rw [Script.run_bind, h.run_removeAll] at hrun
    cases hnode : t.node? (here ++ [d]) with
    | none =>
      rw [hnode] at hrun
      exact .inr ⟨by simp, .inr ⟨_, hrun⟩⟩
    | some m =>
      rw [hnode] at hrun hbelow
      cases m with
      | directory =>
        refine .inl ⟨by rw [hrun]; rfl, fun q => ?_⟩
        rw [hrun]
        exact node?_eraseBelow t (by simp)
      | link target =>
        refine .inl ⟨by rw [hrun]; rfl, fun q => ?_⟩
        rw [hrun]
        refine (node?_erase t (by simp)).trans ?_
        by_cases hq : q = here ++ [d]
        · rw [if_pos hq, if_pos (hq ▸ List.prefix_refl _)]
        · rw [if_neg hq]
          split_ifs with hunder
          · exact hbelow (by simp) q hunder hq
          · rfl
      | file content executable | socket listener => exact .inr ⟨by simp, .inr ⟨_, hrun⟩⟩

/-! ## Building and replacing -/

/-- A tree in which a directory is about to be made under a temporary name, beside the place of
another one. -/
structure Workplace (t₁ : FileTree) (cwd : Place) (dir temporary : String) (here : Place)
    (d x : String) : Prop where
  sound : t₁.Sound
  /-- The path of the directory does not lead through the directory itself. -/
  dir : (t₁.eraseBelow (here ++ [d])).Names cwd dir here d
  temporary : (t₁.eraseBelow (here ++ [d])).Names cwd temporary here x
  free : t₁.node? (here ++ [x]) = none

/-- What stands neither at the place of the directory nor in the temporary one is what it was. -/
def Beside (here : Place) (d x : String) (t₁ t : FileTree) : Prop :=
  ∀ q, ¬here ++ [d] <+: q → ¬here ++ [x] <+: q → t.node? q = t₁.node? q

/-- Puts a new directory in its place. -/
def moveTo (temporary dir : String) : Script (Except LinkError Unit) := do
  match ← Script.move temporary dir with
  | .ok () => return .ok ()
  | .error e => return .error (.file dir e)

/-- Empties a place and puts a new directory there. -/
def swap (temporary dir : String) : Script (Except LinkError Unit) := do
  match ← clear dir with
  | .error e => return .error e
  | .ok () => moveTo temporary dir

/-- Moving the new directory fails as the system's move does, and names the directory. -/
lemma run_moveTo {answer : Except FileError Unit} {t' : FileTree}
    (h : (Script.move temporary dir).run cwd t = (answer, t')) :
    (moveTo temporary dir).run cwd t = (answer.mapError (.file dir), t') := by
  rw [moveTo, Script.run_bind, h]
  cases answer <;> rfl

/-- Once the place is cleared, a swap is a move. -/
lemma run_swap_of_ok {t' : FileTree} (h : (clear dir).run cwd t = (.ok (), t')) :
    (swap temporary dir).run cwd t = (moveTo temporary dir).run cwd t' := by
  rw [swap, Script.run_bind, h]

/-- A swap fails where the place cannot be cleared. -/
lemma run_swap_of_error {e : LinkError} {t' : FileTree}
    (h : (clear dir).run cwd t = (.error e, t')) :
    (swap temporary dir).run cwd t = (.error e, t') := by
  rw [swap, Script.run_bind, h]
  rfl

/-- What an attempt to put a new directory in its place comes to, once what is left under its
temporary name has been removed: the place holds it, or nothing has changed. -/
def Swapped (cwd : Place) (temporary : String) (place : Place) (names : List String)
    (target : String)
    (t₁ : FileTree) (out : Except LinkError Unit × FileTree) : Prop :=
  let t' := ((Script.removeAll temporary).run cwd out.2).2
  (out.1 = .ok () ∧ t'.Holds place names target ∧ ∀ q, ¬place <+: q → t'.node? q = t₁.node? q) ∨
    ((∃ e, out.1 = .error e) ∧ (∀ q, t'.node? q = t₁.node? q) ∧ t₁.node? place ≠ some .directory)

namespace Workplace

/-- Nothing stands in the temporary directory before it is made. -/
lemma none_temporary (h : Workplace t₁ cwd dir temporary here d x) {q : Place}
    (hq : here ++ [x] <+: q) : t₁.node? q = none := by
  by_cases hne : here ++ [x] = q
  · rw [← hne, h.free]
  · exact h.sound.none_below hq hne (by simp [h.free])

/-- What is not below the place is still there beside it. -/
lemma within (h : Workplace t₁ cwd dir temporary here d x) (hbeside : Beside here d x t₁ t) :
    (t₁.eraseBelow (here ++ [d])).Within t := by
  intro q n hnode
  rw [node?_eraseBelow _ (by simp)] at hnode
  split_ifs at hnode with hunder
  rw [hbeside q hunder fun hq => ?_, hnode]
  rw [h.none_temporary hq] at hnode
  cases hnode

/-- What is done at the two places leaves the paths to them as they are. -/
lemma names_dir (h : Workplace t₁ cwd dir temporary here d x) (hbeside : Beside here d x t₁ t) :
    t.Names cwd dir here d :=
  h.dir.within (h.within hbeside)

/-- The temporary path names the new directory still. -/
lemma names_temporary (h : Workplace t₁ cwd dir temporary here d x)
    (hbeside : Beside here d x t₁ t) : t.Names cwd temporary here x :=
  h.temporary.within (h.within hbeside)

/-- **The temporary directory is removed** in the end, if it is there. -/
lemma run_cleanup (h : Workplace t₁ cwd dir temporary here d x) (hbeside : Beside here d x t₁ t)
    (hthere : t.node? (here ++ [x]) = some .directory ∨
      ∀ q, here ++ [x] <+: q → t.node? q = none) (q : Place) :
    ((Script.removeAll temporary).run cwd t).2.node? q =
      if here ++ [x] <+: q then none else t.node? q := by
  rw [(h.names_temporary hbeside).run_removeAll]
  rcases hthere with hthere | hnone
  · rw [hthere]
    exact node?_eraseBelow t (by simp)
  · rw [hnone _ (List.prefix_refl _)]
    split_ifs with hq
    · exact hnone q hq
    · rfl

/-- What remains of a tree that has changed in the temporary directory only is what it was at first.
-/
lemma cleanup_eq (h : Workplace t₁ cwd dir temporary here d x)
    (hsame : ∀ q, ¬here ++ [x] <+: q → t.node? q = t₁.node? q)
    (hthere : t.node? (here ++ [x]) = some .directory ∨
      ∀ q, here ++ [x] <+: q → t.node? q = none) (q : Place) :
    ((Script.removeAll temporary).run cwd t).2.node? q = t₁.node? q := by
  rw [h.run_cleanup (fun q _ hq => hsame q hq) hthere]
  split_ifs with hq
  · exact (h.none_temporary hq).symm
  · exact hsame q hq

/-- **Putting the new directory in its place** succeeds where nothing stands.

**Proof sketch.** Nothing stands at the place, and it is neither the temporary one nor below it, so
the move succeeds.  Afterwards the tree has the entries of the temporary directory at their new
places, and nothing where it was; so the removal of what is left under the temporary name finds
nothing. -/
lemma run_move (h : Workplace t₁ cwd dir temporary here d x) (hne : x ≠ d)
    (hbeside : Beside here d x t₁ t) (hholds : t.Holds (here ++ [x]) names target)
    (hfree : ∀ q, here ++ [d] <+: q → t.node? q = none) :
    let out := (Script.move temporary dir).run cwd t
    let t' := ((Script.removeAll temporary).run cwd out.2).2
    out.1 = .ok () ∧ t'.Holds (here ++ [d]) names target ∧
      ∀ q, ¬here ++ [d] <+: q → t'.node? q = t₁.node? q := by
  intro out t'
  have hplaces : here ++ [x] ≠ here ++ [d] := fun heq => hne (by simpa using heq)
  have hapart : ¬here ++ [x] <+: here ++ [d] := (apart_of_sibling hne.symm (List.prefix_refl _)).1
  have hout : out = (.ok (), t.move (here ++ [x]) (here ++ [d])) := by
    have hprefix : (here ++ [x]).isPrefixOf (here ++ [d]) = false := by
      rw [← Bool.not_eq_true, List.isPrefixOf_iff_prefix]
      exact hapart
    refine ((h.names_temporary hbeside).run_move (h.names_dir hbeside)).trans ?_
    rw [FileCall.moveTo, hholds.directory, hfree _ (List.prefix_refl _)]
    simp only [hplaces, hprefix, if_false, Bool.false_eq_true]
  have hnode : ∀ q, ¬here ++ [d] <+: q →
      out.2.node? q = if here ++ [x] <+: q then none else t.node? q := by
    intro q hq
    rw [hout]
    refine (node?_move t (by simp) (by simp) q).trans ?_
    rw [if_neg hq, node?_eraseBelow _ (by simp)]
  have hgone : ∀ q, here ++ [x] <+: q → out.2.node? q = none := by
    intro q hq
    rw [hnode q (apart_of_sibling hne hq).1, if_pos hq]
  have hbeside' : Beside here d x t₁ out.2 := fun q hd hx => by
    rw [hnode q hd, if_neg hx, hbeside q hd hx]
  have hclean : ∀ q, t'.node? q = out.2.node? q := by
    intro q
    rw [h.run_cleanup hbeside' (.inr hgone)]
    split_ifs with hq
    · exact (hgone q hq).symm
    · rfl
  refine ⟨by rw [hout], ?_, fun q hq => ?_⟩
  · have hmoved : out.2.Holds (here ++ [d]) names target := by
      rw [hout]
      exact hholds.move (by simp) (by simp) hfree
    exact hmoved.congr fun q _ => hclean q
  · rw [hclean, hnode q hq]
    split_ifs with hx
    · exact (h.none_temporary hx).symm
    · exact hbeside q hq hx

/-- A move to where something stands that is no directory, or from where nothing stands, fails and
changes nothing. -/
lemma run_move_error (h : Workplace t₁ cwd dir temporary here d x) (hbeside : Beside here d x t₁ t)
    (hbad : t.node? (here ++ [x]) = none ∨
      x ≠ d ∧ ∃ n, t.node? (here ++ [d]) = some n ∧ n ≠ .directory) :
    ∃ e, (Script.move temporary dir).run cwd t = (.error e, t) := by
  rw [(h.names_temporary hbeside).run_move (h.names_dir hbeside), FileCall.moveTo]
  cases hnode : t.node? (here ++ [x]) with
  | none => exact ⟨_, rfl⟩
  | some m =>
    rw [hnode] at hbad
    obtain ⟨hne, n, hthere, hn⟩ := hbad.resolve_left nofun
    have hplaces : here ++ [x] ≠ here ++ [d] := fun heq => hne (by simpa using heq)
    simp only [hplaces, if_false, hthere]
    split_ifs
    · exact ⟨_, rfl⟩
    · cases n with
      | directory => exact absurd rfl hn
      | _ => exact ⟨_, rfl⟩

/-- Whatever fails, the temporary directory is removed, and the place is what it was at first. -/
lemma swapped_of_error (h : Workplace t₁ cwd dir temporary here d x)
    (hsame : ∀ q, ¬here ++ [x] <+: q → t.node? q = t₁.node? q)
    (hthere : t.node? (here ++ [x]) = some .directory ∨
      ∀ q, here ++ [x] <+: q → t.node? q = none)
    (hno : t₁.node? (here ++ [d]) ≠ some .directory) (e : LinkError) :
    Swapped cwd temporary (here ++ [d]) names target t₁ (.error e, t) :=
  .inr ⟨⟨e, rfl⟩, h.cleanup_eq hsame hthere, hno⟩

/-- Where nothing stands at the place, it is taken. -/
lemma swapped_of_free (h : Workplace t₁ cwd dir temporary here d x) (hne : x ≠ d)
    (hbeside : Beside here d x t₁ t) (hholds : t.Holds (here ++ [x]) names target)
    (hfree : ∀ q, here ++ [d] <+: q → t.node? q = none) :
    Swapped cwd temporary (here ++ [d]) names target t₁ ((moveTo temporary dir).run cwd t) := by
  obtain ⟨hmove, hnew, hrest⟩ := h.run_move hne hbeside hholds hfree
  rw [run_moveTo (Prod.ext hmove rfl)]
  exact .inl ⟨rfl, hnew, hrest⟩

/-- **What follows when the new directory has been filled**: its place holds it in the end, or
nothing has changed.

**Proof sketch.** If a directory or a link stands at the place it is removed, and then the move
succeeds.  If nothing is seen there the place is left alone: either nothing stands there and the
move succeeds, or what stands there is a link that leads nowhere and the move fails.  Anything else
cannot be removed.  The new directory can itself stand at the place, if its temporary name is the
one of the place; then it is removed before it can be moved. -/
lemma run_swap (h : Workplace t₁ cwd dir temporary here d x)
    (hsame : ∀ q, ¬here ++ [x] <+: q → t.node? q = t₁.node? q)
    (hholds : t.Holds (here ++ [x]) names target) :
    Swapped cwd temporary (here ++ [d]) names target t₁ ((swap temporary dir).run cwd t) := by
  have hbeside : Beside here d x t₁ t := fun q _ hq => hsame q hq
  have hbelow : t.node? (here ++ [d]) ≠ some .directory →
      ∀ q, here ++ [d] <+: q → q ≠ here ++ [d] → t.node? q = none := by
    intro hno q hq hne
    have hxd : x ≠ d := by
      rintro rfl
      exact hno hholds.directory
    rw [hsame _ (apart_of_sibling hxd.symm (List.prefix_refl _)).1] at hno
    rw [hsame q (apart_of_sibling hxd.symm hq).1]
    exact h.sound.none_below hq hne.symm hno
  rcases run_clear (h.names_dir hbeside) hbelow with ⟨hok, hcleared⟩ | ⟨hno, hcleared⟩
  · -- a directory or a link has been removed
    obtain ⟨t₂, hclear⟩ : ∃ t₂, (clear dir).run cwd t = (.ok (), t₂) := ⟨_, Prod.ext hok rfl⟩
    rw [hclear] at hcleared
    rw [run_swap_of_ok hclear]
    dsimp only at hcleared
    have hbeside₂ : Beside here d x t₁ t₂ := fun q hd hx => by
      rw [hcleared, if_neg hd, hsame q hx]
    by_cases hxd : x = d
    · -- the temporary directory has been removed from the place itself
      subst hxd
      have hgone : ∀ q, here ++ [x] <+: q → t₂.node? q = none := fun q hq => by
        rw [hcleared, if_pos hq]
      obtain ⟨e, hmove⟩ := h.run_move_error hbeside₂ (.inl (hgone _ (List.prefix_refl _)))
      rw [run_moveTo hmove]
      refine h.swapped_of_error (fun q hq => ?_) (.inr hgone) (by simp [h.free]) _
      rw [hcleared, if_neg hq, hsame q hq]
    · have hholds₂ : t₂.Holds (here ++ [x]) names target := hholds.congr fun q hq => by
        rw [hcleared, if_neg (apart_of_sibling hxd hq).1]
      exact h.swapped_of_free hxd hbeside₂ hholds₂ fun q hq => by rw [hcleared, if_pos hq]
  · -- the tree is what it was, and the place holds no directory
    have hxd : x ≠ d := by
      rintro rfl
      exact hno hholds.directory
    have hthere : t.node? (here ++ [d]) = t₁.node? (here ++ [d]) :=
      hsame _ (apart_of_sibling hxd.symm (List.prefix_refl _)).1
    have hkept : ∀ e, Swapped cwd temporary (here ++ [d]) names target t₁ (.error e, t) :=
      h.swapped_of_error hsame (.inl hholds.directory) (hthere ▸ hno)
    rcases hcleared with hcleared | ⟨e, hcleared⟩
    · -- nothing was seen there, yet a link that leads nowhere may stand there
      rw [run_swap_of_ok hcleared]
      cases hnode : t.node? (here ++ [d]) with
      | none =>
        refine h.swapped_of_free hxd hbeside hholds fun q hq => ?_
        by_cases hne : q = here ++ [d]
        · rw [hne, hnode]
        · exact hbelow hno q hq hne
      | some n =>
        have hn : n ≠ .directory := by
          rintro rfl
          exact hno hnode
        obtain ⟨e, hmove⟩ := h.run_move_error hbeside (.inr ⟨hxd, n, hnode, hn⟩)
        rw [run_moveTo hmove]
        exact hkept _
    · rw [run_swap_of_error hcleared]
      exact hkept e

/-- **Making a directory anew** makes its place hold the new links, or changes nothing; it succeeds
if a directory is replaced and all links fit.

**Proof sketch.** The temporary directory starts out empty and is filled (`run_fill`), which touches
nothing else.  If a link does not fit, it is removed with all that was put into it.  If all fit, it
takes the place (`run_swap`), or it is removed in the same way. -/
lemma run_replace (h : Workplace t₁ cwd dir temporary here d x) (hnodup : names.Nodup)
    (hnames : ∀ name ∈ names, IsFileName name) :
    let out := (replace target dir names temporary).run cwd (t₁.put (here ++ [x]) .directory)
    let t' := ((Script.removeAll temporary).run cwd out.2).2
    (out.1 = .ok () ∧ (∀ name ∈ names, Fits target temporary name) ∧
      t'.Holds (here ++ [d]) names target ∧ ∀ q, ¬here ++ [d] <+: q → t'.node? q = t₁.node? q) ∨
    ((∃ e, out.1 = .error e) ∧ (∀ q, t'.node? q = t₁.node? q) ∧
      ((∀ name ∈ names, Fits target temporary name) →
        t₁.node? (here ++ [d]) ≠ some .directory)) := by
  intro out t'
  have hput : ∀ q, ¬here ++ [x] <+: q →
      (t₁.put (here ++ [x]) .directory).node? q = t₁.node? q := by
    intro q hq
    have hne : q ≠ here ++ [x] := fun heq => hq (heq ▸ List.prefix_refl _)
    rw [node?_put _ _ (by simp), if_neg hne]
  have hmade : (t₁.put (here ++ [x]) .directory).Holds (here ++ [x]) [] target :=
    .made (fun q hq => h.none_temporary hq) (by simp)
  have hpaths : Beside here d x t₁ (t₁.put (here ++ [x]) .directory) := fun q _ hq => hput q hq
  obtain ⟨houtside, hthere, hfull, hfits⟩ :=
    run_fill (h.names_temporary hpaths) hmade (by simpa using hnodup) hnames
  have hsame : ∀ q, ¬here ++ [x] <+: q →
      ((fill target temporary names).run cwd (t₁.put (here ++ [x]) .directory)).2.node? q =
        t₁.node? q := fun q hq => (houtside q hq).trans (hput q hq)
  have hrun : out =
      (replace target dir names temporary).run cwd (t₁.put (here ++ [x]) .directory) := rfl
  rw [replace, Script.run_bind] at hrun
  generalize (fill target temporary names).run cwd (t₁.put (here ++ [x]) .directory) = filled
    at hrun hthere hfull hfits hsame
  obtain ⟨answer, t₂⟩ := filled
  rcases answer with e | _
  · -- a link does not fit: only the temporary directory was changed, and it goes away
    refine .inr ⟨⟨e, by rw [hrun]; rfl⟩, fun q => ?_, fun hall => ?_⟩
    · simp only [t', hrun]
      exact h.cleanup_eq hsame (.inl hthere) q
    · exact absurd (hfits.2 hall) nofun
  · rcases h.run_swap hsame (hfull rfl) with ⟨hok, hnew, hrest⟩ | ⟨herror, hold, hno⟩
    · refine .inl ⟨hrun ▸ hok, hfits.1 rfl, ?_, ?_⟩ <;> simp only [t', hrun]
      · exact hnew
      · exact hrest
    · refine .inr ⟨hrun ▸ herror, ?_, fun _ => hno⟩
      simp only [t', hrun]
      exact hold

end Workplace

end CommandRelay.LinkRegistry
