import CommandRelay.Links.Registry
import CommandRelay.Proofs.Files.Directories

/-!
# Calls to a registry of links

The three directories of a registry stand beside each other, and the paths to them do not lead
through the directory of the user's links.  Then each call does one of a few things, and its answer
says which.

## Main definitions

* `LinkRegistry.Site` — where the three directories stand.
* `LinkRegistry.StandsAt` — a registry whose directories stand there in a tree.
* `LinkRegistry.Site.Reserved` — names that cannot be linked or unlinked.
* `LinkRegistry.sample`, `LinkRegistry.sampleTree` — a registry under one directory.
* `LinkRegistry.Call`, `LinkRegistry.Answer` — the calls.
* `LinkRegistry.Linked`, `LinkRegistry.Unlinked`, `LinkRegistry.Site.Listed` — what the calls do.

## Main results

* `LinkRegistry.StandsAt.keep` — changes after which the directories still stand there.
* `LinkRegistry.StandsAt.run_link`, `run_unlink`, `run_names` — each call does what is said of it.
-/

namespace CommandRelay.LinkRegistry

/-- The registry's test of a name is that of the file system. -/
lemma isName_iff {name : String} : isName name = true ↔ Path.IsName name.toList := by
  have hnil : name.isEmpty = true ↔ name.toList = [] := by
    rw [String.isEmpty_iff, String.toList_eq_nil_iff]
  have hdot : name = "." ↔ name.toList = ['.'] := String.toList_inj.symm
  have hup : name = ".." ↔ name.toList = Path.up := String.toList_inj.symm
  rw [isName, Bool.not_eq_true', ← Bool.not_eq_true, Bool.or_eq_true, Bool.or_eq_true,
    Bool.or_eq_true, beq_iff_eq, beq_iff_eq, hnil, hdot, hup, List.contains_iff_mem, not_or, not_or,
    not_or]
  exact ⟨fun h => ⟨h.1.1.1, h.1.1.2, h.1.2, h.2⟩,
    fun h => ⟨⟨⟨h.ne_nil, h.ne_dot⟩, h.ne_up⟩, h.noSlash⟩⟩

/-- Where the directories of a registry stand. -/
structure Site where
  /-- Where the user's links stand. -/
  userDir : Place
  /-- Where the links that are always there stand. -/
  defaultDir : Place
  /-- Where the links stand that come before everything else. -/
  priorityDir : Place

namespace Site

/-- What stands in the user's directory under a name. -/
def named? (s : Site) (t : FileTree) (name : String) : Option Node := t.node? (s.userDir ++ [name])

/-- A name belongs to the links that are always there: it is one of theirs, or something of that
name stands in their directories. -/
def Reserved (s : Site) (t : FileTree) (name : String) : Prop :=
  name ∈ defaultNames ∨ name ∈ priorityNames ∨
    (t.node? (s.defaultDir ++ [name])).isSome ∨ (t.node? (s.priorityDir ++ [name])).isSome

end Site

/-- A registry whose user's directory stands at a place in a tree, wherever its path leads before
anything in that directory is looked at. -/
structure OwnsAt (r : LinkRegistry) (cwd : Place) (u : Place) (t : FileTree) : Prop where
  sound : t.Sound
  userDir : (t.eraseInside u).PathLeads cwd r.userDir u

/-- A registry whose three directories stand at a site in a tree, the user's apart from the others.
-/
structure StandsAt (r : LinkRegistry) (cwd : Place) (s : Site) (t : FileTree) : Prop extends
    r.OwnsAt cwd s.userDir t where
  apart_default : ¬s.userDir <+: s.defaultDir ∧ ¬s.defaultDir <+: s.userDir
  apart_priority : ¬s.userDir <+: s.priorityDir ∧ ¬s.priorityDir <+: s.userDir
  defaultDir : (t.eraseInside s.userDir).PathLeads cwd r.defaultDir s.defaultDir
  priorityDir : (t.eraseInside s.userDir).PathLeads cwd r.priorityDir s.priorityDir
  roomy_user : Path.Roomy r.userDir
  roomy_default : Path.Roomy r.defaultDir
  roomy_priority : Path.Roomy r.priorityDir

/-- A name is taken for one of the links that are always there. -/
def Protects (r : LinkRegistry) (cwd : Place) (t : FileTree) (name : String) : Prop :=
  name ∈ defaultNames ∨ name ∈ priorityNames ∨
    (t.lstat cwd (Path.join r.defaultDir name)).isOk = true ∨
    (t.lstat cwd (Path.join r.priorityDir name)).isOk = true

variable {r : LinkRegistry} {cwd : Place} {s : Site} {u : Place} {t t' t'' : FileTree}
  {name : String}

/-- What may have happened to a tree so that every path still leads where it did that does not lead
through a directory: anything in that directory, and new directories on the way to it. -/
def Elsewhere (u : Place) (t t' : FileTree) : Prop :=
  ∀ q, ¬(u <+: q ∧ q ≠ u) → t'.node? q = t.node? q ∨
    (q <+: u ∧ t.node? q = none ∧ t'.node? q = some .directory)

namespace Elsewhere

/-- Nothing need have happened. -/
lemma refl (u : Place) (t : FileTree) : Elsewhere u t t := fun _ _ => .inl rfl

/-- One change elsewhere after another is one as well. -/
lemma trans (h : Elsewhere u t t') (h' : Elsewhere u t' t'') : Elsewhere u t t'' := by
  intro q hq
  rcases h' q hq with hsame' | ⟨hway, hnone, hmade⟩
  · rw [hsame']
    exact h q hq
  · rcases h q hq with hsame | ⟨-, -, hthere⟩
    · exact .inr ⟨hway, hsame ▸ hnone, hmade⟩
    · rw [hnone] at hthere
      cases hthere

/-- Such paths still lead where they did. -/
lemma leads (h : Elsewhere u t t') (hsound : t'.Sound) {path : String} {place : Place}
    (hleads : (t.eraseInside u).PathLeads cwd path place) :
    (t'.eraseInside u).PathLeads cwd path place := by
  refine hleads.grow (hsound.eraseInside u) (fun q n hnode => ?_) (fun q hnode => ?_)
  · rw [FileTree.node?_eraseInside] at hnode ⊢
    split_ifs at hnode ⊢ with hq
    rcases h q hq with hsame | ⟨-, hnone, -⟩
    · rw [hsame, hnode]
    · rw [hnone] at hnode
      cases hnode
  · rw [FileTree.node?_eraseInside] at hnode ⊢
    split_ifs at hnode ⊢ with hq
    · exact .inl rfl
    · rcases h q hq with hsame | ⟨-, -, hmade⟩
      · exact .inl (hsame.trans hnode)
      · exact .inr hmade

/-- Directories are made on the way to a place. -/
lemma of_paved (h : FileTree.Paved u t t') : Elsewhere u t t' := fun q _ => h q

/-- Something is put into the directory. -/
lemma of_put (n : Node) : Elsewhere u t (t.put (u ++ [name]) n) := by
  intro q hq
  rw [FileTree.node?_put _ _ (by simp), if_neg fun heq : q = _ => hq ?_]
  · exact .inl rfl
  · exact heq ▸ ⟨List.prefix_append _ _, by simp⟩

/-- Something is taken out of the directory. -/
lemma of_erase : Elsewhere u t (t.erase (u ++ [name])) := by
  intro q hq
  rw [FileTree.node?_erase _ (by simp), if_neg fun heq : q = _ => hq ?_]
  · exact .inl rfl
  · exact heq ▸ ⟨List.prefix_append _ _, by simp⟩

end Elsewhere

/-- A name is not taken for one of the links that are always there, whatever stands in the user's
directory. -/
def Spares (r : LinkRegistry) (cwd : Place) (u : Place) (t : FileTree) (name : String) : Prop :=
  ∀ t', t'.Sound → Elsewhere u t t' → ¬r.Protects cwd t' name

/-- That stays so whatever happens in the user's directory. -/
lemma Spares.keep (h : r.Spares cwd u t name) (helsewhere : Elsewhere u t t') :
    r.Spares cwd u t' name :=
  fun t'' hsound h' => h t'' hsound (helsewhere.trans h')

namespace OwnsAt

/-- The path of the user's directory leads to it. -/
lemma leads_userDir (h : r.OwnsAt cwd u t) : t.PathLeads cwd r.userDir u :=
  h.userDir.of_eraseInside (.inr rfl)

/-- The user's directory is there or missing. -/
lemma own (h : r.OwnsAt cwd u t) : t.node? u = some .directory ∨ t.node? u = none :=
  h.leads_userDir.directory_or_none

/-- Changes after which the user's directory still stands there. -/
lemma keep (h : r.OwnsAt cwd u t) (hsound : t'.Sound) (helsewhere : Elsewhere u t t') :
    r.OwnsAt cwd u t' :=
  ⟨hsound, helsewhere.leads hsound h.userDir⟩

/-- Why a link in the user's directory is refused. -/
lemma unfit_of_refused (h : r.OwnsAt cwd u t)
    (hshort : IsFileName name → (r.userPath name).utf8ByteSize < Way.maxPath)
    (hname : Path.IsName name.toList) (hdirectory : t.node? u = some .directory) {e : FileError}
    (hcause : Way.ofPath cwd r.target = .error e ∨ t.locate cwd (r.userPath name) = .error e) :
    ¬IsFileName name ∨ ¬Path.IsPath r.target := by
  rcases hcause with htarget | hlocate
  · refine .inr fun hpath => ?_
    obtain ⟨w, hw⟩ := Path.exists_way_iff.2 hpath
    rw [hw] at htarget
    cases htarget
  · refine .inl fun hfile => ?_
    have hfound := (h.leads_userDir.locate_join hname).2
      ⟨hdirectory, hfile, hshort hfile, rfl⟩
    rw [userPath, hfound] at hlocate
    cases hlocate

/-- **Making the user's directory** makes directories above it only, and it if it succeeds. -/
lemma always_makeDirectories (r : LinkRegistry) (cwd : Place) (u : Place)
    (rely : FileTree → FileTree → Prop) (t : FileTree) :
    (Script.makeDirectories r.userDir).Always cwd (r.OwnsAt cwd u) rely (fun t t' result =>
      t'.Sound ∧ FileTree.Paved u t t' ∧
        (result = some (.ok ()) → t'.node? u = some .directory)) t := by
  have hmakes : (Script.makeDirectories r.userDir).Always cwd (r.OwnsAt cwd u) rely
      (Script.Making cwd (fun t t' => t'.Sound ∧ FileTree.Paved u t t') r.userDir) t :=
    Script.always_makeDirectories (fun t h => ⟨h.sound, h.leads_userDir⟩)
      (fun t h => ⟨h.sound, .refl _ _⟩) (fun t t' _ hpaved hsound => ⟨hsound, hpaved⟩) t
  refine hmakes.imp fun t t' result h hmaking => ⟨hmaking.1.1, hmaking.1.2, fun hdone => ?_⟩
  rcases hmaking.2 hdone with hmade | ⟨rfl, hthere⟩
  · exact h.leads_userDir.directory_of_makeDirectory h.sound hmade
  · exact h.leads_userDir.directory_of_isDirectory hthere

end OwnsAt

namespace StandsAt

/-- What stands in the other directories stands neither in the user's nor above it. -/
lemma apart (h : r.StandsAt cwd s t) {q : Place}
    (hq : s.defaultDir <+: q ∨ s.priorityDir <+: q) :
    ¬s.userDir <+: q ∧ ¬q <+: s.userDir := by
  have haway : ∀ {p : Place}, ¬s.userDir <+: p ∧ ¬p <+: s.userDir → p <+: q →
      ¬s.userDir <+: q ∧ ¬q <+: s.userDir := by
    intro p hp hpq
    refine ⟨fun hu => ?_, fun hu => hp.2 (hpq.trans hu)⟩
    exact (List.prefix_or_prefix_of_prefix hu hpq).elim hp.1 hp.2
  exact hq.elim (haway h.apart_default) (haway h.apart_priority)

/-- The path of the default directory leads to it. -/
lemma leads_defaultDir (h : r.StandsAt cwd s t) : t.PathLeads cwd r.defaultDir s.defaultDir :=
  h.defaultDir.of_eraseInside (.inl h.apart_default.1)

/-- The path of the priority directory leads to it. -/
lemma leads_priorityDir (h : r.StandsAt cwd s t) : t.PathLeads cwd r.priorityDir s.priorityDir :=
  h.priorityDir.of_eraseInside (.inl h.apart_priority.1)

/-- What happens in the user's directory and on the way to it leaves the other directories alone. -/
lemma reserved_iff (h : r.StandsAt cwd s t) (helsewhere : Elsewhere s.userDir t t')
    (name : String) :
    s.Reserved t' name ↔ s.Reserved t name := by
  have hsame : ∀ q, s.defaultDir <+: q ∨ s.priorityDir <+: q → t'.node? q = t.node? q := by
    intro q hq
    obtain ⟨hbelow, habove⟩ := h.apart hq
    exact (helsewhere q fun hq => hbelow hq.1).resolve_right fun hnew => habove hnew.1
  unfold Site.Reserved
  rw [hsame _ (.inl (List.prefix_append _ _)), hsame _ (.inr (List.prefix_append _ _))]

/-- **Changes after which the directories still stand there**: anything in the user's directory, and
new directories on the way to it. -/
lemma keep (h : r.StandsAt cwd s t) (hsound : t'.Sound) (helsewhere : Elsewhere s.userDir t t') :
    r.StandsAt cwd s t' :=
  { h with
    toOwnsAt := h.toOwnsAt.keep hsound helsewhere
    defaultDir := helsewhere.leads hsound h.defaultDir
    priorityDir := helsewhere.leads hsound h.priorityDir }

/-- **A name that is not reserved** is not taken for one of the links that are always there,
whatever stands in the user's directory. -/
lemma spares (h : r.StandsAt cwd s t) (hname : Path.IsName name.toList)
    (hfree : ¬s.Reserved t name) : r.Spares cwd s.userDir t name := by
  intro t' hsound helsewhere hprotects
  have h' := h.keep hsound helsewhere
  refine hfree ((h.reserved_iff helsewhere name).1 ?_)
  have hthere : ∀ {dir place}, t'.PathLeads cwd dir place →
      (t'.lstat cwd (Path.join dir name)).isOk = true → (t'.node? (place ++ [name])).isSome := by
    intro dir place hleads hok
    cases hlstat : t'.lstat cwd (Path.join dir name) with
    | ok n => simp [hleads.of_lstat_join hname hlstat]
    | error e => simp [hlstat, Except.isOk, Except.toBool] at hok
  exact hprotects.imp id (Or.imp id
    (Or.imp (hthere h'.leads_defaultDir) (hthere h'.leads_priorityDir)))

/-- Directories are made on the way to the user's. -/
lemma paved (h : r.StandsAt cwd s t) (hpaved : FileTree.Paved s.userDir t t') (hsound : t'.Sound) :
    r.StandsAt cwd s t' :=
  h.keep hsound (.of_paved hpaved)

/-- Something is put into the user's directory. -/
lemma put (h : r.StandsAt cwd s t) (hname : IsFileName name)
    (hdirectory : t.node? s.userDir = some .directory) (hfree : s.named? t name = none) (n : Node) :
    r.StandsAt cwd s (t.put (s.userDir ++ [name]) n) :=
  h.keep (h.sound.put hdirectory hname hfree n) (.of_put n)

/-- Something other than a directory is taken out of the user's directory. -/
lemma erase (h : r.StandsAt cwd s t) (hentry : s.named? t name ≠ some .directory) :
    r.StandsAt cwd s (t.erase (s.userDir ++ [name])) :=
  h.keep (h.sound.erase (by simp) hentry) .of_erase

end StandsAt

/-! ### A registry under one directory -/

/-- A registry whose directories are all under `/h`. -/
def sample : LinkRegistry := ⟨"/h/links", "/h/bin", "/h/bin-priority", "/h/ferry"⟩

/-- Where its directories stand. -/
def sampleSite : Site := ⟨["h", "links"], ["h", "bin"], ["h", "bin-priority"]⟩

/-- A tree in which only one of them is there, with a link in it. -/
def sampleTree : FileTree :=
  ⟨.ofList [(["h"], .directory), (["h", "bin"], .directory),
    (["h", "bin", "code"], .link "/h/ferry")]⟩

/-- In the sample everything stands in a directory. -/
lemma sound_sampleTree : sampleTree.Sound := .of_entries (by decide)

/-- The sample registry has its directories in the sample tree. -/
lemma standsAt_sample : sample.StandsAt [] sampleSite sampleTree where
  sound := sound_sampleTree
  userDir := ⟨⟨[], ["h", "links"], false⟩, by rfl,
    .missing (.there (by rfl) (by rfl) : FileTree.Leads _ [] ["h"] ["h"]) (by decide) (by rfl)⟩
  apart_default := by decide
  apart_priority := by decide
  defaultDir := ⟨⟨[], ["h", "bin"], false⟩, by rfl, .there (by rfl) (by rfl)⟩
  priorityDir := ⟨⟨[], ["h", "bin-priority"], false⟩, by rfl,
    .missing (.there (by rfl) (by rfl) : FileTree.Leads _ [] ["h"] ["h"]) (by decide) (by rfl)⟩
  roomy_user := by unfold Path.Roomy; decide
  roomy_default := by unfold Path.Roomy; decide
  roomy_priority := by unfold Path.Roomy; decide

/-! ## What the calls do -/

/-- A call to a registry. -/
inductive Call where
  | link (name : String)
  | unlink (name : String)
  | names
  deriving DecidableEq, Repr

/-- The answer to a call. -/
inductive Answer where
  | linked (result : Except LinkError String)
  | unlinked (result : Except LinkError Unit)
  | listed (result : Except LinkError (List String))

/-- The operations of a call. -/
def Call.script (r : LinkRegistry) : Call → Script Answer
  | link name => do return .linked (← r.link name)
  | unlink name => do return .unlinked (← r.unlink name)
  | names => do return .listed (← r.names)

section Outcomes

variable (r : LinkRegistry) (s : Site) (name : String) (t : FileTree)

/-- What a call to make a link does. -/
inductive Linked : Except LinkError String → FileTree → Prop where
  | invalid (h : ¬Path.IsName name.toList) : Linked (.error (.invalidName name)) t
  | reserved (h : s.Reserved t name) : Linked (.error (.alreadyLinked name true)) t
  | taken (hname : Path.IsName name.toList) (hfree : ¬s.Reserved t name)
      (hthere : (s.named? t name).isSome) : Linked (.error (.alreadyLinked name false)) t
  /-- Nothing stood there.  The link is new, and so are the directories above it that were missing.
  -/
  | made {t' : FileTree} (hname : Path.IsName name.toList) (hfree : ¬s.Reserved t name)
      (hnone : s.named? t name = none)
      (hnode : ∀ q, t'.node? q =
        if q = s.userDir ++ [name] then some (.link r.target)
        else if q <+: s.userDir then some .directory else t.node? q) :
      Linked (.ok (r.userPath name)) t'
  /-- The user's directory cannot be made. -/
  | noDirectory {t' : FileTree} {e : FileError} (hname : Path.IsName name.toList)
      (hfree : ¬s.Reserved t name) (hnone : s.named? t name = none)
      (hpaved : FileTree.Paved s.userDir t t') : Linked (.error (.file r.userDir e)) t'
  /-- The directory is there, but it cannot hold such a name, or no link can have such a target. -/
  | noLink {t' : FileTree} {e : FileError} (hname : Path.IsName name.toList)
      (hfree : ¬s.Reserved t name) (hnone : s.named? t name = none)
      (hunfit : ¬IsFileName name ∨ ¬Path.IsPath r.target)
      (hpaved : FileTree.Paved s.userDir t t')
      (hdirectory : t'.node? s.userDir = some .directory) :
      Linked (.error (.file (r.userPath name) e)) t'

/-- What a call to remove a link does. -/
inductive Unlinked : Except LinkError Unit → FileTree → Prop where
  | invalid (h : ¬Path.IsName name.toList) : Unlinked (.error (.invalidName name)) t
  | reserved (h : s.Reserved t name) : Unlinked (.error (.isProtected name)) t
  | missing (hname : Path.IsName name.toList) (hfree : ¬s.Reserved t name)
      (hnone : s.named? t name = none) : Unlinked (.error (.notLinked name)) t
  /-- No directory can hold such a name. -/
  | unfit {e : FileError} (hname : Path.IsName name.toList) (hfree : ¬s.Reserved t name)
      (hunfit : ¬IsFileName name) : Unlinked (.error (.file (r.userPath name) e)) t
  | notLink {n : Node} (hname : Path.IsName name.toList) (hfree : ¬s.Reserved t name)
      (hthere : s.named? t name = some n) (hn : n.isLink = false) :
      Unlinked (.error (.notLink name)) t
  | removed {t' : FileTree} {target : String} (hname : Path.IsName name.toList)
      (hfree : ¬s.Reserved t name) (hlink : s.named? t name = some (.link target))
      (hnode : ∀ q, t'.node? q = if q = s.userDir ++ [name] then none else t.node? q) :
      Unlinked (.ok ()) t'

/-- What a call for the names of the user's links answers: exactly those, in order and once each. -/
def Site.Listed (names : List String) : Prop :=
  names.Pairwise (· < ·) ∧ ∀ name, name ∈ names ↔ ∃ target, s.named? t name = some (.link target)

end Outcomes

/-- The links among what a directory holds, in order. -/
lemma listed_sort (s : Site) (t : FileTree) :
    s.Listed t ((((t.entries s.userDir).filter fun e => e.2.isLink).map Prod.fst).mergeSort
      fun a b => a ≤ b) := by
  set names := ((t.entries s.userDir).filter fun e => e.2.isLink).map Prod.fst with hnames
  have hperm := List.mergeSort_perm names fun a b => decide (a ≤ b)
  constructor
  · have hnodup : names.Nodup :=
      (t.nodup_entries s.userDir).sublist (List.filter_sublist.map Prod.fst)
    have hsorted : (names.mergeSort fun a b => a ≤ b).Pairwise fun a b =>
        decide (a ≤ b) = true := by
      refine List.pairwise_mergeSort (fun a b c hab hbc => ?_) (fun a b => ?_) names
      · simp only [decide_eq_true_eq] at hab hbc ⊢
        exact Std.le_trans hab hbc
      · simp only [Bool.or_eq_true, decide_eq_true_eq]
        exact Std.le_total
    refine hsorted.imp₂ (fun a b hle hne => ?_) (hperm.nodup_iff.2 hnodup)
    exact Std.lt_of_le_of_ne (of_decide_eq_true hle) hne
  · intro name
    rw [hperm.mem_iff, hnames, List.mem_map]
    constructor
    · rintro ⟨⟨x, n⟩, hmem, rfl⟩
      obtain ⟨hentry, hlink⟩ := List.mem_filter.1 hmem
      cases n with
      | link target => exact ⟨target, FileTree.mem_entries.1 hentry⟩
      | _ => cases hlink
    · rintro ⟨target, hentry⟩
      exact ⟨(name, .link target), List.mem_filter.2 ⟨FileTree.mem_entries.2 hentry, rfl⟩, rfl⟩

/-! ## Each call -/

namespace StandsAt

variable {r : LinkRegistry} {cwd : Place} {s : Site} {t t' : FileTree} {name : String}

/-- **Whether a name is protected** is whether it is reserved.

**Proof sketch.** The lists are searched first.  Then a name is looked up in the default directory
and, if it is not found there, in the priority directory.  To find something means that it stands
there, and to find nothing that nothing does, since a name that is too long to be looked up cannot
stand anywhere. -/
lemma run_isProtected (h : r.StandsAt cwd s t) (hname : Path.IsName name.toList) :
    ∃ b, (r.isProtected name).run cwd t = (b, t) ∧ (b = true ↔ s.Reserved t name) := by
  unfold isProtected
  by_cases hlist : defaultNames.contains name || priorityNames.contains name
  · refine ⟨true, by rw [if_pos hlist]; rfl, fun _ => ?_, fun _ => rfl⟩
    rw [Bool.or_eq_true, List.contains_iff_mem, List.contains_iff_mem] at hlist
    exact hlist.imp id .inl
  rw [if_neg hlist]
  rw [Bool.or_eq_true, List.contains_iff_mem, List.contains_iff_mem, not_or] at hlist
  cases hd : t.lstat cwd (Path.join r.defaultDir name) with
  | ok n =>
    have hthere := h.leads_defaultDir.of_lstat_join hname hd
    refine ⟨true, ?_, fun _ => .inr (.inr (.inl (by simp [hthere]))), fun _ => rfl⟩
    simp [Script.run_bind, hd]
  | error e =>
    have hnone : t.node? (s.defaultDir ++ [name]) = none :=
      h.leads_defaultDir.node?_of_lstat_join_error h.sound h.roomy_default hname hd
    cases hp : t.lstat cwd (Path.join r.priorityDir name) with
    | ok n =>
      have hthere := h.leads_priorityDir.of_lstat_join hname hp
      refine ⟨true, ?_, fun _ => .inr (.inr (.inr (by simp [hthere]))), fun _ => rfl⟩
      simp [Script.run_bind, hd, hp]
    | error e =>
      have hnone' : t.node? (s.priorityDir ++ [name]) = none :=
        h.leads_priorityDir.node?_of_lstat_join_error h.sound h.roomy_priority hname hp
      refine ⟨false, ?_, nofun, ?_⟩
      · simp [Script.run_bind, hd, hp]
      · rintro (hdefaults | hpriorities | hthere | hthere)
        · exact absurd hdefaults hlist.1
        · exact absurd hpriorities hlist.2
        · simp [hnone] at hthere
        · simp [hnone'] at hthere

/-- Looking for a name in the user's directory finds what stands there. -/
lemma lstat_userPath (h : r.StandsAt cwd s t) (hname : Path.IsName name.toList) {n : Node} :
    t.lstat cwd (r.userPath name) = .ok n ↔ s.named? t name = some n :=
  h.leads_userDir.lstat_join h.sound h.roomy_user hname

/-- Where looking for a name in the user's directory fails, for whatever reason, nothing stands
there. -/
lemma named?_of_lstat_error (h : r.StandsAt cwd s t) (hname : Path.IsName name.toList)
    {e : FileError}
    (herror : t.lstat cwd (r.userPath name) = .error e) : s.named? t name = none :=
  h.leads_userDir.node?_of_lstat_join_error h.sound h.roomy_user hname herror

/-- A tree in which the user's directory has been made and a link has been put into it. -/
lemma node?_put_paved (hpaved : FileTree.Paved s.userDir t t') (hsound : t'.Sound)
    (hdirectory : t'.node? s.userDir = some .directory) (n : Node) (q : Place) :
    (t'.put (s.userDir ++ [name]) n).node? q =
      if q = s.userDir ++ [name] then some n
      else if q <+: s.userDir then some .directory else t.node? q := by
  rw [FileTree.node?_put _ _ (by simp)]
  split_ifs with hnew habove
  · rfl
  · by_cases hq : q = s.userDir
    · rw [hq, hdirectory]
    · exact hsound.above habove hq hdirectory
  · exact hpaved.node?_eq habove

/-- **A call to make a link** does one of the things that are said of it, and the registry stands
where it did.

**Proof sketch.** The call is followed operation by operation, and each place where it can end is
one case of `Linked`.  When the directories have been made, the name in the user's directory is
still free, so that the link is made there, or it is refused as one that cannot be stored. -/
lemma run_link (h : r.StandsAt cwd s t) (name : String) :
    Linked r s name t ((r.link name).run cwd t).1 ((r.link name).run cwd t).2 ∧
      r.StandsAt cwd s ((r.link name).run cwd t).2 := by
  unfold link
  by_cases hvalid : isName name = true
  swap
  · rw [if_pos (by simpa using hvalid)]
    exact ⟨.invalid (hvalid ∘ isName_iff.2), h⟩
  rw [if_neg (by simpa using hvalid)]
  have hname := isName_iff.1 hvalid
  obtain ⟨b, hrun, hb⟩ := h.run_isProtected hname
  rw [Script.run_bind, hrun]
  cases b with
  | true => exact ⟨.reserved (hb.1 rfl), h⟩
  | false =>
    have hfree : ¬s.Reserved t name := fun hreserved => by simpa using hb.2 hreserved
    simp only [Bool.false_eq_true, if_false]
    rw [Script.run_bind, Script.run_lstat]
    cases hlstat : t.lstat cwd (r.userPath name) with
    | ok n =>
      have hthere := (h.lstat_userPath hname).1 hlstat
      exact ⟨.taken hname hfree (by simp [hthere]), h⟩
    | error e =>
      have hnone := h.named?_of_lstat_error hname hlstat
      obtain ⟨hsound, hpaved, hmade⟩ := h.leads_userDir.run_makeDirectories h.sound
      have hstands := h.paved hpaved hsound
      dsimp only
      rw [Script.run_bind]
      generalize (Script.makeDirectories r.userDir).run cwd t = out at hsound hstands hpaved hmade ⊢
      obtain ⟨answer, t'⟩ := out
      cases answer with
      | error e => exact ⟨.noDirectory hname hfree hnone hpaved, hstands⟩
      | ok =>
        -- the directory is there now, and the name in it is still free
        dsimp only at hstands hpaved ⊢
        have hdirectory : t'.node? s.userDir = some .directory := hmade rfl
        have hnone' : s.named? t' name = none :=
          (hpaved.node?_eq (FileTree.not_prefix_of_concat _ _)).trans hnone
        rw [Script.run_bind]
        rcases hstands.leads_userDir.run_makeLink hname r.target with
          ⟨hout, -, hfile, -⟩ | ⟨-, hthere⟩ | ⟨e, hout, hne, hcause⟩
        · have hrun : (Script.makeLink r.target (r.userPath name)).run cwd t' = _ := hout
          rw [hrun]
          exact ⟨.made hname hfree hnone (node?_put_paved hpaved hstands.sound hdirectory _),
            hstands.put hfile hdirectory hnone' _⟩
        · rw [Site.named?] at hnone'
          simp [hnone'] at hthere
        · have hrun : (Script.makeLink r.target (r.userPath name)).run cwd t' = _ := hout
          have hunfit := hstands.unfit_of_refused
            (fun hfile => hstands.roomy_user.join_lt hfile.short) hname hdirectory hcause
          rw [hrun]
          cases e with
          | alreadyExists => exact absurd rfl hne
          | _ => exact ⟨.noLink hname hfree hnone hunfit hpaved hdirectory, hstands⟩

/-- **A call to remove a link** does one of the things that are said of it, and the registry stands
where it did.

**Proof sketch.** The call is followed operation by operation, and each place where it can end is
one case of `Unlinked`.  What stands under the name is removed only if it is a link. -/
lemma run_unlink (h : r.StandsAt cwd s t) (name : String) :
    Unlinked r s name t ((r.unlink name).run cwd t).1 ((r.unlink name).run cwd t).2 ∧
      r.StandsAt cwd s ((r.unlink name).run cwd t).2 := by
  unfold unlink
  by_cases hvalid : isName name = true
  swap
  · rw [if_pos (by simpa using hvalid)]
    exact ⟨.invalid (hvalid ∘ isName_iff.2), h⟩
  rw [if_neg (by simpa using hvalid)]
  have hname := isName_iff.1 hvalid
  obtain ⟨b, hrun, hb⟩ := h.run_isProtected hname
  rw [Script.run_bind, hrun]
  cases b with
  | true => exact ⟨.reserved (hb.1 rfl), h⟩
  | false =>
    have hfree : ¬s.Reserved t name := fun hreserved => by simpa using hb.2 hreserved
    simp only [Bool.false_eq_true, if_false]
    rw [Script.run_bind, Script.run_lstat]
    cases hlstat : t.lstat cwd (r.userPath name) with
    | error e =>
      have hnone := h.named?_of_lstat_error hname hlstat
      -- a name that a directory can hold is just not found, so another error says that this one is
      -- not such a name
      have hunfit : e ≠ .notFound → ¬IsFileName name := by
        rintro hne hfile
        rw [userPath, h.leads_userDir.lstat_join_notFound h.roomy_user hfile hnone] at hlstat
        exact hne (Except.error.inj hlstat).symm
      cases e with
      | notFound => exact ⟨.missing hname hfree hnone, h⟩
      | _ => exact ⟨.unfit hname hfree (hunfit nofun), h⟩
    | ok n =>
      have hthere := (h.lstat_userPath hname).1 hlstat
      cases n with
      | link target =>
        have hout := h.leads_userDir.run_removeEntry_eq h.sound h.roomy_user hname hthere nofun
        have hrun : (Script.removeEntry (r.userPath name)).run cwd t = _ := hout
        have hkeeps : r.StandsAt cwd s (t.erase (s.userDir ++ [name])) :=
          h.erase (by simp [hthere])
        simp only [Node.isLink, Bool.not_true, Bool.false_eq_true, if_false]
        rw [Script.run_bind, hrun]
        exact ⟨.removed hname hfree hthere fun q => FileTree.node?_erase _ (by simp), hkeeps⟩
      | _ => exact ⟨.notLink hname hfree hthere rfl, h⟩

/-- **A call for the names of the links** answers exactly those, and changes nothing. -/
lemma run_names (h : r.StandsAt cwd s t) :
    ∃ names, r.names.run cwd t = (.ok names, t) ∧ s.Listed t names := by
  unfold LinkRegistry.names
  rw [Script.run_bind]
  rcases h.own with hthere | hnone
  · rw [h.leads_userDir.run_list hthere]
    exact ⟨_, rfl, listed_sort s t⟩
  · rw [h.leads_userDir.run_list_error hnone]
    refine ⟨[], rfl, .nil, fun name => ?_⟩
    have habove : s.named? t name = none :=
      h.sound.none_below (List.prefix_append _ _) (by simp) (by simp [hnone])
    simp [habove]

end StandsAt

end CommandRelay.LinkRegistry
