import CommandRelay.Proofs.Links.Calls

/-!
# Calls to a registry among others

While other calls to the same registry run, the answer to a look at the tree may be out of date when
the next operation is done.  Each operation of a call still does one of a few things, and each of
these leaves alone what the other calls rely on.

## Main definitions

* `LinkRegistry.Site.Lasting` — what a call relies on.
* `LinkRegistry.LinkStep`, `LinkRegistry.UnlinkStep` — what one operation of a call does.
* `LinkRegistry.lookAndEnter`, `LinkRegistry.lookAndRemove` — what is left of a call for a name that
  is not protected.

## Main results

* `LinkRegistry.always_link`, `LinkRegistry.always_unlink`, `LinkRegistry.always_names` — all
  operations of a call do one of these.
-/

namespace CommandRelay.LinkRegistry

variable {r : LinkRegistry} {cwd : Place} {s : Site} {t t' t'' : FileTree} {name : String}

/-- In the user's directory there stands nothing but perhaps a link under a name. -/
def Site.Open (s : Site) (t : FileTree) (name : String) : Prop :=
  ∀ n, s.named? t name = some n → n.isLink = true

/-- What a call relies on: the user's directory stays, and nothing but links is put into it. -/
structure Site.Lasting (s : Site) (t t' : FileTree) : Prop where
  directory : t.node? s.userDir = some .directory → t'.node? s.userDir = some .directory
  entries : ∀ name, s.Open t name → s.Open t' name

namespace Site.Lasting

/-- Nothing need have changed. -/
lemma refl (s : Site) (t : FileTree) : s.Lasting t t := ⟨id, fun _ => id⟩

/-- What stays for some time and then for some more stays all the time. -/
lemma trans (h : s.Lasting t t') (h' : s.Lasting t' t'') : s.Lasting t t'' :=
  ⟨h'.directory ∘ h.directory, fun name => h'.entries name ∘ h.entries name⟩

end Site.Lasting

/-- What one operation of a call to make a link does, with the answer to the call if it is the last.
-/
inductive LinkStep (r : LinkRegistry) (cwd : Place) (s : Site) (name : String) :
    FileTree → FileTree → Option (Except LinkError String) → Prop where
  | look {t : FileTree} : LinkStep r cwd s name t t none
  | reserved {t : FileTree} (h : r.Protects cwd t name) :
      LinkStep r cwd s name t t (some (.error (.alreadyLinked name true)))
  | taken {t : FileTree} (h : (s.named? t name).isSome) :
      LinkStep r cwd s name t t (some (.error (.alreadyLinked name false)))
  | paved {t t' : FileTree} (h : FileTree.Paved s.userDir t t') (hsound : t'.Sound) :
      LinkStep r cwd s name t t' none
  | noDirectory {t t' : FileTree} {e : FileError} (h : FileTree.Paved s.userDir t t')
      (hsound : t'.Sound) : LinkStep r cwd s name t t' (some (.error (.file r.userDir e)))
  | made {t : FileTree} (hfile : IsFileName name) (hdirectory : t.node? s.userDir = some .directory)
      (hnone : s.named? t name = none) :
      LinkStep r cwd s name t (t.put (s.userDir ++ [name]) (.link r.target))
        (some (.ok (r.userPath name)))
  | noLink {t : FileTree} {e : FileError}
      (h : (r.userPath name).utf8ByteSize < Way.maxPath →
        ¬IsFileName name ∨ ¬Path.IsPath r.target) :
      LinkStep r cwd s name t t (some (.error (.file (r.userPath name) e)))

/-- What one operation of a call to remove a link does. -/
inductive UnlinkStep (s : Site) (name : String) :
    FileTree → FileTree → Option (Except LinkError Unit) → Prop where
  | look {t : FileTree} {result : Option (Except LinkError Unit)} : UnlinkStep s name t t result
  | removed {t : FileTree} {target : String} {result : Option (Except LinkError Unit)}
      (h : s.named? t name = some (.link target)) :
      UnlinkStep s name t (t.erase (s.userDir ++ [name])) result

/-! ## Each call -/

section Always

variable {inv : FileTree → Prop} {rely : FileTree → FileTree → Prop}

/-- Looking for protected links ends at once just for a name in a list. -/
lemma result?_isProtected (r : LinkRegistry) (name : String) :
    (r.isProtected name).result? =
      if defaultNames.contains name || priorityNames.contains name then some true else none := by
  unfold isProtected
  split_ifs <;> rfl

/-- Asking whether a name is protected changes nothing, and the answer is right when it is given. -/
lemma always_isProtected (r : LinkRegistry) (cwd : Place) (name : String) (t : FileTree) :
    (r.isProtected name).Always cwd inv rely
      (fun t t' result => t' = t ∧ (result = some true → r.Protects cwd t name)) t := by
  unfold isProtected
  split_ifs with hlist
  · trivial
  intro t₁ _ _
  have hrun : (FileCall.lstat (Path.join r.defaultDir name)).run cwd t₁ =
      (t₁.lstat cwd (Path.join r.defaultDir name), t₁) := rfl
  rw [hrun]
  cases hd : t₁.lstat cwd (Path.join r.defaultDir name) with
  | ok n => exact ⟨⟨rfl, fun _ => .inr (.inr (.inl (by rw [hd]; rfl)))⟩, trivial⟩
  | error e =>
    refine ⟨⟨rfl, nofun⟩, fun t₂ _ _ => ?_⟩
    have hrun : (FileCall.lstat (Path.join r.priorityDir name)).run cwd t₂ =
        (t₂.lstat cwd (Path.join r.priorityDir name), t₂) := rfl
    rw [hrun]
    cases hp : t₂.lstat cwd (Path.join r.priorityDir name) with
    | ok n => exact ⟨⟨rfl, fun _ => .inr (.inr (.inr (by rw [hp]; rfl)))⟩, trivial⟩
    | error e => exact ⟨⟨rfl, nofun⟩, trivial⟩

/-- The end of a call to make a link, once the user's directory is there. -/
def put (r : LinkRegistry) (name : String) : Script (Except LinkError String) := do
  match ← Script.makeLink r.target (r.userPath name) with
  | .ok () => return .ok (r.userPath name)
  | .error .alreadyExists => return .error (.alreadyLinked name false)
  | .error e => return .error (.file (r.userPath name) e)

/-- The end of a call to make a link, once nothing was seen to stand there. -/
def enter (r : LinkRegistry) (name : String) : Script (Except LinkError String) := do
  match ← Script.makeDirectories r.userDir with
  | .error e => return .error (.file r.userDir e)
  | .ok () => r.put name

/-- The end of a call to make a link, once the name is known not to be protected. -/
def lookAndEnter (r : LinkRegistry) (name : String) : Script (Except LinkError String) := do
  match ← Script.lstat (r.userPath name) with
  | .ok _ => return .error (.alreadyLinked name false)
  | .error _ => r.enter name

/-- A link call checks the name, looks for protected links, and then enters the link. -/
lemma link_eq (r : LinkRegistry) (name : String) : r.link name =
    (do
      if !isName name then return .error (.invalidName name)
      if ← r.isProtected name then return .error (.alreadyLinked name true)
      r.lookAndEnter name) :=
  rfl

/-- Making a link in the user's directory. -/
lemma always_put (hname : Path.IsName name.toList)
    (hdirectory : t.node? s.userDir = some .directory) :
    (r.put name).Always cwd (r.OwnsAt cwd s.userDir) s.Lasting (LinkStep r cwd s name) t := by
  intro t₁ h hlasting
  have hthere := hlasting.directory hdirectory
  rcases h.leads_userDir.run_makeLink hname r.target with
    ⟨hout, -, hfile, hnone⟩ | ⟨hout, htaken⟩ | ⟨e, hout, hne, hcause⟩
  · have hrun : (FileCall.makeLink r.target (r.userPath name)).run cwd t₁ = _ := hout
    rw [hrun]
    exact ⟨.made hfile hthere hnone, trivial⟩
  · have hrun : (FileCall.makeLink r.target (r.userPath name)).run cwd t₁ = _ := hout
    rw [hrun]
    exact ⟨.taken htaken, trivial⟩
  · have hrun : (FileCall.makeLink r.target (r.userPath name)).run cwd t₁ = _ := hout
    have hunfit : (r.userPath name).utf8ByteSize < Way.maxPath →
        ¬IsFileName name ∨ ¬Path.IsPath r.target := fun hshort =>
      h.unfit_of_refused (fun _ => hshort) hname hthere hcause
    rw [hrun]
    cases e with
    | alreadyExists => exact absurd rfl hne
    | _ => exact ⟨.noLink hunfit, trivial⟩

/-- Making the user's directory and then a link in it. -/
lemma always_enter (hname : Path.IsName name.toList) (t : FileTree) :
    (r.enter name).Always cwd (r.OwnsAt cwd s.userDir) s.Lasting (LinkStep r cwd s name) t := by
  by_cases hempty : r.userDir = ""
  · exact .of_not fun t h => h.leads_userDir.path_ne_empty hempty
  refine Script.Always.bind
    ((OwnsAt.always_makeDirectories r cwd s.userDir s.Lasting t).imp ?_) ?_
  swap
  · rw [Script.result?_makeDirectories hempty]
    exact nofun
  rintro t t' answer - ⟨hsound, hpaved, hmade⟩
  rcases answer with _ | ⟨e | _⟩
  · exact ⟨.paved hpaved hsound, nofun⟩
  · refine ⟨.noDirectory hpaved hsound, fun a ha => ?_⟩
    cases ha
    trivial
  · refine ⟨.paved hpaved hsound, fun a ha => ?_⟩
    cases ha
    exact always_put hname (hmade rfl)

/-- Making a link where nothing is seen to stand. -/
lemma always_lookAndEnter (hname : Path.IsName name.toList) (t : FileTree) :
    (r.lookAndEnter name).Always cwd (r.OwnsAt cwd s.userDir) s.Lasting
      (LinkStep r cwd s name) t := by
  intro t₁ h _
  have hrun : (FileCall.lstat (r.userPath name)).run cwd t₁ =
      (t₁.lstat cwd (r.userPath name), t₁) := rfl
  rw [hrun]
  cases hlstat : t₁.lstat cwd (r.userPath name) with
  | ok n =>
    have hthere := h.leads_userDir.of_lstat_join hname hlstat
    exact ⟨.taken (by simp [Site.named?, hthere]), trivial⟩
  | error e =>
    refine ⟨?_, always_enter hname t₁⟩
    change LinkStep r cwd s name t₁ t₁ (Script.result? (Script.makeDirectories r.userDir >>= _))
    rw [Script.result?_bind, Script.result?_makeDirectories h.leads_userDir.path_ne_empty]
    exact .look

/-- **All operations of a call to make a link** do one of the things that are said of them. -/
lemma always_link (r : LinkRegistry) (cwd : Place) (s : Site) (name : String) (t : FileTree) :
    (r.link name).Always cwd (r.OwnsAt cwd s.userDir) s.Lasting (LinkStep r cwd s name) t := by
  rw [link_eq]
  by_cases hvalid : isName name = true
  swap
  · rw [if_pos (by simpa using hvalid)]
    trivial
  rw [if_neg (by simpa using hvalid)]
  have hname := isName_iff.1 hvalid
  refine Script.Always.bind ((always_isProtected r cwd name t).imp ?_) ?_
  · rintro t _ (_ | _ | _) - ⟨rfl, hreserved⟩
    · exact ⟨.look, nofun⟩
    · refine ⟨.look, fun b hb => ?_⟩
      cases hb
      exact always_lookAndEnter hname _
    · refine ⟨.reserved (hreserved rfl), fun b hb => ?_⟩
      cases hb
      trivial
  · rintro (_ | _) -
    · exact always_lookAndEnter hname t
    · trivial

/-- The end of a call to remove a link, once one was seen to stand there. -/
def remove (r : LinkRegistry) (name : String) : Script (Except LinkError Unit) := do
  match ← Script.removeEntry (r.userPath name) with
  | .ok () => return .ok ()
  | .error e => return .error (.file (r.userPath name) e)

/-- The end of a call to remove a link, once the name is known not to be protected. -/
def lookAndRemove (r : LinkRegistry) (name : String) : Script (Except LinkError Unit) := do
  match ← Script.lstat (r.userPath name) with
  | .error .notFound => return .error (.notLinked name)
  | .error e => return .error (.file (r.userPath name) e)
  | .ok n =>
    if !n.isLink then return .error (.notLink name)
    r.remove name

/-- An unlink call checks the name, looks for protected links, and then removes the link. -/
lemma unlink_eq (r : LinkRegistry) (name : String) : r.unlink name =
    (do
      if !isName name then return .error (.invalidName name)
      if ← r.isProtected name then return .error (.isProtected name)
      r.lookAndRemove name) :=
  rfl

/-- Removing a link from the user's directory. -/
lemma always_remove (hname : Path.IsName name.toList) (hopen : s.Open t name) :
    (r.remove name).Always cwd (r.OwnsAt cwd s.userDir) s.Lasting (UnlinkStep s name) t := by
  intro t₁ h hlasting
  have hrest : ∀ answer : Except FileError Unit, ((match answer with
      | .ok () => return .ok ()
      | .error e => return .error (.file (r.userPath name) e) :
        Script (Except LinkError Unit))).Always cwd (r.OwnsAt cwd s.userDir) s.Lasting
          (UnlinkStep s name) ((FileCall.removeEntry (r.userPath name)).run cwd t₁).2 := by
    rintro (_ | _) <;> trivial
  refine ⟨?_, hrest _⟩
  rcases h.leads_userDir.run_removeEntry hname with hout | ⟨hout, n, hnode, -⟩
  · rw [userPath, hout]
    exact .look
  · have hlink := hlasting.entries name hopen n hnode
    rw [userPath, hout]
    cases n with
    | link target => exact .removed hnode
    | _ => cases hlink

/-- Removing what is seen to stand there if it is a link. -/
lemma always_lookAndRemove (hname : Path.IsName name.toList) (t : FileTree) :
    (r.lookAndRemove name).Always cwd (r.OwnsAt cwd s.userDir) s.Lasting (UnlinkStep s name) t := by
  intro t₁ h _
  have hrun : (FileCall.lstat (r.userPath name)).run cwd t₁ =
      (t₁.lstat cwd (r.userPath name), t₁) := rfl
  rw [hrun]
  cases hlstat : t₁.lstat cwd (r.userPath name) with
  | error e =>
    refine ⟨.look, ?_⟩
    cases e <;> trivial
  | ok n =>
    have hthere := h.leads_userDir.of_lstat_join hname hlstat
    refine ⟨.look, ?_⟩
    cases n with
    | link target =>
      refine always_remove hname fun n hn => ?_
      rw [Site.named?, hthere] at hn
      cases hn
      rfl
    | _ => trivial

/-- **All operations of a call to remove a link** do one of the things that are said of them. -/
lemma always_unlink (r : LinkRegistry) (cwd : Place) (s : Site) (name : String) (t : FileTree) :
    (r.unlink name).Always cwd (r.OwnsAt cwd s.userDir) s.Lasting (UnlinkStep s name) t := by
  rw [unlink_eq]
  by_cases hvalid : isName name = true
  swap
  · rw [if_pos (by simpa using hvalid)]
    trivial
  rw [if_neg (by simpa using hvalid)]
  have hname := isName_iff.1 hvalid
  refine Script.Always.bind ((always_isProtected r cwd name t).imp ?_) ?_
  · rintro t _ result - ⟨rfl, -⟩
    refine ⟨.look, ?_⟩
    rintro (_ | _) -
    · exact always_lookAndRemove hname _
    · trivial
  · rintro (_ | _) -
    · exact always_lookAndRemove hname t
    · trivial

/-- **The operation of a call for the names of the links** changes nothing. -/
lemma always_names (r : LinkRegistry) (cwd : Place) (s : Site) (t : FileTree) :
    r.names.Always cwd (r.OwnsAt cwd s.userDir) s.Lasting (fun t t' _ => t' = t) t := by
  intro t₁ h _
  have hsame : ((FileCall.list r.userDir).run cwd t₁).2 = t₁ := by
    rcases h.own with hthere | hnone
    · exact congrArg Prod.snd (h.leads_userDir.run_list hthere)
    · exact congrArg Prod.snd (h.leads_userDir.run_list_error hnone)
  refine ⟨hsame, ?_⟩
  generalize ((FileCall.list r.userDir).run cwd t₁).1 = answer
  rcases answer with e | entries
  · cases e <;> trivial
  · trivial

end Always

end CommandRelay.LinkRegistry
