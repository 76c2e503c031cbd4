import CommandRelay.Proofs.CommandLine.BaseNames
import CommandRelay.Proofs.CommandLine.Relaying
import CommandRelay.Proofs.Links.Calls

/-!
# What links relay

A link is started by its path, whose last segment is its name.  The registry accepts a name on its
own terms, and the start of the program classifies it on others: a hyphen at its start is taken for
the mark of a login shell.  So the links whose names have none relay their names, and the others do
not.

## Main results

* `Path.fileName?_join` — the last segment of the path of a link is its name.
* `LinkRegistry.userPath_of_run_link` — which names are linked, and where.
* `LinkRegistry.link_relays` — which links relay their names.
-/

namespace CommandRelay

/-- **The last segment** of a path that was put together from a directory and a name. -/
lemma Path.fileName?_join (dir : String) {name : String} (h : IsName name.toList) :
    fileName? (join dir name).toList = some name.toList := by
  by_cases hdir : dir.toList = []
  · have hjoin : (join dir name).toList = name.toList := by
      rw [String.toList_eq_nil_iff] at hdir
      rw [hdir, join, if_pos (by simp)]
    rw [hjoin, fileName?_name h]
  · obtain ⟨front, hjoin, -⟩ := toList_join hdir h.noSlash
    rw [hjoin]
    exact fileName?_of_named (by rw [named_slash, named_name h]) h

namespace ProgramStart

/-- A start stands for a command with every argument just if its name stands for the command. -/
lemma linkedCommand?_ofNames {argv0 name : String} {args : List String} :
    (ofNames argv0 args).linkedCommand? = some (name :: args) ↔
      Invocation.ofArgv0 argv0 = .stub name := by
  rw [linkedCommand?, ofNames]
  cases Invocation.ofArgv0 argv0 <;> simp

end ProgramStart

namespace LinkRegistry

variable {r : LinkRegistry} {cwd : Place} {t : FileTree} {name path : String}

/-- **Which names are linked**, whatever the tree, and where.

**Proof sketch.** The call is followed along the only way that ends in success: the name is valid,
it is in neither list, it is not found in the directories, the directories are made, and the link is
made.  At every other turn the answer is an error. -/
lemma userPath_of_run_link (h : ((r.link name).run cwd t).1 = .ok path) :
    Path.IsName name.toList ∧ name ∉ defaultNames ∧ name ∉ priorityNames ∧
      path = r.userPath name := by
  unfold link at h
  by_cases hvalid : isName name = true
  swap
  · rw [if_pos (by simpa using hvalid)] at h
    cases h
  rw [if_neg (by simpa using hvalid), Script.run_bind] at h
  have hown : (defaultNames.contains name || priorityNames.contains name) = false := by
    by_contra hown
    rw [Bool.not_eq_false] at hown
    rw [isProtected, if_pos hown] at h
    cases h
  rw [Bool.or_eq_false_iff, ← Bool.not_eq_true, ← Bool.not_eq_true, List.contains_iff_mem,
    List.contains_iff_mem] at hown
  refine ⟨isName_iff.1 hvalid, hown.1, hown.2, ?_⟩
  generalize (r.isProtected name).run cwd t = out at h
  obtain ⟨b, t₁⟩ := out
  cases b with
  | true => cases h
  | false =>
    simp only [Bool.false_eq_true, if_false] at h
    rw [Script.run_bind, Script.run_lstat] at h
    cases hlstat : t₁.lstat cwd (r.userPath name) with
    | ok n =>
      rw [hlstat] at h
      cases h
    | error e =>
      rw [hlstat] at h
      dsimp only at h
      rw [Script.run_bind] at h
      generalize (Script.makeDirectories r.userDir).run cwd t₁ = out at h
      obtain ⟨made | made, t₂⟩ := out
      · cases h
      · dsimp only at h
        rw [Script.run_bind] at h
        generalize (Script.makeLink r.target (r.userPath name)).run cwd t₂ = out at h
        obtain ⟨e | linked, t₃⟩ := out
        · cases e <;> cases h
        · exact (Except.ok.inj h).symm

/-- **Which links relay their names**: those that no hyphen stands before.  Then the arguments
follow the name untouched.

**Proof sketch.** The last segment of the path is the name, so the start depends on the name alone.
The registry refuses the empty name and the program's own, which leaves the hyphen. -/
theorem link_relays (h : ((r.link name).run cwd t).1 = .ok path) (args : List String) :
    path = r.userPath name ∧
      ∃ c, ProgramStart.ofBytes ((path :: args).map Text.toBytes) = .ok c ∧
        (c.invocation = .stub name ↔ name.toList.head? ≠ some '-') ∧
        (c.linkedCommand? = some (name :: args) ↔ name.toList.head? ≠ some '-') ∧
        (name.toList.head? ≠ some '-' → Task.ofInvocation c = .relay (name :: args) {}) := by
  obtain ⟨hname, hdefault, -, rfl⟩ := userPath_of_run_link h
  have hstub : Invocation.ofArgv0 (r.userPath name) = .stub name ↔
      name.toList.head? ≠ some '-' := by
    rw [Invocation.ofArgv0, userPath, Path.fileName?_join _ hname]
    exact Invocation.ofBaseName_eq_stub (fun h => hname.ne_nil (String.toList_eq_nil_iff.2 h))
      (fun h => hdefault (h ▸ List.mem_cons_self))
      (fun h => hdefault (h ▸ List.mem_cons_of_mem _ List.mem_cons_self))
  refine ⟨rfl, .ofNames (r.userPath name) args, ?_, hstub, ?_, fun hhead => ?_⟩
  · exact ProgramStart.ofBytes_toBytes (r.userPath name) args
  · rw [ProgramStart.linkedCommand?_ofNames]
    exact hstub
  · exact Task.ofInvocation_stub (hstub.2 hhead) args

/-- A link relays its name and arguments that look like switches. -/
theorem link_relays_sample :
    ((sample.link "git").run [] sampleTree).1 = .ok "/h/links/git" ∧
      ∃ c, ProgramStart.ofBytes (["/h/links/git", "--help", "--"].map Text.toBytes) = .ok c ∧
        Task.ofInvocation c = .relay ["git", "--help", "--"] {} := by
  have hlink : ((sample.link "git").run [] sampleTree).1 = .ok "/h/links/git" := by rfl
  obtain ⟨-, c, hc, -, -, hrelay⟩ := link_relays hlink ["--help", "--"]
  exact ⟨hlink, c, hc, hrelay (by decide)⟩

/-- A name with a hyphen before it is linked, and its link enters the management command line. -/
theorem link_hyphen_manages :
    ((sample.link "-ferryctl").run [] sampleTree).1 = .ok "/h/links/-ferryctl" ∧
      Invocation.ofArgv0 "/h/links/-ferryctl" = .control ∧
      Task.ofInvocation (.ofNames "/h/links/-ferryctl" ["links"]) = .manage (.links false) :=
  ⟨by rfl, by decide, by decide⟩

end LinkRegistry

end CommandRelay
