import CommandRelay.Invocation
import CommandRelay.Proofs.Path.Segments
import CommandRelay.Proofs.Session.Request

/-!
# What a base name stands for

The program looks at the last name of the path that it was started under, whatever stands before
that name and however many slashes stand after it.  A hyphen before the name is taken for the mark
of a login shell; the names of the program itself mean management, and any other name is a command.

## Main definitions

* `Path.named` — the segments of a path that are neither empty nor a single dot.
* `Invocation.bareName` — a name without the hyphen of a login shell.

## Main results

* `Path.fileName?_slash` — the last name of a path.
* `Invocation.ofBaseName_toList` — what a base name stands for.
* `ProgramStart.ofBytes_toBytes` — texts reach the program as they are.
* `Invocation.ofArgv0_baseName` — only the base name counts.
-/

namespace CommandRelay

/-! ## Last names -/

namespace Path

/-- The segments of a path that are neither empty nor a single dot. -/
def named (p : List Char) : List (List Char) :=
  (p.splitOn '/').filter fun s => s != [] && s != ['.']

/-- **Segments on both sides of a slash** are those of the two parts. -/
lemma named_slash (a b : List Char) : named (a ++ '/' :: b) = named a ++ named b := by
  rw [named, List.splitOn_append_cons_self, List.filter_append]
  rfl

/-- A name is the only one that it consists of. -/
lemma named_name {name : List Char} (h : IsName name) : named name = [name] := by
  rw [named, List.splitOn_eq_singleton h.noSlash,
    List.filter_cons_of_pos (by simp [h.ne_nil, h.ne_dot])]
  rfl

/-- Slashes after a name are no segments. -/
lemma named_slashes {name : List Char} (h : IsName name) (slashes : ℕ) :
    named (name ++ List.replicate slashes '/') = [name] := by
  induction slashes with
  | zero => rw [List.replicate_zero, List.append_nil, named_name h]
  | succ slashes ih =>
    rw [List.replicate_succ', ← List.append_assoc, named_slash, ih]
    rfl

/-- The base name of a path is the last of its names. -/
lemma fileName?_of_named {p name : List Char} {before : List (List Char)}
    (h : named p = before ++ [name]) (hname : IsName name) : fileName? p = some name := by
  have hlast : (named p).getLast? = some name := by rw [h]; exact List.getLast?_concat
  rw [named] at hlast
  rw [fileName?, hlast]
  exact if_neg hname.ne_up

/-- **The last name of a path**, behind any directory and before any slashes. -/
lemma fileName?_slash (dir : List Char) {name : List Char} (h : IsName name) (slashes : ℕ) :
    fileName? (dir ++ '/' :: (name ++ List.replicate slashes '/')) = some name :=
  fileName?_of_named (by rw [named_slash, named_slashes h]) h

/-- A name is the last name of itself. -/
lemma fileName?_name {name : List Char} (h : IsName name) : fileName? name = some name :=
  fileName?_of_named ((named_name h).trans (List.nil_append [name]).symm) h

end Path

namespace Invocation

/-- A name without the hyphen of a login shell. -/
def bareName (name : String) : String :=
  if name.toList.head? = some '-' then String.ofList name.toList.tail else name

/-- The bare name lacks a dash in front, and only one. -/
lemma toList_bareName (name : String) :
    (bareName name).toList =
      match name.toList with
      | '-' :: rest => rest
      | _ => name.toList := by
  rw [bareName]
  split_ifs with hhead
  · obtain ⟨rest, hrest⟩ := List.head?_eq_some_iff.1 hhead
    rw [hrest, String.toList_ofList]
    rfl
  · split
    · next rest hrest => exact absurd (by rw [hrest]; rfl) hhead
    · rfl

/-- **What a base name stands for**, hyphen or not. -/
lemma ofBaseName_toList (name : String) :
    ofBaseName name.toList =
      if bareName name = controlName then .control
      else if bareName name = plainName ∨ bareName name = "" then .controlOrShell
      else .stub (bareName name) := by
  have hbare : ofBaseName name.toList =
      if (bareName name).toList = controlName.toList then .control
      else if (bareName name).toList = plainName.toList ∨ (bareName name).toList = [] then
        .controlOrShell
      else .stub (String.ofList (bareName name).toList) := by
    rw [toList_bareName]
    rfl
  rw [hbare]
  simp only [String.toList_inj, String.toList_eq_nil_iff, String.ofList_toList]

/-- **A name stands for itself** if no hyphen stands at its start and it is none of the program's
own. -/
lemma ofBaseName_eq_stub {name : String} (hempty : name ≠ "") (hplain : name ≠ plainName)
    (hcontrol : name ≠ controlName) :
    ofBaseName name.toList = .stub name ↔ name.toList.head? ≠ some '-' := by
  rw [ofBaseName_toList]
  by_cases hhead : name.toList.head? = some '-'
  · refine iff_of_false (fun hstub => ?_) (fun hne => hne hhead)
    obtain ⟨rest, hrest⟩ := List.head?_eq_some_iff.1 hhead
    -- what is left without the hyphen is shorter than the name
    split_ifs at hstub
    rw [stub.injEq, bareName, if_pos hhead, ← String.toList_inj, String.toList_ofList,
      hrest] at hstub
    exact List.cons_ne_self '-' rest hstub.symm
  · have hbare : bareName name = name := if_neg hhead
    rw [hbare, if_neg hcontrol, if_neg (by simp [hplain, hempty])]
    exact iff_of_true rfl hhead

end Invocation

namespace ProgramStart

/-- Texts are read from their bytes. -/
lemma decodeArguments_toBytes (texts : List String) :
    decodeArguments (texts.map Text.toBytes) = .ok texts := by
  induction texts with
  | nil => rfl
  | cons text texts ih =>
    rw [List.map_cons, decodeArguments, Text.ofBytes?_toBytes]
    dsimp only
    rw [ih]
    rfl

/-- **Texts reach the program as they are.** -/
lemma ofBytes_toBytes (argv0 : String) (args : List String) :
    ofBytes ((argv0 :: args).map Text.toBytes) = .ok (ofNames argv0 args) := by
  rw [ofBytes, decodeArguments_toBytes]
  rfl

/-- A start stands for a command with every argument just if its name stands for the command. -/
lemma linkedCommand?_eq_some_iff {c : ProgramStart} {words : List String} :
    c.linkedCommand? = some words ↔ ∃ name, c.invocation = .stub name ∧ words = name :: c.args := by
  rw [linkedCommand?]
  cases c.invocation <;> simp [eq_comm]

end ProgramStart

namespace Invocation

variable {name : String}

/-- A name on its own decides the purpose. -/
lemma ofArgv0_name (h : Path.IsName name.toList) : ofArgv0 name = ofBaseName name.toList := by
  rw [ofArgv0, Path.fileName?_name h, Option.getD_some]

/-- So does a name behind a directory and in front of slashes. -/
lemma ofArgv0_slash (h : Path.IsName name.toList) (dir : String) (slashes : ℕ) :
    ofArgv0 (dir ++ "/" ++ name ++ String.ofList (List.replicate slashes '/')) =
      ofBaseName name.toList := by
  have hchars : (dir ++ "/" ++ name ++ String.ofList (List.replicate slashes '/')).toList =
      dir.toList ++ '/' :: (name.toList ++ List.replicate slashes '/') := by simp
  rw [ofArgv0, hchars, Path.fileName?_slash _ h, Option.getD_some]

/-- **Only the base name counts.**  A program that is started under a name behind any directory,
with any slashes after it, is started for what the name alone stands for: without one hyphen it is
the name for management, the plain name of the program or nothing, or the name of a command.  And
what it relays is that name with every argument behind it, just if it stands for a command.

**Proof sketch.** Behind a directory and in front of slashes the last name is the base name, so both
are started for the same (`ofArgv0_slash`).  What a base name stands for is decided by its bare name
against the two names of the program, case by case. -/
theorem ofArgv0_baseName (h : Path.IsName name.toList) (dir : String) (slashes : ℕ)
    (args : List String) :
    let argv0 := dir ++ "/" ++ name ++ String.ofList (List.replicate slashes '/')
    ofArgv0 argv0 = ofArgv0 name ∧
      (ofArgv0 name = .control ↔ bareName name = "ferryctl") ∧
      (ofArgv0 name = .controlOrShell ↔ bareName name = "ferry" ∨ bareName name = "") ∧
      (∀ command, ofArgv0 name = .stub command ↔ command = bareName name ∧
        bareName name ≠ "ferryctl" ∧ bareName name ≠ "ferry" ∧ bareName name ≠ "") ∧
      ∃ c, ProgramStart.ofBytes ((argv0 :: args).map Text.toBytes) = .ok c ∧
        c.invocation = ofArgv0 name ∧
        ∀ words, c.linkedCommand? = some words ↔
          c.invocation = .stub (bareName name) ∧ words = bareName name :: args := by
  intro argv0
  have hbase : ofArgv0 name = ofBaseName name.toList := ofArgv0_name h
  have hsame : ofArgv0 argv0 = ofArgv0 name := (ofArgv0_slash h dir slashes).trans hbase.symm
  have hstub (command : String) : ofArgv0 name = .stub command ↔ command = bareName name ∧
      bareName name ≠ "ferryctl" ∧ bareName name ≠ "ferry" ∧ bareName name ≠ "" := by
    rw [hbase, ofBaseName_toList, controlName, plainName]
    split_ifs with hcontrol hplain
    · exact ⟨nofun, fun h => absurd hcontrol h.2.1⟩
    · exact ⟨nofun, fun h => (hplain.elim h.2.2.1 h.2.2.2).elim⟩
    · rw [not_or] at hplain
      rw [stub.injEq, eq_comm]
      exact ⟨fun h => ⟨h, hcontrol, hplain⟩, fun h => h.1⟩
  refine ⟨hsame, ?_, ?_, hstub, .ofNames argv0 args, ProgramStart.ofBytes_toBytes argv0 args, hsame,
    fun words => ?_⟩
  · rw [hbase, ofBaseName_toList, controlName, plainName]
    split_ifs <;> simp_all
  · rw [hbase, ofBaseName_toList, controlName, plainName]
    split_ifs <;> simp_all
  · have hstart : (ProgramStart.ofNames argv0 args).invocation = ofArgv0 name := hsame
    rw [ProgramStart.linkedCommand?_eq_some_iff, hstart]
    constructor
    · rintro ⟨command, hcommand, hwords⟩
      obtain rfl := ((hstub command).1 hcommand).1
      exact ⟨hcommand, hwords⟩
    · rintro ⟨hcommand, hwords⟩
      exact ⟨_, hcommand, hwords⟩

/-- A name with two hyphens, behind a directory with dots and before two slashes. -/
theorem ofArgv0_baseName_hyphens :
    Path.IsName "--ferryctl".toList ∧
      ofArgv0 ("/usr/./lib/.." ++ "/" ++ "--ferryctl" ++ String.ofList (List.replicate 2 '/')) =
        .stub "-ferryctl" ∧
      ∃ c, ProgramStart.ofBytes
          (["/usr/./lib/../--ferryctl//", "", "--"].map Text.toBytes) = .ok c ∧
        c.linkedCommand? = some ["-ferryctl", "", "--"] := by
  have hname : Path.IsName "--ferryctl".toList := ⟨by decide, by decide, by decide, by decide⟩
  obtain ⟨hsame, -, -, hstub, c, hc, hinvocation, hwords⟩ :=
    ofArgv0_baseName hname "/usr/./lib/.." 2 ["", "--"]
  have hcommand : ofArgv0 "--ferryctl" = .stub "-ferryctl" := (hstub _).2 (by decide)
  exact ⟨hname, hsame.trans hcommand, c, hc,
    (hwords _).2 ⟨hinvocation.trans hcommand, rfl⟩⟩

/-- A path that ends in `..` has no last name, so the whole text is taken for one. -/
example : ofArgv0 "ferry/./" = .controlOrShell ∧ ofArgv0 "ferry/.." = .stub "ferry/.." := by decide

end Invocation

end CommandRelay
