import CommandRelay.Proofs.Session.Agreement

/-!
# Command texts for a shell

An argument list that is to go through a shell becomes one command text.  Whatever the words hold,
the shell finds them in the text again: no character of a word is taken for a quote, a blank or an
operator.

## Main results

* `ShellWords.splitFrom_quoted`, `ShellWords.splitFrom_plain` — a word inside quotes, and a word
  without any.
* `ShellWords.split?_joinChars` — a command text has the words that it was made from.
* `Plan.words_kept` — a planned command reaches its shell word by word.
-/

namespace CommandRelay

namespace ShellWords

/-! ## One word -/

/-- What needs no quotes does not end a word and starts nothing but a word. -/
lemma isActive_of_isSpecial {c : Char} (h : isSpecial c = false) : isActive c = false := by
  simp only [isSpecial, isActive, decide_eq_false_iff_not, List.mem_cons, not_or] at h ⊢
  simp [h]

/-- **Inside quotes** every character of a word is itself, the quote too. -/
lemma splitFrom_quoted (w word : List Char) (done : List (List Char)) (rest : List Char) :
    splitFrom .single word done (w.flatMap quotedChar ++ rest) =
      splitFrom .single (w.reverse ++ word) done rest := by
  induction w generalizing word with
  | nil => rfl
  | cons c w ih =>
    rw [List.flatMap_cons, List.append_assoc, List.reverse_cons, List.append_assoc]
    by_cases hc : c = '\''
    · -- the quotes are closed and opened again around an escaped quote
      subst hc
      simpa [quotedChar, splitFrom] using ih ('\'' :: word)
    · simpa [quotedChar, hc, splitFrom] using ih (c :: word)

/-- **Without quotes** a character that is not special is itself. -/
lemma splitFrom_plain {w : List Char} (h : ∀ c ∈ w, isSpecial c = false) (word : List Char)
    (done : List (List Char)) (rest : List Char) :
    splitFrom .word word done (w ++ rest) = splitFrom .word (w.reverse ++ word) done rest := by
  induction w generalizing word with
  | nil => rfl
  | cons c w ih =>
    have hc : isSpecial c = false := h c List.mem_cons_self
    have hactive : isActive c = false := isActive_of_isSpecial hc
    simp only [isSpecial, decide_eq_false_iff_not, List.mem_cons, not_or] at hc
    have hw := ih (fun d hd => h d (List.mem_cons_of_mem c hd)) (c :: word)
    simpa [splitFrom, hc, hactive] using hw

/-- **One word** is read to its end, and nothing behind it. -/
lemma splitFrom_quote (w : List Char) (done : List (List Char)) (rest : List Char) :
    splitFrom .blank [] done (quote w ++ rest) = splitFrom .word w.reverse done rest := by
  unfold quote
  split_ifs with hquoted
  · have hw := splitFrom_quoted w [] done ('\'' :: rest)
    simpa [splitFrom] using hw
  · obtain ⟨hsome, hplain⟩ : w ≠ [] ∧ ∀ c ∈ w, isSpecial c = false := by
      simpa [List.isEmpty_iff] using hquoted
    cases w with
    | nil => exact absurd rfl hsome
    | cons c w =>
      have hc : isSpecial c = false := hplain c List.mem_cons_self
      have hactive : isActive c = false := isActive_of_isSpecial hc
      simp only [isSpecial, decide_eq_false_iff_not, List.mem_cons, not_or] at hc
      have hw := splitFrom_plain (fun d hd => hplain d (List.mem_cons_of_mem c hd)) [c] done rest
      simpa [splitFrom, hc, hactive] using hw

/-! ## All words -/

/-- Words are joined by a space. -/
lemma joinChars_cons_cons (w v : List Char) (ws : List (List Char)) :
    joinChars (w :: v :: ws) = quote w ++ ' ' :: joinChars (v :: ws) := by
  simp [joinChars, List.intercalate]

/-- Words are read behind the words that came before. -/
lemma splitFrom_joinChars (w : List Char) (ws done : List (List Char)) :
    splitFrom .blank [] done (joinChars (w :: ws)) = some (done.reverse ++ w :: ws) := by
  induction ws generalizing w done with
  | nil =>
    have hw := splitFrom_quote w done []
    simpa [joinChars, List.intercalate, splitFrom] using hw
  | cons v ws ih =>
    rw [joinChars_cons_cons, splitFrom_quote]
    simpa [splitFrom] using ih v (w :: done)

/-- **A command text** has the words that it was made from, as many of them and in their order. -/
lemma split?_joinChars (ws : List (List Char)) : split? (joinChars ws) = some ws := by
  cases ws with
  | nil => rfl
  | cons w ws => exact splitFrom_joinChars w ws []

end ShellWords

namespace Plan

/-- **A shell finds the planned words.** An argument list that is to go through a shell, with its
paths as they are, becomes a command text, whatever its words are made of.  Every agent to which the
metadata of the plan came last starts its login shell with this text, unchanged, as the command, and
the text splits into the words of the argument list: as many, in their order, each as it was.

**Proof sketch.** The text is made by `ShellWords.join`.  Each of its words is read to its end and
not further, whether it stands in quotes or not, and the blank behind it ends it. -/
theorem words_kept (s : Settings) (argv : List String) (o : RunOptions) (source : Environment)
    (terminals : Streams) (vantage : Vantage) (hargv : argv ≠ []) (hshell : o.shell = true)
    (hpaths : o.translatePaths = false) :
    let plan := build s argv o source terminals vantage
    ∃ text : String,
      plan.payload = some text ∧
      ShellWords.split? text.toList = some (argv.map String.toList) ∧
      ∀ (r : LaunchRequest) (isDirectory : String → Bool) (host : HostProfile), ∃ spec : Launch,
        (r.setEnv Metadata.carrierName plan.metadata.encode).launch isDirectory
          (some (Text.toBytes text)) host = .ok spec ∧
        spec.program = host.shell ∧ spec.args = ["-c", text] := by
  intro plan
  obtain ⟨program, args, rfl⟩ := List.exists_cons_of_ne_nil hargv
  have hwords : argumentsOf s o vantage (program :: args) = program :: args := by
    simp [argumentsOf, hpaths]
  have hpayload : plan.payload = some (ShellWords.join (program :: args)) := by
    simp [plan, build, hpaths, hshell]
  refine ⟨ShellWords.join (program :: args), hpayload, ?_, ?_⟩
  · rw [ShellWords.join, String.toList_ofList]
    exact ShellWords.split?_joinChars _
  · intro r isDirectory host
    have hmetadata :
        (r.setEnv Metadata.carrierName plan.metadata.encode).metadata = .ok plan.metadata := by
      simp [LaunchRequest.metadata, LaunchRequest.setEnv, Metadata.decode_encode]
    have hcommand : LaunchRequest.command plan.metadata.mode (plan.payload.map Text.toBytes) host =
        .ok (host.shell, host.loginName, ["-c", ShellWords.join (program :: args)]) := by
      rw [command_build, hwords, commandOf, if_pos hshell]
    rw [hpayload] at hcommand
    exact ⟨_, LaunchRequest.launch_of hmetadata hcommand isDirectory, rfl, rfl⟩

/-- Words that a shell would take for something else: nothing at all, a quote, an expansion, an
operator, two lines, a comment and a pattern. -/
theorem words_kept_hostile :
    let argv := ["", "it's", "$HOME;id", "a\nb", "#", "*"]
    let o : RunOptions := { shell := true }
    let plan := build {} argv o {} {} default
    let text := "'' 'it'\\''s' '$HOME;id' 'a\nb' '#' '*'"
    (argv ≠ [] ∧ o.shell = true ∧ o.translatePaths = false) ∧
      plan.payload = some text ∧
      ShellWords.split? text.toList = some (argv.map String.toList) ∧
      ∃ spec : Launch,
        (({} : LaunchRequest).setEnv Metadata.carrierName plan.metadata.encode).launch
          (fun _ => true)
          (some (Text.toBytes text)) {} = .ok spec ∧
        spec.program = "/bin/sh" ∧ spec.args = ["-c", text] := by
  intro argv o plan text
  have hargv : argv ≠ [] := by decide
  obtain ⟨text', hpayload, hsplit, hlaunch⟩ := words_kept {} argv o {} {} default hargv rfl rfl
  have htext : plan.payload = some text := by decide +kernel
  obtain rfl : text' = text := Option.some.inj (hpayload.symm.trans htext)
  exact ⟨⟨hargv, rfl, rfl⟩, htext, hsplit, hlaunch {} (fun _ => true) {}⟩

end Plan

end CommandRelay
