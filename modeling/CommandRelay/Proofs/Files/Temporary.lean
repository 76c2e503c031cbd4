import CommandRelay.Proofs.Files.Directories
import Mathlib.Data.List.Nodup
import Mathlib.Data.List.Perm.Subperm

/-!
# Temporary directories

The names of temporary directories are all of one length and differ from each other, so one of them
is free unless the tree holds as many entries as there are such names.

## Main results

* `FileCall.temporaryName_injective` — different numbers give different names.
* `FileCall.exists_free` — one of the names is free.
* `FileCall.makeUnder_cases`, `FileCall.makeUnder_ok` — making a directory under one of them.
-/

namespace CommandRelay.FileCall

open FileTree

/-- The code of a letter depends on the range that it is from. -/
lemma toNat_letter {i : Nat} (h : i < letterCount) :
    (letter i).toNat = if i < 10 then 48 + i else if i < 36 then 55 + i else 61 + i := by
  have hall : ∀ i < letterCount,
      (letter i).toNat = if i < 10 then 48 + i else if i < 36 then 55 + i else 61 + i := by decide
  exact hall i h

/-- The characters to choose from are different. -/
lemma letter_injective {i j : Nat} (hi : i < letterCount) (hj : j < letterCount)
    (h : letter i = letter j) : i = j := by
  have hnat := congrArg Char.toNat h
  rw [toNat_letter hi, toNat_letter hj] at hnat
  split_ifs at hnat <;> omega

/-- A letter may stand in a name and has one byte. -/
lemma letter_plain {i : Nat} (h : i < letterCount) :
    letter i ≠ '/' ∧ letter i ≠ '\x00' ∧ (letter i).utf8Size = 1 := by
  have hall : ∀ i < letterCount,
      letter i ≠ '/' ∧ letter i ≠ '\x00' ∧ (letter i).utf8Size = 1 := by decide
  exact hall i h

/-- A number is known by its digits. -/
lemma eq_of_digits {b n i j : Nat} (hi : i < Nat.pow b n) (hj : j < Nat.pow b n)
    (h : ∀ k < n, i / Nat.pow b k % b = j / Nat.pow b k % b) : i = j := by
  have hpow : ∀ m, Nat.pow b (m + 1) = b * Nat.pow b m := fun m => Nat.mul_comm (Nat.pow b m) b
  induction n generalizing i j with
  | zero => exact (Nat.lt_one_iff.1 hi).trans (Nat.lt_one_iff.1 hj).symm
  | succ n ih =>
    have hlast : i % b = j % b := by simpa using h 0 (Nat.succ_pos n)
    have hrest : i / b = j / b := by
      rw [hpow] at hi hj
      refine ih (Nat.div_lt_of_lt_mul hi) (Nat.div_lt_of_lt_mul hj) fun k hk => ?_
      have hk' := h (k + 1) (Nat.succ_lt_succ hk)
      rwa [hpow, ← Nat.div_div_eq_div_mul, ← Nat.div_div_eq_div_mul] at hk'
    rw [← Nat.div_add_mod i b, ← Nat.div_add_mod j b, hlast, hrest]

/-- **Different numbers give different names.** -/
lemma temporaryName_injective {stem : String} {i j : Nat} (hi : i < temporaryNames)
    (hj : j < temporaryNames) (h : temporaryName stem i = temporaryName stem j) : i = j := by
  have hlist := congrArg String.toList h
  rw [temporaryName, temporaryName, String.toList_append, String.toList_append,
    List.append_cancel_left_eq, String.toList_ofList, String.toList_ofList,
    List.map_inj_left] at hlist
  exact eq_of_digits hi hj fun k hk =>
    letter_injective (Nat.mod_lt _ (by decide)) (Nat.mod_lt _ (by decide))
      (hlist k (List.mem_range.2 hk))

/-- A text of such characters has as many bytes as characters. -/
lemma utf8ByteSize_ofList {l : List Char} (h : ∀ c ∈ l, c.utf8Size = 1) :
    (String.ofList l).utf8ByteSize = l.length := by
  induction l with
  | nil => rfl
  | cons c l ih =>
    have hcons : String.ofList (c :: l) = String.singleton c ++ String.ofList l := by
      rw [← String.toList_inj]
      simp
    rw [hcons, String.utf8ByteSize_append, String.utf8ByteSize_singleton,
      h c List.mem_cons_self, ih fun c hc => h c (List.mem_cons_of_mem _ hc), List.length_cons,
      Nat.add_comm]

section Names

variable {stem : String} {i : Nat}

/-- Every character of a suffix is a letter. -/
lemma mem_suffix {c : Char} (h : c ∈ (List.range suffixLength).map fun k =>
    letter (i / Nat.pow letterCount k % letterCount)) : ∃ d < letterCount, c = letter d := by
  obtain ⟨k, -, rfl⟩ := List.mem_map.1 h
  exact ⟨_, Nat.mod_lt _ (by decide), rfl⟩

/-- All temporary names of a stem have the same length. -/
lemma utf8ByteSize_temporaryName (stem : String) (i : Nat) :
    (temporaryName stem i).utf8ByteSize = stem.utf8ByteSize + suffixLength := by
  rw [temporaryName, String.utf8ByteSize_append, utf8ByteSize_ofList, List.length_map,
    List.length_range]
  intro c hc
  obtain ⟨d, hd, rfl⟩ := mem_suffix hc
  exact (letter_plain hd).2.2

/-- A directory can hold such a name. -/
lemma isFileName_temporaryName (hslash : '/' ∉ stem.toList) (hnul : '\x00' ∉ stem.toList)
    (hshort : stem.utf8ByteSize + suffixLength ≤ Way.maxName) (i : Nat) :
    IsFileName (temporaryName stem i) := by
  have hchars : ∀ c ∈ (temporaryName stem i).toList,
      c ∈ stem.toList ∨ ∃ d < letterCount, c = letter d := by
    intro c hc
    rw [temporaryName, String.toList_append, List.mem_append, String.toList_ofList] at hc
    exact hc.imp id mem_suffix
  have hlong : suffixLength ≤ (temporaryName stem i).toList.length := by
    simp [temporaryName]
  have hne : ∀ l : List Char, l.length < suffixLength → (temporaryName stem i).toList ≠ l := by
    rintro l hl heq
    exact absurd (heq ▸ hlong) (Nat.not_le.2 hl)
  refine ⟨⟨hne _ (by decide), hne _ (by decide), hne _ (by decide), fun h => ?_⟩, fun h => ?_, ?_⟩
  · rcases hchars _ h with hstem | ⟨d, hd, heq⟩
    · exact hslash hstem
    · exact (letter_plain hd).1 heq.symm
  · rcases hchars _ h with hstem | ⟨d, hd, heq⟩
    · exact hnul hstem
    · exact (letter_plain hd).2.1 heq.symm
  · rwa [utf8ByteSize_temporaryName]

end Names

variable {t : FileTree} {cwd place : Place} {parent stem : String}

/-- **One of the names is free** in a tree with fewer entries than there are names. -/
lemma exists_free (h : t.nodes.size < temporaryNames) (place : Place) (stem : String) :
    ∃ i < temporaryNames, t.node? (place ++ [temporaryName stem i]) = none := by
  have hdifferent : ∀ i < temporaryNames, ∀ j < temporaryNames,
      temporaryName stem i = temporaryName stem j → i = j :=
    fun i hi j hj => temporaryName_injective hi hj
  generalize temporaryNames = n at h hdifferent ⊢
  by_contra hall
  push Not at hall
  have hkeys : (List.range n).map (fun i => place ++ [temporaryName stem i]) ⊆ t.nodes.keys := by
    intro q hq
    obtain ⟨i, hi, rfl⟩ := List.mem_map.1 hq
    obtain ⟨m, hm⟩ := Option.ne_none_iff_exists'.1 (hall i (List.mem_range.1 hi))
    rw [node?, if_neg (by simp)] at hm
    exact List.mem_map.2 ⟨_, Dictionary.mem_of_get? hm, rfl⟩
  have hnodup : ((List.range n).map fun i => place ++ [temporaryName stem i]).Nodup := by
    refine List.Nodup.map_on (fun i hi j hj hij => ?_) List.nodup_range
    exact hdifferent i (List.mem_range.1 hi) j (List.mem_range.1 hj) (by simpa using hij)
  have hlength := (hnodup.subperm hkeys).length_le
  rw [List.length_map, List.length_range, Dictionary.keys, List.length_map] at hlength
  exact Nat.not_le.2 h hlength

/-- **Making a directory under one of the names** makes one where nothing stands or changes nothing.
-/
lemma makeUnder_cases (t : FileTree) (cwd : Place) (parent stem : String) (n : Nat) :
    (∃ e, makeUnder t cwd parent stem n = (.error e, t)) ∨
      ∃ i p, t.locate cwd (Path.join parent (temporaryName stem i)) = .ok p ∧ t.node? p = none ∧
        makeUnder t cwd parent stem n =
          (.ok (Path.join parent (temporaryName stem i)), t.put p .directory) := by
  induction n with
  | zero => exact .inl ⟨_, rfl⟩
  | succ n ih =>
    rw [makeUnder, makeOrElse]
    cases hlocate : t.locate cwd (Path.join parent (temporaryName stem n)) with
    | error e => exact .inl ⟨e, rfl⟩
    | ok p =>
      cases hnode : t.node? p with
      | none => exact .inr ⟨n, p, hlocate, hnode, by simp [hnode]⟩
      | some m => simpa [hnode] using ih

/-- A directory is made if all of the names can be looked for and one of them is free. -/
lemma makeUnder_ok {n : Nat}
    (hlocate : ∀ i, t.locate cwd (Path.join parent (temporaryName stem i)) =
      .ok (place ++ [temporaryName stem i]))
    (hfree : ∃ i < n, t.node? (place ++ [temporaryName stem i]) = none) :
    ∀ e, (makeUnder t cwd parent stem n).1 ≠ .error e := by
  induction n with
  | zero =>
    obtain ⟨i, hi, -⟩ := hfree
    exact absurd hi (Nat.not_lt_zero i)
  | succ n ih =>
    rw [makeUnder, makeOrElse, hlocate]
    cases hnode : t.node? (place ++ [temporaryName stem n]) with
    | none => simp [hnode]
    | some m =>
      simp only [hnode, Option.isSome_some, if_true]
      obtain ⟨i, hi, hnone⟩ := hfree
      refine ih ⟨i, ?_, hnone⟩
      have hne : i ≠ n := by
        rintro rfl
        rw [hnone] at hnode
        cases hnode
      omega

end CommandRelay.FileCall
