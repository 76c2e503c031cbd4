import CommandRelay.Path.Argument
import CommandRelay.Proofs.Path.Idempotence
import Mathlib.Data.List.TakeWhile

/-!
# Arguments that hold a path

An argument that holds a path is made of dashes, a name, an equals sign and the path, and it can be
read in one way only.  Mapping the arguments of a command changes these paths and the arguments that
are paths themselves, and nothing else.

## Main definitions

* `PathArgument.IsProper` — the form of an argument that holds a path.
* `PathArgument.IsPathOf` — the path that an argument is or holds.

## Main results

* `PathArgument.ofChars?_eq_some_iff` — the parts are found exactly if the argument has this form.
* `PathMapping.translateArguments_spec` — what becomes of arguments.
-/

namespace CommandRelay

open CommandRelay.Path

namespace PathArgument

/-! ## The form of an argument -/

/-- A character of a flag's name. -/
def InName (c : Char) : Prop :=
  ('a' ≤ c ∧ c ≤ 'z') ∨ ('A' ≤ c ∧ c ≤ 'Z') ∨ ('0' ≤ c ∧ c ≤ '9') ∨ c = '_' ∨ c = '-'

/-- A character is compared with the ends of three ranges and with two signs. -/
instance : DecidablePred InName := fun c =>
  inferInstanceAs (Decidable (('a' ≤ c ∧ c ≤ 'z') ∨ ('A' ≤ c ∧ c ≤ 'Z') ∨ ('0' ≤ c ∧ c ≤ '9') ∨
    c = '_' ∨ c = '-'))

/-- The form of an argument that holds a path: dashes, a name that does not start with another one,
and a path on one line with something behind its slash. -/
structure IsProper (a : PathArgument) : Prop where
  dashes : ∀ c ∈ a.dashes, c = '-'
  name : ∀ c ∈ a.name, InName c
  name_head : a.name.head? ≠ some '-'
  value : ∃ rest, a.value = '/' :: rest ∧ rest ≠ [] ∧ '\n' ∉ rest

/-- The reader's test of a character is that of a flag's name. -/
lemma isNameChar_iff {c : Char} : isNameChar c = true ↔ InName c := by
  have hle : ∀ a b : Char, a ≤ b ↔ a.val ≤ b.val := fun a b => Iff.rfl
  unfold isNameChar
  delta Char.isAlphanum Char.isAlpha Char.isUpper Char.isLower Char.isDigit
  simp only [InName, Bool.or_eq_true, Bool.and_eq_true, decide_eq_true_eq, beq_iff_eq, hle,
    ge_iff_le]
  constructor
  · rintro ((((h | h) | h) | h) | h) <;> simp only [h, and_self, true_or, or_true]
  · rintro (h | h | h | h | h) <;> simp only [h, and_self, true_or, or_true]

/-- The reader's test of a value is that of a path on one line with something behind its slash. -/
lemma isValue_iff {v : List Char} :
    isValue v = true ↔ ∃ rest, v = '/' :: rest ∧ rest ≠ [] ∧ '\n' ∉ rest := by
  unfold isValue
  split
  · next rest => simp
  · next h =>
    simp only [Bool.false_eq_true, false_iff]
    rintro ⟨rest, rfl, -⟩
    exact h rest rfl

/-! ## Finding the parts -/

section Parts

variable {d n : List Char} (hd : ∀ c ∈ d, c = '-') (hn : ∀ c ∈ n, InName c)
  (hhead : n.head? ≠ some '-') (v : List Char)

include hd hn hhead

/-- The leading dashes end where the name starts, and the name ends before the equals sign. -/
lemma ofChars?_parts :
    ofChars? (d ++ n ++ '=' :: v) = if isValue v then some ⟨d, n, v⟩ else none := by
  have hdash : ∀ c ∈ d, (c == '-') = true := fun c hc => by simpa using hd c hc
  have hname : ∀ c ∈ n, isNameChar c = true := fun c hc => isNameChar_iff.2 (hn c hc)
  have hequals : isNameChar '=' = false := by decide
  have hstart : ∃ c rest, n ++ '=' :: v = c :: rest ∧ (c == '-') = false := by
    cases n with
    | nil => exact ⟨'=', v, rfl, rfl⟩
    | cons c n => exact ⟨c, n ++ '=' :: v, rfl, by simpa using hhead⟩
  have hbody : (d ++ n ++ '=' :: v).takeWhile (· == '-') = d ∧
      (d ++ n ++ '=' :: v).dropWhile (· == '-') = n ++ '=' :: v := by
    obtain ⟨c, rest, hstart, hc⟩ := hstart
    rw [List.append_assoc, List.takeWhile_append_of_pos hdash, List.dropWhile_append_of_pos hdash,
      hstart]
    simp [hc]
  have hrest : (n ++ '=' :: v).takeWhile isNameChar = n ∧
      (n ++ '=' :: v).dropWhile isNameChar = '=' :: v := by
    rw [List.takeWhile_append_of_pos hname, List.dropWhile_append_of_pos hname]
    simp [hequals]
  simp only [ofChars?, hbody, hrest]

omit hhead in
/-- Such an argument is no path itself. -/
lemma isAbsolute_parts : isAbsolute (d ++ n ++ '=' :: v) = false := by
  cases d with
  | cons c d => simp [isAbsolute, hd c List.mem_cons_self]
  | nil =>
    cases n with
    | nil => rfl
    | cons c n =>
      have hslash : ¬InName '/' := by decide
      have hc : c ≠ '/' := by
        rintro rfl
        exact hslash (hn '/' List.mem_cons_self)
      simpa [isAbsolute] using hc

end Parts

/-- **The parts of an argument** are found exactly if it has the form of an argument that holds a
path.

**Proof sketch.** The dashes are all that lead, so the name does not start with one, and the name
is the longest possible, which ends before the equals sign. -/
lemma ofChars?_eq_some_iff {arg : List Char} {a : PathArgument} :
    ofChars? arg = some a ↔ a.IsProper ∧ arg = a.toChars := by
  constructor
  · intro h
    rw [ofChars?] at h
    split at h
    · next value hrest =>
      split_ifs at h with hvalue
      obtain rfl := Option.some.inj h
      have hbody := List.takeWhile_append_dropWhile (p := (· == '-')) (l := arg)
      have hname := List.takeWhile_append_dropWhile (p := isNameChar)
        (l := arg.dropWhile (· == '-'))
      refine ⟨⟨?_, ?_, ?_, isValue_iff.1 hvalue⟩, ?_⟩
      · intro c hc
        simpa using List.mem_takeWhile_imp hc
      · intro c hc
        exact isNameChar_iff.1 (List.mem_takeWhile_imp hc)
      · intro hdash
        have hnot := List.head?_dropWhile_not (· == '-') arg
        rw [List.head?_takeWhile, Option.filter_eq_some_iff] at hdash
        simp [hdash.1] at hnot
      · rw [toChars, List.append_assoc, ← hrest, hname, hbody]
    · cases h
  · rintro ⟨h, rfl⟩
    rw [toChars, ofChars?_parts h.dashes h.name h.name_head, if_pos (isValue_iff.2 h.value)]

/-- An absolute path is no argument that holds another one. -/
lemma ofChars?_of_isAbsolute {arg : List Char} (h : isAbsolute arg = true) :
    ofChars? arg = none := by
  rw [Option.eq_none_iff_forall_ne_some]
  intro a ha
  obtain ⟨hproper, rfl⟩ := ofChars?_eq_some_iff.1 ha
  rw [toChars, isAbsolute_parts hproper.dashes hproper.name] at h
  cases h

/-- The form can be read in one way only. -/
lemma IsProper.toChars_inj {a b : PathArgument} (ha : a.IsProper) (hb : b.IsProper)
    (h : a.toChars = b.toChars) : a = b := by
  have hread : ofChars? a.toChars = some a := ofChars?_eq_some_iff.2 ⟨ha, rfl⟩
  have hagain : ofChars? a.toChars = some b := ofChars?_eq_some_iff.2 ⟨hb, h⟩
  exact Option.some.inj (hread.symm.trans hagain)

/-- The path that an argument is or holds. -/
inductive IsPathOf : List Char → List Char → Prop
  | whole {arg : List Char} (h : isAbsolute arg = true) : IsPathOf arg arg
  | part {a : PathArgument} (h : a.IsProper) : IsPathOf a.toChars a.value

/-- It is found by looking for the parts. -/
lemma IsPathOf.eq {arg p : List Char} (h : IsPathOf arg p) :
    p = ((ofChars? arg).map value).getD arg := by
  cases h with
  | whole habs => simp [ofChars?_of_isAbsolute habs]
  | part ha => simp [ofChars?_eq_some_iff.2 ⟨ha, rfl⟩]

end PathArgument

namespace PathMapping

open PathArgument

variable {m : PathMapping}

/-! ## One argument -/

/-- Only the path of an argument that holds one is mapped. -/
lemma translateArgumentChars_of_proper {a : PathArgument} (ha : a.IsProper)
    (direction : Direction) :
    m.translateArgumentChars direction a.toChars =
      a.dashes ++ a.name ++ '=' :: m.translateChars direction a.value := by
  have hparts : ofChars? a.toChars = some a := ofChars?_eq_some_iff.2 ⟨ha, rfl⟩
  simp only [translateArgumentChars, hparts]
  rfl

/-- An argument that holds no path is mapped if it is one. -/
lemma translateArgumentChars_of_none {arg : List Char} (h : ofChars? arg = none)
    (direction : Direction) :
    m.translateArgumentChars direction arg =
      if isAbsolute arg then m.translateChars direction arg else arg := by
  simp only [translateArgumentChars, h]

section Twice

variable (hmount : Path.IsTidy m.mountPrefix.toList)
  (hexplicit : Path.IsTidy m.explicitPrefix.toList)
  (hapart : Apart m.explicitPrefix.toList m.mountPrefix.toList)

include hmount in
/-- The foreign name of an absolute path is absolute unless it is written as a foreign one. -/
lemma isAbsolute_toForeignChars {path : List Char} (habs : isAbsolute path = true)
    (h : m.isLinked (cleanChars path) = true ∨
      isUnder m.explicitPrefix.toList (cleanChars path) = false) :
    isAbsolute (m.toForeignChars path) = true := by
  rcases toForeignChars_cases h with hstays | ⟨-, hmounted⟩
  · rw [hstays, isAbsolute_cleanChars, habs]
  · rw [hmounted, cleanChars_of_isAbsolute habs, joinUnder_render hmount (isName_segments habs)]
    rfl

include hmount hexplicit hapart in
/-- **An argument that is mapped twice** is mapped once.

**Proof sketch.** An argument that is a path is one afterwards.  One that holds a path holds it
afterwards, and the second pass finds it behind the same name, unless it shrank to a mere slash or
got a line feed from the directory of the mount; then the second pass changes nothing. -/
lemma translateArgumentChars_twice {arg : List Char}
    (h : ∀ p, IsPathOf arg p → m.isLinked (cleanChars p) = true ∨
      isUnder m.explicitPrefix.toList (cleanChars p) = false) :
    m.translateArgumentChars .toForeign (m.translateArgumentChars .toForeign arg) =
      m.translateArgumentChars .toForeign arg := by
  cases harg : ofChars? arg with
  | some a =>
    obtain ⟨ha, rfl⟩ := ofChars?_eq_some_iff.1 harg
    obtain ⟨rest, hvalue, -, -⟩ := ha.value
    have hpath := h a.value (.part ha)
    have habs : isAbsolute a.value = true := by rw [hvalue]; rfl
    have hagain : m.toForeignChars (m.toForeignChars a.value) = m.toForeignChars a.value :=
      toForeignChars_twice hmount hexplicit hapart hpath
    have hparts := ofChars?_parts ha.dashes ha.name ha.name_head (m.toForeignChars a.value)
    rw [translateArgumentChars_of_proper ha, translateChars]
    by_cases hfound : isValue (m.toForeignChars a.value) = true
    · rw [if_pos hfound] at hparts
      simp only [translateArgumentChars, hparts, translateChars, hagain, toChars]
    · rw [if_neg hfound] at hparts
      rw [translateArgumentChars_of_none hparts, isAbsolute_parts ha.dashes ha.name,
        if_neg Bool.false_ne_true]
  | none =>
    rw [translateArgumentChars_of_none harg]
    split_ifs with habs
    · have hpath := h arg (.whole habs)
      simp only [translateChars]
      have hstill := isAbsolute_toForeignChars hmount habs hpath
      rw [translateArgumentChars_of_none (ofChars?_of_isAbsolute hstill), if_pos hstill,
        translateChars, toForeignChars_twice hmount hexplicit hapart hpath]
    · rw [translateArgumentChars_of_none harg, if_neg habs]

end Twice

/-! ## All arguments -/

/-- **The arguments of a command.** The parts of an argument that holds a path are found exactly if
it has that form, and it has it in one way only.  Mapping arguments maps each of them on its own:
of one that holds a path this path is mapped, one that is a path is mapped, and every other one
stays.  Where files are mounted in a tidy directory that is apart from the tidy directory of
explicitly foreign names, mapping twice is mapping once, unless a path is written as a foreign
one.

**Proof sketch.** The parts of an argument are those of `ofChars?_eq_some_iff`, and they are unique
by `IsProper.toChars_inj`.  The function for one argument is `translateArgumentChars`, whose two
cases are those of an argument with parts and of one without.  Mapping twice is
`translateArgumentChars_twice` for each argument. -/
theorem translateArguments_spec (m : PathMapping) :
    (∀ (arg : List Char) (a : PathArgument),
      ofChars? arg = some a ↔ a.IsProper ∧ arg = a.toChars) ∧
    (∀ a b : PathArgument, a.IsProper → b.IsProper → a.toChars = b.toChars → a = b) ∧
    (∀ direction, ∃ f : String → String,
      (∀ args, m.translateArguments direction args = args.map f) ∧
      (∀ a : PathArgument, a.IsProper → f (String.ofList a.toChars) =
        String.ofList (a.dashes ++ a.name ++ ['=']) ++
          m.translate direction (String.ofList a.value)) ∧
      ∀ arg, (∀ a : PathArgument, a.IsProper → arg.toList ≠ a.toChars) →
        f arg = if isAbsolute arg.toList then m.translate direction arg else arg) ∧
    (Path.IsTidy m.mountPrefix.toList → Path.IsTidy m.explicitPrefix.toList →
      Apart m.explicitPrefix.toList m.mountPrefix.toList → ∀ args : List String,
      (∀ arg ∈ args, ∀ p, IsPathOf arg.toList p → m.isLinked (cleanChars p) = true ∨
        isUnder m.explicitPrefix.toList (cleanChars p) = false) →
      m.translateArguments .toForeign (m.translateArguments .toForeign args) =
        m.translateArguments .toForeign args) := by
  refine ⟨fun arg a => ofChars?_eq_some_iff, fun a b ha hb => ha.toChars_inj hb, ?_, ?_⟩
  · intro direction
    refine ⟨fun arg => String.ofList (m.translateArgumentChars direction arg.toList),
      fun args => rfl, ?_, ?_⟩
    · intro a ha
      dsimp only
      rw [String.toList_ofList, translateArgumentChars_of_proper ha, translate,
        String.toList_ofList, ← String.ofList_append]
      simp
    · intro arg hnone
      have harg : ofChars? arg.toList = none := by
        rw [Option.eq_none_iff_forall_ne_some]
        intro a ha
        obtain ⟨hproper, hchars⟩ := ofChars?_eq_some_iff.1 ha
        exact hnone a hproper hchars
      dsimp only
      rw [translateArgumentChars_of_none harg]
      split_ifs
      · rfl
      · exact String.ofList_toList
  · intro hmount hexplicit hapart args h
    rw [translateArguments, translateArguments, List.map_map]
    refine List.map_congr_left fun arg harg => ?_
    rw [Function.comp_apply, String.toList_ofList,
      translateArgumentChars_twice hmount hexplicit hapart (h arg harg)]

/-- An option whose path shrinks to the root, one whose path holds an equals sign, a path, and an
argument whose path would be on two lines. -/
theorem translateArguments_spec_mixed :
    let m : PathMapping := { home := some "/srv" }
    let args := ["--out=/etc/..", "I=/srv/y=/z", "/srv/x", "-x=/srv\n"]
    m.translateArguments .toForeign args =
        ["--out=/", "I=/mnt/mac/srv/y=/z", "/mnt/mac/srv/x", "-x=/srv\n"] ∧
      m.translateArguments .toForeign (m.translateArguments .toForeign args) =
        m.translateArguments .toForeign args := by
  intro m args
  have hpaths : ∀ arg ∈ args, isUnder m.explicitPrefix.toList
      (cleanChars (((ofChars? arg.toList).map value).getD arg.toList)) = false := by
    decide
  refine ⟨by decide, ?_⟩
  refine (translateArguments_spec m).2.2.2 ⟨by decide, by decide⟩ ⟨by decide, by decide⟩
    ⟨by decide, by decide⟩ args ?_
  intro arg harg p hp
  rw [hp.eq]
  exact .inr (hpaths arg harg)

end PathMapping

end CommandRelay
