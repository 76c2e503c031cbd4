import CommandRelay.Terminal.Attributes
import Mathlib.Tactic.Common

/-!
# Words of flags

Attributes are changed bit by bit: some bits of a word come from elsewhere, and all others stay.

## Main definitions

* `Terminal.splice` — a word with the bits of a mask taken from another word.
* `Terminal.IsFlag` — a mask of one bit; `Terminal.flagsOf` — all flags of a table.

## Main results

* `Terminal.splice_inside`, `splice_outside` — what a splice holds inside and outside its mask.
* `Terminal.setFlag_hasFlag` — setting a flag as it is in another word is a splice.
* `Terminal.applyFlags_eq_splice` — so is applying the modes of another word.
-/

namespace CommandRelay.Terminal

/-! ## Splices -/

/-- A word with the bits of a mask taken from another word. -/
def splice (mask source word : UInt32) : UInt32 := (source &&& mask) ||| (word &&& ~~~mask)

/-- Words with the same bits are equal. -/
lemma eq_of_bits {a b : UInt32}
    (h : ∀ (i : Nat) (hi : i < 32), a.toBitVec[i] = b.toBitVec[i]) : a = b :=
  UInt32.toBitVec_inj.1 (BitVec.eq_of_getElem_eq h)

section Splice

variable {mask field : UInt32} (source word : UInt32)

/-- A bit of a splice comes from one word or the other. -/
lemma getElem_splice (mask : UInt32) (i : Nat) (hi : i < 32) :
    (splice mask source word).toBitVec[i] =
      if mask.toBitVec[i] then source.toBitVec[i] else word.toBitVec[i] := by
  cases hmask : mask.toBitVec[i] <;> simp [splice, hmask]

/-- **Inside its mask** a splice is the word that the bits come from. -/
lemma splice_inside (h : field &&& mask = field) :
    splice mask source word &&& field = source &&& field := by
  refine eq_of_bits fun i hi => ?_
  have hbit : (field &&& mask).toBitVec[i] = field.toBitVec[i] := by rw [h]
  rw [UInt32.toBitVec_and, BitVec.getElem_and] at hbit
  rw [UInt32.toBitVec_and, UInt32.toBitVec_and, BitVec.getElem_and, BitVec.getElem_and,
    getElem_splice]
  cases hmask : mask.toBitVec[i]
  · have hfield : field.toBitVec[i] = false := by simpa [hmask] using hbit.symm
    simp [hfield]
  · simp

/-- **Outside its mask** a splice is the word that was changed. -/
lemma splice_outside (h : field &&& mask = 0) :
    splice mask source word &&& field = word &&& field := by
  refine eq_of_bits fun i hi => ?_
  have hbit : (field &&& mask).toBitVec[i] = false := by simp [h]
  rw [UInt32.toBitVec_and, BitVec.getElem_and] at hbit
  rw [UInt32.toBitVec_and, UInt32.toBitVec_and, BitVec.getElem_and, BitVec.getElem_and,
    getElem_splice]
  cases hmask : mask.toBitVec[i]
  · simp
  · have hfield : field.toBitVec[i] = false := by simpa [hmask] using hbit
    simp [hfield]

/-- Two splices of one source are one. -/
lemma splice_splice (mask field : UInt32) :
    splice mask source (splice field source word) = splice (mask ||| field) source word := by
  refine eq_of_bits fun i hi => ?_
  simp only [getElem_splice, UInt32.toBitVec_or, BitVec.getElem_or]
  cases mask.toBitVec[i] <;> cases field.toBitVec[i] <;> simp

/-- Nothing is taken under no mask. -/
@[simp] lemma splice_zero : splice 0 source word = word := by
  refine eq_of_bits fun i hi => ?_
  simp [getElem_splice]

end Splice

/-! ## Flags -/

/-- A mask of one bit. -/
def IsFlag (mask : UInt32) : Prop := ∃ i : Fin 32, mask.toBitVec = BitVec.twoPow 32 i

/-- The bit is looked for among the 32 of a word. -/
instance (mask : UInt32) : Decidable (IsFlag mask) :=
  inferInstanceAs (Decidable (∃ i : Fin 32, mask.toBitVec = BitVec.twoPow 32 i))

/-- All flags of a table. -/
def flagsOf (table : List (Nat × UInt32)) : UInt32 := table.foldr (fun e mask => e.2 ||| mask) 0

/-- An empty table has no flags. -/
@[simp] lemma flagsOf_nil : flagsOf [] = 0 := rfl

/-- The flags of a table are the first one with those of the rest. -/
@[simp] lemma flagsOf_cons (e : Nat × UInt32) (table : List (Nat × UInt32)) :
    flagsOf (e :: table) = e.2 ||| flagsOf table := rfl

/-- A flag of a table is among all flags of it. -/
lemma and_flagsOf {table : List (Nat × UInt32)} {e : Nat × UInt32} (he : e ∈ table) :
    e.2 &&& flagsOf table = e.2 := by
  have habsorb : ∀ a b : UInt32, a &&& (a ||| b) = a := fun a b => eq_of_bits fun i hi => by
    cases ha : a.toBitVec[i] <;> simp [ha]
  induction table with
  | nil => cases he
  | cons first rest ih =>
    rcases List.mem_cons.1 he with rfl | he
    · exact habsorb _ _
    · rw [flagsOf_cons, UInt32.or_comm]
      calc e.2 &&& (flagsOf rest ||| first.2)
          = (e.2 &&& flagsOf rest) &&& (flagsOf rest ||| first.2) := by rw [ih he]
        _ = e.2 &&& flagsOf rest := by rw [UInt32.and_assoc, habsorb]
        _ = e.2 := ih he

/-- A word has all of a flag or nothing of it. -/
lemma IsFlag.and_eq {mask : UInt32} (h : IsFlag mask) (word : UInt32) :
    word &&& mask = mask ∨ word &&& mask = 0 := by
  obtain ⟨i, hi⟩ := h
  have hand : (word &&& mask).toBitVec = if word.toBitVec.getLsbD i then mask.toBitVec else 0 := by
    rw [UInt32.toBitVec_and, hi, BitVec.and_twoPow]
    rfl
  split_ifs at hand
  · exact .inl (UInt32.toBitVec_inj.1 hand)
  · exact .inr (UInt32.toBitVec_inj.1 hand)

/-- **A flag set as it is in another word** is taken from there. -/
lemma setFlag_hasFlag {mask : UInt32} (h : IsFlag mask) (source word : UInt32) :
    setFlag word mask (hasFlag source mask) = splice mask source word := by
  rcases h.and_eq source with hall | hnone
  · have hon : hasFlag source mask = true := by simp [hasFlag, hall]
    rw [setFlag, hon, splice, hall]
    refine eq_of_bits fun i hi => ?_
    cases hmask : mask.toBitVec[i] <;> simp [hmask]
  · by_cases hzero : mask = 0
    · simp [setFlag, hzero]
    · have hoff : hasFlag source mask = false := by simpa [hasFlag, hnone] using Ne.symm hzero
      simp [setFlag, hoff, splice, hnone]

/-- **The modes of another word's flags**, applied to a word, take these flags from there. -/
lemma applyFlags_eq_splice {table : List (Nat × UInt32)} (hflags : ∀ e ∈ table, IsFlag e.2)
    {m : Modes} {source : UInt32}
    (hm : ∀ e ∈ table, m.get? e.1 = some (hasFlag source e.2).toNat) (word : UInt32) :
    applyFlags table m word = splice (flagsOf table) source word := by
  induction table generalizing word with
  | nil => simp [applyFlags]
  | cons e table ih =>
    have hbit : ((hasFlag source e.2).toNat != 0) = hasFlag source e.2 := by
      cases hasFlag source e.2 <;> rfl
    have hfirst : applyFlags (e :: table) m word =
        applyFlags table m (splice e.2 source word) := by
      rw [← setFlag_hasFlag (hflags e List.mem_cons_self)]
      simp [applyFlags, hm e List.mem_cons_self, hbit]
    rw [hfirst, ih (fun e' he => hflags e' (List.mem_cons_of_mem _ he))
      (fun e' he => hm e' (List.mem_cons_of_mem _ he)), splice_splice, flagsOf_cons,
      UInt32.or_comm]

/-- Words that agree where a flag is both have it or not. -/
lemma hasFlag_congr {a b mask : UInt32} (h : a &&& mask = b &&& mask) :
    hasFlag a mask = hasFlag b mask := by
  rw [hasFlag, hasFlag, h]

end CommandRelay.Terminal
