import CommandRelay.Proofs.Terminal.Crossing
import Mathlib.Data.List.Basic

/-!
# Terminal modes that arrive

Modes come from the other side of a connection and may speak of any opcode with any value.  What
they do to the attributes of a terminal is said here for all of them: a flag, a control character,
the character size and the speed are what the modes say, if they say anything that the terminal can
hold, and everything else stays.

The line word is written in three steps, the speed first, then two flags and then the character
size.  Each step writes fixed bits under a mask of its own, and the masks are disjoint.  So no step
undoes another one, and what was written once is written again by the same modes.

## Main definitions

* `Terminal.WritesIn` — a change of a word that writes fixed bits in a region of it.
* `Terminal.Modes.flag` — a flag as modes want it.
* `Terminal.Modes.rate?`, `Terminal.Attributes.wantedSize` — the speed and the character size that
  modes want.
* `Terminal.Attributes.Obeys` — what must hold of attributes after modes were applied to them.

## Main results

* `Terminal.WritesIn.twice`, `Terminal.WritesIn.keeps` — writing twice, and what is not written.
* `Terminal.hasFlag_applyFlags`, `Terminal.Attributes.rateOf?_applySpeeds`,
  `Terminal.Attributes.applySize_and_sizeMask` — flags, the speed and the character size.
* `Terminal.Attributes.writesIn_lineWord` — the line word is written in its own region.
* `Terminal.Attributes.modes_obeyed` — what modes that arrive do to attributes.
-/

namespace CommandRelay.Terminal

/-! ## Writing in a word -/

/-- A change of a word that writes fixed bits in a region of it. -/
def WritesIn (region : UInt32) (f : UInt32 → UInt32) : Prop :=
  ∃ mask source, mask &&& region = mask ∧ ∀ word, f word = splice mask source word

/-- A splice into a splice is one splice. -/
lemma splice_comp (mask mask' source source' word : UInt32) :
    splice mask source (splice mask' source' word) =
      splice (mask ||| mask') (splice mask source source') word := by
  refine eq_of_bits fun i hi => ?_
  simp only [getElem_splice, UInt32.toBitVec_or, BitVec.getElem_or]
  cases mask.toBitVec[i] <;> cases mask'.toBitVec[i] <;> simp

namespace WritesIn

variable {region : UInt32} {f g : UInt32 → UInt32}

/-- A word that stays has nothing written to it. -/
lemma id (region : UInt32) : WritesIn region fun word => word :=
  ⟨0, 0, by simp, fun word => (splice_zero 0 word).symm⟩

/-- One change after another. -/
lemma comp {region' : UInt32} (hf : WritesIn region f) (hg : WritesIn region' g) :
    WritesIn (region ||| region') fun word => f (g word) := by
  obtain ⟨mask, source, hmask, hf⟩ := hf
  obtain ⟨mask', source', hmask', hg⟩ := hg
  refine ⟨mask ||| mask', splice mask source source', ?_, fun word => ?_⟩
  · refine eq_of_bits fun i hi => ?_
    have hbit : (mask &&& region).toBitVec[i] = mask.toBitVec[i] := by rw [hmask]
    have hbit' : (mask' &&& region').toBitVec[i] = mask'.toBitVec[i] := by rw [hmask']
    simp only [UInt32.toBitVec_and, UInt32.toBitVec_or, BitVec.getElem_and,
      BitVec.getElem_or] at hbit hbit' ⊢
    revert hbit hbit'
    cases mask.toBitVec[i] <;> cases mask'.toBitVec[i] <;> simp +contextual
  · dsimp only
    rw [hf, hg, splice_comp]

/-- **Writing twice** is writing once. -/
lemma twice (hf : WritesIn region f) (word : UInt32) : f (f word) = f word := by
  obtain ⟨mask, source, -, hf⟩ := hf
  rw [hf, hf, splice_splice, UInt32.or_self]

/-- **What is not written** stays. -/
lemma keeps (hf : WritesIn region f) {field : UInt32} (h : field &&& region = 0) (word : UInt32) :
    f word &&& field = word &&& field := by
  obtain ⟨mask, source, hmask, hf⟩ := hf
  have hout : field &&& mask = 0 := by
    rw [← hmask, UInt32.and_comm mask, ← UInt32.and_assoc, h, UInt32.zero_and]
  rw [hf, splice_outside source word hout]

/-- A word without other bits gets no other bits if the region has none. -/
lemma inside (hf : WritesIn region f) {bits : UInt32} (hregion : region &&& bits = region)
    {word : UInt32} (hword : word &&& bits = word) : f word &&& bits = f word := by
  obtain ⟨mask, source, hmask, hf⟩ := hf
  rw [hf]
  refine eq_of_bits fun i hi => ?_
  have hmask : (mask &&& region).toBitVec[i] = mask.toBitVec[i] := by rw [hmask]
  have hregion : (region &&& bits).toBitVec[i] = region.toBitVec[i] := by rw [hregion]
  have hword : (word &&& bits).toBitVec[i] = word.toBitVec[i] := by rw [hword]
  simp only [UInt32.toBitVec_and, BitVec.getElem_and, getElem_splice] at hmask hregion hword ⊢
  cases hbit : mask.toBitVec[i] with
  | false => simpa using hword
  | true =>
    have hin : region.toBitVec[i] = true := by simpa [hbit] using hmask
    have hbits : bits.toBitVec[i] = true := by simpa [hin] using hregion
    simp [hbits]

end WritesIn

/-! ## Flags -/

/-- Setting a flag is a splice of its mask. -/
lemma setFlag_eq_splice (word mask : UInt32) (on : Bool) :
    setFlag word mask on = splice mask (if on then mask else 0) word := by
  refine eq_of_bits fun i hi => ?_
  rw [getElem_splice]
  cases on <;> cases hbit : mask.toBitVec[i] <;> simp [setFlag, hbit]

/-- A flag is on after it was set just if it was set on. -/
lemma hasFlag_setFlag {mask : UInt32} (h : IsFlag mask) (word : UInt32) (on : Bool) :
    hasFlag (setFlag word mask on) mask = on := by
  have hfield : setFlag word mask on &&& mask = (if on then mask else 0) &&& mask := by
    rw [setFlag_eq_splice, splice_inside _ _ UInt32.and_self]
  have hne : mask ≠ 0 := by
    obtain ⟨i, hi⟩ := h
    rintro rfl
    have hbit := congrArg (·.getLsbD i) hi
    simp at hbit
  cases on with
  | true => simp [hasFlag, hfield]
  | false => simpa [hasFlag, hfield] using hne.symm

/-- A flag that modes speak of is as they say, and another one is as it was. -/
def Modes.flag (m : Modes) (op : Nat) (was : Bool) : Bool :=
  match m.get? op with
  | some v => v != 0
  | none => was

/-- A word with one flag set as modes want it. -/
def applyFlag (e : Nat × UInt32) (m : Modes) (word : UInt32) : UInt32 :=
  match m.get? e.1 with
  | some v => setFlag word e.2 (v != 0)
  | none => word

/-- The flags of a table are applied from the first to the last. -/
lemma applyFlags_cons (e : Nat × UInt32) (table : List (Nat × UInt32)) (m : Modes) :
    applyFlags (e :: table) m = fun word => applyFlags table m (applyFlag e m word) := rfl

/-- One flag of the modes writes its own bit at most. -/
lemma writesIn_applyFlag (e : Nat × UInt32) (m : Modes) : WritesIn e.2 (applyFlag e m) := by
  unfold applyFlag
  cases m.get? e.1 with
  | none => exact .id e.2
  | some v => exact ⟨e.2, _, UInt32.and_self, fun word => setFlag_eq_splice word e.2 (v != 0)⟩

/-- After one flag of the modes that flag is as they say, or else as it was. -/
lemma hasFlag_applyFlag {e : Nat × UInt32} (he : IsFlag e.2) (m : Modes) (word : UInt32) :
    hasFlag (applyFlag e m word) e.2 = m.flag e.1 (hasFlag word e.2) := by
  unfold applyFlag Modes.flag
  cases m.get? e.1 with
  | none => rfl
  | some v => exact hasFlag_setFlag he word (v != 0)

/-- The flags of a table are written and nothing else. -/
lemma writesIn_applyFlags (table : List (Nat × UInt32)) (m : Modes) :
    WritesIn (flagsOf table) (applyFlags table m) := by
  induction table with
  | nil => exact .id 0
  | cons e table ih =>
    rw [applyFlags_cons, flagsOf_cons, UInt32.or_comm]
    exact ih.comp (writesIn_applyFlag e m)

/-- What is apart from every flag of a table is apart from all of them together. -/
lemma and_flagsOf_eq_zero {table : List (Nat × UInt32)} {field : UInt32}
    (h : ∀ e ∈ table, field &&& e.2 = 0) : field &&& flagsOf table = 0 := by
  have hdistrib : ∀ a b c : UInt32, a &&& (b ||| c) = (a &&& b) ||| (a &&& c) :=
    fun a b c => eq_of_bits fun i hi => by cases ha : a.toBitVec[i] <;> simp [ha]
  induction table with
  | nil => simp
  | cons e table ih =>
    have hfirst := h e List.mem_cons_self
    have hrest := ih fun e' he => h e' (List.mem_cons_of_mem e he)
    rw [flagsOf_cons, hdistrib, hfirst, hrest, UInt32.or_self]

/-- **A flag of a table** is as modes want it.

**Proof sketch.** Induction on the table.  The other flags of the table lie elsewhere in the word,
so setting them changes nothing here. -/
lemma hasFlag_applyFlags {table : List (Nat × UInt32)} (hflags : ∀ e ∈ table, IsFlag e.2)
    (hapart : table.Pairwise fun e e' => e.2 &&& e'.2 = 0) {e : Nat × UInt32} (he : e ∈ table)
    (m : Modes) (word : UInt32) :
    hasFlag (applyFlags table m word) e.2 = m.flag e.1 (hasFlag word e.2) := by
  induction table generalizing word with
  | nil => cases he
  | cons first rest ih =>
    obtain ⟨hfirst, hrest⟩ := List.pairwise_cons.1 hapart
    rw [applyFlags_cons]
    dsimp only
    rcases List.mem_cons.1 he with rfl | he
    · have hkeep := (writesIn_applyFlags rest m).keeps (and_flagsOf_eq_zero hfirst)
        (applyFlag e m word)
      rw [hasFlag_congr hkeep, hasFlag_applyFlag (hflags e List.mem_cons_self)]
    · have hkeep := (writesIn_applyFlag first m).keeps
        ((UInt32.and_comm e.2 first.2).trans (hfirst e he)) word
      rw [ih (fun e' he' => hflags e' (List.mem_cons_of_mem _ he')) hrest he, hasFlag_congr hkeep]

/-! ## Control characters -/

/-- Control characters that were set are set again as they are. -/
lemma applyChars_twice {table : List (Nat × Fin 17)} (hnodup : (table.map Prod.snd).Nodup)
    (m : Modes) (row : ControlChars) :
    applyChars table m (applyChars table m row) = applyChars table m row := by
  refine Vector.ext fun i hi => ?_
  show (applyChars table m (applyChars table m row)).get ⟨i, hi⟩ =
    (applyChars table m row).get ⟨i, hi⟩
  by_cases hmem : (⟨i, hi⟩ : Fin 17) ∈ table.map Prod.snd
  · obtain ⟨e, he, heq⟩ := List.mem_map.1 hmem
    rw [← heq]
    refine UInt8.toNat_inj.1 ?_
    rw [toNat_get_applyChars hnodup he, toNat_get_applyChars hnodup he, Modes.char]
    cases hget : m.get? e.1 with
    | none => rw [toNat_get_applyChars hnodup he, Modes.char, hget]
    | some v => rw [Modes.char, hget]
  · rw [get_applyChars_of_notMem hmem]

/-! ## The speed -/

/-- The rates that a terminal can have. -/
def rates : List Nat := speedTable.map Prod.snd

/-- The speed that modes want: the output speed if a terminal can have it, or else the input speed
if a terminal can have it and it is not zero. -/
def Modes.rate? (m : Modes) : Option Nat :=
  ((m.get? Opcode.ospeed).filter fun rate => rate ∈ rates).or
    ((m.get? Opcode.ispeed).filter fun rate => rate ∈ rates ∧ rate ≠ 0)

/-- A rate that a terminal can have has one code, which fits into its field. -/
lemma exists_codeOf?_eq {rate : Nat} (h : rate ∈ rates) :
    ∃ code, codeOf? rate = some code ∧ rateOf? code = some rate ∧ code &&& speedMask = code := by
  obtain ⟨e, he, rfl⟩ := List.mem_map.1 h
  refine ⟨e.1, ?_⟩
  revert e
  decide

/-- Only the rates of the table have a code. -/
lemma codeOf?_eq_none {rate : Nat} (h : rate ∉ rates) : codeOf? rate = none := by
  rw [codeOf?, Option.map_eq_none_iff, List.find?_eq_none]
  rintro e he heq
  exact h (List.mem_map.2 ⟨e, he, beq_iff_eq.1 heq⟩)

namespace Attributes

/-- A rate without a code leaves the word as it was. -/
lemma withSpeed_of_notMem {rate : Nat} (h : rate ∉ rates) (word : UInt32) :
    withSpeed word rate = word := by
  rw [withSpeed, codeOf?_eq_none h]

/-- A rate with a code writes the code in the place of the speed. -/
lemma withSpeed_of_codeOf? {rate : Nat} {code : UInt32} (hcode : codeOf? rate = some code)
    (hfits : code &&& speedMask = code) (word : UInt32) :
    withSpeed word rate = splice speedMask code word := by
  rw [withSpeed, hcode, splice, hfits, UInt32.or_comm]

/-- A rate writes only where the speed stands. -/
lemma writesIn_withSpeed (rate : Nat) : WritesIn speedMask (withSpeed · rate) := by
  by_cases h : rate ∈ rates
  · obtain ⟨code, hcode, -, hfits⟩ := exists_codeOf?_eq h
    exact ⟨speedMask, code, UInt32.and_self, withSpeed_of_codeOf? hcode hfits⟩
  · simpa [withSpeed_of_notMem h] using WritesIn.id speedMask

/-- So does a rate of the input. -/
lemma writesIn_withInputSpeed (rate : Nat) : WritesIn speedMask (withInputSpeed · rate) := by
  unfold withInputSpeed
  split_ifs with h
  · exact .id speedMask
  · exact writesIn_withSpeed rate

/-- The speed is written in its field and nowhere else. -/
lemma writesIn_applySpeeds (m : Modes) : WritesIn speedMask (applySpeeds m) := by
  have hinput : WritesIn speedMask fun word => match m.get? Opcode.ispeed with
      | some rate => withInputSpeed word rate
      | none => word := by
    cases m.get? Opcode.ispeed with
    | none => exact .id speedMask
    | some rate => exact writesIn_withInputSpeed rate
  have houtput : WritesIn speedMask fun word => match m.get? Opcode.ospeed with
      | some rate => withSpeed word rate
      | none => word := by
    cases m.get? Opcode.ospeed with
    | none => exact .id speedMask
    | some rate => exact writesIn_withSpeed rate
  have hboth := houtput.comp hinput
  rwa [UInt32.or_self] at hboth

/-- The rate of a line whose speed was just set. -/
lemma rateOf?_withSpeed {rate : Nat} (h : rate ∈ rates) (word : UInt32) :
    rateOf? (withSpeed word rate &&& speedMask) = some rate := by
  obtain ⟨code, hcode, hrate, hfits⟩ := exists_codeOf?_eq h
  rw [withSpeed_of_codeOf? hcode hfits, splice_inside _ _ UInt32.and_self, hfits, hrate]

/-- **The speed** is the one that modes want. -/
lemma rateOf?_applySpeeds {m : Modes} {rate : Nat} (h : m.rate? = some rate) (word : UInt32) :
    rateOf? (applySpeeds m word &&& speedMask) = some rate := by
  rw [Modes.rate?, Option.or_eq_some_iff, Option.filter_eq_some_iff, Option.filter_eq_none_iff,
    Option.filter_eq_some_iff] at h
  rcases h with ⟨hget, hmem⟩ | ⟨hnone, hget, hmem⟩
  · rw [applySpeeds, hget]
    exact rateOf?_withSpeed (by simpa using hmem) _
  · obtain ⟨hrate, hzero⟩ : rate ∈ rates ∧ rate ≠ 0 := by simpa using hmem
    have hinput : applySpeeds m word = withSpeed word rate := by
      simp only [applySpeeds, hget, withInputSpeed, if_neg hzero]
      cases hout : m.get? Opcode.ospeed with
      | none => rfl
      | some other => exact withSpeed_of_notMem (by simpa using hnone other hout) _
    rw [hinput]
    exact rateOf?_withSpeed hrate word

/-- Modes that want no speed leave it alone. -/
lemma applySpeeds_of_none {m : Modes} (h : m.rate? = none) (word : UInt32) :
    applySpeeds m word = word := by
  rw [Modes.rate?, Option.or_eq_none_iff, Option.filter_eq_none_iff,
    Option.filter_eq_none_iff] at h
  obtain ⟨houtput, hinput⟩ := h
  have hfirst : ∀ rate, m.get? Opcode.ispeed = some rate → withInputSpeed word rate = word := by
    intro rate hget
    rw [withInputSpeed]
    split_ifs with hzero
    · rfl
    · exact withSpeed_of_notMem (fun hmem => by simpa [hmem, hzero] using hinput rate hget) word
  have hsecond : ∀ rate, m.get? Opcode.ospeed = some rate → withSpeed word rate = word :=
    fun rate hget => withSpeed_of_notMem (by simpa using houtput rate hget) word
  rw [applySpeeds]
  cases hin : m.get? Opcode.ispeed with
  | none =>
    cases hout : m.get? Opcode.ospeed with
    | none => rfl
    | some rate => exact hsecond rate hout
  | some rate =>
    simp only [hfirst rate hin]
    cases hout : m.get? Opcode.ospeed with
    | none => rfl
    | some rate => exact hsecond rate hout

/-! ## The character size -/

/-- The character size is written in its field and nowhere else. -/
lemma writesIn_applySize (m : Modes) : WritesIn sizeMask (applySize m) := by
  have hsize : ∀ size ∈ requestedSize? m, size &&& sizeMask = size := by
    intro size hsize
    rw [requestedSize?] at hsize
    split_ifs at hsize <;> cases hsize <;> decide
  unfold applySize
  cases h : requestedSize? m with
  | none => exact .id sizeMask
  | some size =>
    refine ⟨sizeMask, size, UInt32.and_self, fun word => ?_⟩
    rw [splice, hsize size h, UInt32.or_comm]

/-- The character size that modes want: eight bits go before seven. -/
def wantedSize (m : Modes) (was : UInt32) : UInt32 :=
  if m.flag Opcode.cs8 false then size8
  else if m.flag Opcode.cs7 false then size7
  else was

/-- **The character size** is the one that modes want. -/
lemma applySize_and_sizeMask (m : Modes) (word : UInt32) :
    applySize m word &&& sizeMask = wantedSize m (word &&& sizeMask) := by
  have hon : ∀ op, (m.get? op).any (· != 0) = m.flag op false := by
    intro op
    rw [Modes.flag]
    cases m.get? op <;> rfl
  have hwritten : ∀ size, size &&& sizeMask = size →
      (word &&& ~~~sizeMask ||| size) &&& sizeMask = size := by
    intro size hfits
    have hsplice : word &&& ~~~sizeMask ||| size = splice sizeMask size word := by
      rw [splice, hfits, UInt32.or_comm]
    rw [hsplice, splice_inside _ _ UInt32.and_self, hfits]
  rw [applySize, requestedSize?, wantedSize, hon, hon]
  split_ifs
  · exact hwritten size8 (by decide)
  · exact hwritten size7 (by decide)
  · rfl

/-! ## The line word -/

/-- The line word after modes: the speed, the two flags and the character size are written. -/
def lineWord (m : Modes) (word : UInt32) : UInt32 :=
  applySize m (applyFlags controlFlagTable m (applySpeeds m word))

/-- The bits of the line word that modes can write. -/
def lineRegion : UInt32 := flagsOf controlFlagTable ||| sizeMask ||| speedMask

/-- The changes of the line word keep to its own region. -/
lemma writesIn_lineWord (m : Modes) : WritesIn lineRegion (lineWord m) := by
  have hregion : sizeMask ||| (flagsOf controlFlagTable ||| speedMask) = lineRegion := by decide
  rw [← hregion]
  exact (writesIn_applySize m).comp
    ((writesIn_applyFlags controlFlagTable m).comp (writesIn_applySpeeds m))

/-- Setting the size leaves what is outside its field. -/
lemma lineWord_and_of_size {m : Modes} {field : UInt32} (h : field &&& sizeMask = 0)
    (word : UInt32) :
    lineWord m word &&& field =
      applyFlags controlFlagTable m (applySpeeds m word) &&& field :=
  (writesIn_applySize m).keeps h _

/-- **The speed** of the line word: the flags and the size are set after it, elsewhere. -/
lemma lineWord_and_speedMask (m : Modes) (word : UInt32) :
    lineWord m word &&& speedMask = applySpeeds m word &&& speedMask := by
  rw [lineWord_and_of_size (by decide),
    (writesIn_applyFlags controlFlagTable m).keeps (by decide)]

/-- **The flags** of the line word: the speed is set before them and the size after them,
elsewhere. -/
lemma hasFlag_lineWord {e : Nat × UInt32} (he : e ∈ controlFlagTable) (m : Modes)
    (word : UInt32) : hasFlag (lineWord m word) e.2 = m.flag e.1 (hasFlag word e.2) := by
  have hsize : e.2 &&& sizeMask = 0 := by revert e; decide
  have hspeed : e.2 &&& speedMask = 0 := by revert e; decide
  rw [hasFlag_congr (lineWord_and_of_size hsize word),
    hasFlag_applyFlags (by decide) (by decide) he,
    hasFlag_congr ((writesIn_applySpeeds m).keeps hspeed word)]

/-- **The size** of the line word: the speed and the flags are set before it, elsewhere. -/
lemma lineWord_and_sizeMask (m : Modes) (word : UInt32) :
    lineWord m word &&& sizeMask = wantedSize m (word &&& sizeMask) := by
  rw [lineWord, applySize_and_sizeMask, (writesIn_applyFlags controlFlagTable m).keeps (by decide),
    (writesIn_applySpeeds m).keeps (by decide)]

/-! ## Modes that say the same -/

/-- The opcodes of a table alone decide what it does to a word. -/
lemma applyFlags_congr {table : List (Nat × UInt32)} {m m' : Modes}
    (h : ∀ e ∈ table, m'.get? e.1 = m.get? e.1) (word : UInt32) :
    applyFlags table m' word = applyFlags table m word :=
  List.foldl_ext _ _ _ fun _ e he => by rw [h e he]

/-- The opcodes of a table alone decide what it does to the control characters. -/
lemma applyChars_congr {table : List (Nat × Fin 17)} {m m' : Modes}
    (h : ∀ e ∈ table, m'.get? e.1 = m.get? e.1) (row : ControlChars) :
    applyChars table m' row = applyChars table m row :=
  List.foldl_ext _ _ _ fun _ e he => by rw [h e he]

/-- **Opcodes that no table has** have no effect. -/
lemma applyModes_congr {m m' : Modes} (h : ∀ op ∈ opcodes, m'.get? op = m.get? op)
    (a : Attributes) : a.applyModes m' = a.applyModes m := by
  have hchars : ∀ e ∈ controlCharTable, e.1 ∈ opcodes := by decide
  have hinput : ∀ e ∈ inputFlagTable, e.1 ∈ opcodes := by decide
  have hlocal : ∀ e ∈ localFlagTable, e.1 ∈ opcodes := by decide
  have houtput : ∀ e ∈ outputFlagTable, e.1 ∈ opcodes := by decide
  have hcontrol : ∀ e ∈ controlFlagTable, e.1 ∈ opcodes := by decide
  have hspeeds : ∀ word, applySpeeds m' word = applySpeeds m word := fun word => by
    rw [applySpeeds, applySpeeds, h Opcode.ispeed (by decide), h Opcode.ospeed (by decide)]
  have hsize : ∀ word, applySize m' word = applySize m word := fun word => by
    rw [applySize, applySize, requestedSize?, requestedSize?, h Opcode.cs7 (by decide),
      h Opcode.cs8 (by decide)]
  simp only [applyModes, hspeeds, hsize,
    applyFlags_congr fun e he => h e.1 (hinput e he),
    applyFlags_congr fun e he => h e.1 (hlocal e he),
    applyFlags_congr fun e he => h e.1 (houtput e he),
    applyFlags_congr fun e he => h e.1 (hcontrol e he),
    applyChars_congr fun e he => h e.1 (hchars e he)]

/-! ## What modes do -/

/-- What holds of attributes `a'` that were `a` before modes were applied to them. -/
structure Obeys (m : Modes) (a a' : Attributes) : Prop where
  /-- Flags and control characters are as the modes say, or else as they were. -/
  input : ∀ e ∈ inputFlagTable, hasFlag a'.iflag e.2 = m.flag e.1 (hasFlag a.iflag e.2)
  local_ : ∀ e ∈ localFlagTable, hasFlag a'.lflag e.2 = m.flag e.1 (hasFlag a.lflag e.2)
  output : ∀ e ∈ outputFlagTable, hasFlag a'.oflag e.2 = m.flag e.1 (hasFlag a.oflag e.2)
  control : ∀ e ∈ controlFlagTable, hasFlag a'.cflag e.2 = m.flag e.1 (hasFlag a.cflag e.2)
  chars : ∀ e ∈ controlCharTable, (a'.chars.get e.2).toNat = m.char e.1 (a.chars.get e.2)
  /-- So are the character size and the speed. -/
  size : a'.cflag &&& sizeMask = wantedSize m (a.cflag &&& sizeMask)
  speed : ∀ rate, m.rate? = some rate → a'.speed? = some rate
  sameSpeed : m.rate? = none → a'.cflag &&& speedMask = a.cflag &&& speedMask
  /-- Everything else stays. -/
  otherInput : a'.iflag &&& ~~~flagsOf inputFlagTable = a.iflag &&& ~~~flagsOf inputFlagTable
  otherLocal : a'.lflag &&& ~~~flagsOf localFlagTable = a.lflag &&& ~~~flagsOf localFlagTable
  otherOutput : a'.oflag &&& ~~~flagsOf outputFlagTable = a.oflag &&& ~~~flagsOf outputFlagTable
  otherControl : a'.cflag &&& ~~~lineRegion = a.cflag &&& ~~~lineRegion
  otherChars : ∀ i ∉ controlCharTable.map Prod.snd, a'.chars.get i = a.chars.get i

/-- Modes are obeyed where they are applied, and nothing else changes. -/
lemma obeys_applyModes (m : Modes) (a : Attributes) : Obeys m a (a.applyModes m) where
  input := fun e he => hasFlag_applyFlags (by decide) (by decide) he m a.iflag
  local_ := fun e he => hasFlag_applyFlags (by decide) (by decide) he m a.lflag
  output := fun e he => hasFlag_applyFlags (by decide) (by decide) he m a.oflag
  control := fun e he => hasFlag_lineWord he m a.cflag
  chars := fun e he => toNat_get_applyChars (by decide) he m a.chars
  size := lineWord_and_sizeMask m a.cflag
  speed := fun rate h => by
    show rateOf? (lineWord m a.cflag &&& speedMask) = some rate
    rw [lineWord_and_speedMask, rateOf?_applySpeeds h]
  sameSpeed := fun h => by
    show lineWord m a.cflag &&& speedMask = a.cflag &&& speedMask
    rw [lineWord_and_speedMask, applySpeeds_of_none h]
  otherInput := (writesIn_applyFlags inputFlagTable m).keeps (by decide) a.iflag
  otherLocal := (writesIn_applyFlags localFlagTable m).keeps (by decide) a.lflag
  otherOutput := (writesIn_applyFlags outputFlagTable m).keeps (by decide) a.oflag
  otherControl := (writesIn_lineWord m).keeps (by decide) a.cflag
  otherChars := fun i hi => get_applyChars_of_notMem hi m a.chars

/-- **Modes that were applied** are applied again without effect. -/
lemma applyModes_twice (m : Modes) (a : Attributes) :
    (a.applyModes m).applyModes m = a.applyModes m := by
  have hinput := (writesIn_applyFlags inputFlagTable m).twice a.iflag
  have houtput := (writesIn_applyFlags outputFlagTable m).twice a.oflag
  have hlocal := (writesIn_applyFlags localFlagTable m).twice a.lflag
  have hline := (writesIn_lineWord m).twice a.cflag
  have hplaces : (controlCharTable.map Prod.snd).Nodup := by decide
  have hchars := applyChars_twice hplaces m a.chars
  rw [lineWord, lineWord] at hline
  simp only [applyModes, hinput, houtput, hlocal, hline, hchars]

/-- Modes make no bits that are not modelled. -/
lemma modelled_applyModes (m : Modes) {a : Attributes} (h : a.modelled = a) :
    (a.applyModes m).modelled = a.applyModes m := by
  have hinput : applyFlags inputFlagTable m a.iflag &&& inputMask = _ :=
    (writesIn_applyFlags inputFlagTable m).inside (by decide) (congrArg iflag h)
  have houtput : applyFlags outputFlagTable m a.oflag &&& outputMask = _ :=
    (writesIn_applyFlags outputFlagTable m).inside (by decide) (congrArg oflag h)
  have hlocal : applyFlags localFlagTable m a.lflag &&& localMask = _ :=
    (writesIn_applyFlags localFlagTable m).inside (by decide) (congrArg lflag h)
  have hline : lineWord m a.cflag &&& controlMask = _ :=
    (writesIn_lineWord m).inside (by decide) (congrArg cflag h)
  rw [lineWord] at hline
  simp only [modelled, applyModes, hinput, houtput, hlocal, hline]

/-- **Modes are obeyed**, whatever opcodes and values they hold: each flag, each control character,
the character size and the speed is what the modes say if they say something that the terminal can
hold, all else stays, and the same modes change nothing more.  Opcodes of nothing that crosses have
no effect.

**Proof sketch.** The speed, the flags and the size are written under disjoint masks, so each is
read back as it was written and the whole word is one write.  A write repeated is the same
write. -/
theorem modes_obeyed (m : Modes) (a : Attributes) :
    let a' := a.applyModes m
    Obeys m a a' ∧ a'.applyModes m = a' ∧ (a.modelled = a → a'.modelled = a') ∧
      ∀ m' : Modes, (∀ op ∈ opcodes, m'.get? op = m.get? op) → a.applyModes m' = a' :=
  ⟨obeys_applyModes m a, applyModes_twice m a, modelled_applyModes m,
    fun _ h => applyModes_congr h a⟩

/-- A new terminal gets a control character that is too large, both character sizes, an output
speed that no terminal can have and an opcode that nothing has. -/
theorem modes_obeyed_mixed :
    let m := Modes.ofPairs [(Opcode.vintr, 300), (Opcode.icanon, 0), (Opcode.cs7, 1),
      (Opcode.cs8, 2), (Opcode.ispeed, 9600), (Opcode.ospeed, 9601)]
    let m' := m.set 200 5
    let a := Pty.freshAttributes
    let a' := a.applyModes m
    (a.modelled = a ∧ ∀ op ∈ opcodes, m'.get? op = m.get? op) ∧
      (Obeys m a a' ∧ a'.applyModes m = a' ∧ a'.modelled = a' ∧ a.applyModes m' = a') ∧
      a'.chars.get 0 = 44 ∧ hasFlag a.lflag 0x2 ∧ ¬ hasFlag a'.lflag 0x2 ∧
      a'.cflag &&& sizeMask = size8 ∧ a.speed? = some 38400 ∧ a'.speed? = some 9600 := by
  intro m m' a a'
  have hmodelled : a.modelled = a := by decide
  have hsame : ∀ op ∈ opcodes, m'.get? op = m.get? op := by decide
  obtain ⟨hobeys, htwice, hkept, hothers⟩ := modes_obeyed m a
  exact ⟨⟨hmodelled, hsame⟩, ⟨hobeys, htwice, hkept hmodelled, hothers m' hsame⟩, by decide⟩

end Attributes

end CommandRelay.Terminal
