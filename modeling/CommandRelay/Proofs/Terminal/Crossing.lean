import CommandRelay.Proofs.Terminal.Words
import Mathlib.Data.List.TakeWhile

/-!
# Terminal modes cross without loss

The attributes of one terminal become modes, the modes pairs of opcodes and values, and the pairs
modes again, which are applied to the attributes of another terminal.  What has an opcode arrives
as it was, and everything else of the other terminal stays.

The line word is the one that needs care: two flags, the field of the character size and the field
of the speed share it, and each of them is written at its own time.  The fields are disjoint, so
all of it together is one splice, and the bits of `lineMask` say which of them cross.

## Main definitions

* `Terminal.opcodes` — the opcodes of all that can cross.
* `Terminal.Modes.char` — a control character as modes want it.
* `Terminal.Attributes.flagWords` — the tables of flags with their words.
* `Terminal.Attributes.lineMask` — the bits of the line word that cross.
* `Terminal.Attributes.Crossed` — what must hold of attributes after another terminal's modes were
  applied to them.

## Main results

* `Terminal.toNat_get_applyChars` — a control character afterwards.
* `Terminal.Attributes.get?_toModes_flag`, `get?_toModes_char`, … — what the modes answer.
* `Terminal.Attributes.applyFlags_toModes` — the flags of a word afterwards.
* `Terminal.Attributes.ofPairs_carriedBy` — a transport that knows the opcodes changes no modes.
* `Terminal.Attributes.cflag_applyModes` — the line word afterwards.
* `Terminal.Attributes.modes_cross` — terminal modes cross without loss.
-/

namespace CommandRelay.Terminal

/-- The opcodes of what always crosses. -/
def fixedOpcodes : List Nat :=
  controlCharTable.map Prod.fst ++ inputFlagTable.map Prod.fst ++ localFlagTable.map Prod.fst ++
    outputFlagTable.map Prod.fst ++ controlFlagTable.map Prod.fst ++ [Opcode.cs7, Opcode.cs8]

/-- The opcodes of all that can cross. -/
def opcodes : List Nat := fixedOpcodes ++ [Opcode.ispeed, Opcode.ospeed]

/-! ## Speeds -/

/-- The code of a rate that was found for a code is that code. -/
lemma codeOf?_eq {code : UInt32} {rate : Nat} (h : rateOf? code = some rate) :
    codeOf? rate = some code := by
  obtain ⟨e, hfind, rfl⟩ := Option.map_eq_some_iff.1 h
  have hcode : e.1 = code := by simpa using List.find?_some hfind
  have hinverse : ∀ e ∈ speedTable, codeOf? e.2 = some e.1 := by decide
  rw [hinverse e (List.mem_of_find?_eq_some hfind), hcode]

/-! ## Control characters -/

/-- A control character that modes speak of is the value modulo 256, and another one is as it
was. -/
def Modes.char (m : Modes) (op : Nat) (was : UInt8) : Nat :=
  match m.get? op with
  | some v => v % 256
  | none => was.toNat

/-- A place that no entry of a table has keeps its control character. -/
lemma get_applyChars_of_notMem {table : List (Nat × Fin 17)} {i : Fin 17}
    (hi : i ∉ table.map Prod.snd) (m : Modes) (row : ControlChars) :
    (applyChars table m row).get i = row.get i := by
  induction table generalizing row with
  | nil => rfl
  | cons e table ih =>
    rw [List.map_cons, List.mem_cons, not_or] at hi
    have hne : (e.2 : Nat) ≠ i := fun heq => hi.1 (Fin.ext heq.symm)
    cases hget : m.get? e.1 with
    | none =>
      have hfirst : applyChars (e :: table) m row = applyChars table m row := by
        simp [applyChars, hget]
      rw [hfirst, ih hi.2]
    | some v =>
      have hfirst : applyChars (e :: table) m row =
          applyChars table m (row.set e.2 (UInt8.ofNat v)) := by
        simp [applyChars, hget]
      have hset : (row.set e.2 (UInt8.ofNat v)).get i = row.get i := Vector.getElem_set_ne _ _ hne
      rw [hfirst, ih hi.2, hset]

/-- **A control character of a table** is as modes want it, if no other entry has its place. -/
lemma toNat_get_applyChars {table : List (Nat × Fin 17)} (hnodup : (table.map Prod.snd).Nodup)
    {e : Nat × Fin 17} (he : e ∈ table) (m : Modes) (row : ControlChars) :
    ((applyChars table m row).get e.2).toNat = m.char e.1 (row.get e.2) := by
  induction table generalizing row with
  | nil => cases he
  | cons first rest ih =>
    obtain ⟨hfirst, hrest⟩ := List.nodup_cons.1 hnodup
    have hstep : applyChars (first :: rest) m row =
        applyChars rest m (applyChars [first] m row) := rfl
    rw [hstep]
    rcases List.mem_cons.1 he with rfl | he
    · rw [get_applyChars_of_notMem hfirst]
      cases hget : m.get? e.1 with
      | none => simp [applyChars, Modes.char, hget]
      | some v =>
        have hset : (row.set e.2 (UInt8.ofNat v)).get e.2 = UInt8.ofNat v :=
          Vector.getElem_set_self _
        simp [applyChars, Modes.char, hget, hset]
    · have hother : e.2 ∉ [first].map Prod.snd := by
        rw [List.map_singleton, List.mem_singleton]
        rintro heq
        exact hfirst (heq ▸ List.mem_map_of_mem he)
      rw [ih hrest he, get_applyChars_of_notMem hother]

namespace Attributes

/-! ## What crosses -/

variable (a : Attributes)

/-- The opcodes of what crosses: those of the speeds are there if the line's code has a rate. -/
lemma keys_pairs : a.pairs.map Prod.fst =
    fixedOpcodes ++ if a.speed?.isSome then [Opcode.ispeed, Opcode.ospeed] else [] := by
  cases h : a.speed? <;> simp [pairs, h, flagPairs, fixedOpcodes, Function.comp_def]

/-- No opcode is used twice. -/
lemma nodup_keys_pairs : (a.pairs.map Prod.fst).Nodup := by
  rw [keys_pairs]
  split_ifs <;> decide

/-- Whatever crosses has one of the opcodes. -/
lemma fst_mem_opcodes {p : Nat × Nat} (hp : p ∈ a.pairs) : p.1 ∈ opcodes := by
  have hkey : p.1 ∈ a.pairs.map Prod.fst := List.mem_map_of_mem hp
  rw [keys_pairs] at hkey
  split_ifs at hkey with h
  · exact hkey
  · exact List.mem_append_left _ (by simpa using hkey)

/-- **A transport that knows the opcodes** changes no modes. -/
lemma ofPairs_carriedBy {named : Nat → Bool} (hnamed : ∀ op ∈ opcodes, named op = true) :
    Modes.ofPairs (Modes.carriedBy named a.toModes.toPairs) = a.toModes := by
  have hop : ∀ p ∈ a.toModes.toPairs, p.1 ∈ opcodes := by
    intro p hp
    rw [Modes.toPairs, toModes] at hp
    dsimp only at hp
    exact a.fst_mem_opcodes (Dictionary.mem_of_mem_entries_ofList hp)
  have hend : ∀ op ∈ opcodes, op ≠ Opcode.endOfList := by decide
  have hall : Modes.carriedBy named a.toModes.toPairs = a.toModes.toPairs :=
    List.filter_eq_self.2 fun p hp => by simp [hnamed _ (hop p hp), hend _ (hop p hp)]
  have hbefore : Modes.beforeEnd a.toModes.toPairs = a.toModes.toPairs :=
    List.takeWhile_eq_self_iff.2 fun p hp => by simp [hend _ (hop p hp)]
  rw [hall, Modes.ofPairs, hbefore, Modes.toPairs, Dictionary.ofList_entries]

/-! ## What the modes answer -/

/-- The modes answer for an opcode with the value that was collected for it. -/
lemma get?_toModes {p : Nat × Nat} (hp : p ∈ a.pairs) : a.toModes.get? p.1 = some p.2 := by
  rw [Modes.get?, toModes, Dictionary.get?_ofList_of_mem a.nodup_keys_pairs hp]

/-- They answer for a control character with its byte. -/
lemma get?_toModes_char {e : Nat × Fin 17} (he : e ∈ controlCharTable) :
    a.toModes.get? e.1 = some (a.chars.get e.2).toNat := by
  have hmem : (e.1, (a.chars.get e.2).toNat) ∈ controlCharTable.map
      (fun e => (e.1, (a.chars.get e.2).toNat)) := List.mem_map.2 ⟨e, he, rfl⟩
  exact a.get?_toModes (p := (e.1, (a.chars.get e.2).toNat)) (by
    simp only [pairs, List.mem_append]
    exact .inl (.inl (.inl (.inl (.inl (.inl (.inl hmem)))))))

/-- The tables of flags with the words that they are about. -/
def flagWords (a : Attributes) : List (List (Nat × UInt32) × UInt32) :=
  [(inputFlagTable, a.iflag), (localFlagTable, a.lflag), (outputFlagTable, a.oflag),
    (controlFlagTable, a.cflag)]

/-- The flags of each of the four words are collected. -/
lemma flagPairs_subset {table : List (Nat × UInt32)} {word : UInt32}
    (h : (table, word) ∈ a.flagWords) : flagPairs table word ⊆ a.pairs := by
  intro p hp
  simp only [flagWords, List.mem_cons, List.not_mem_nil, or_false, Prod.mk.injEq] at h
  rcases h with ⟨rfl, rfl⟩ | ⟨rfl, rfl⟩ | ⟨rfl, rfl⟩ | ⟨rfl, rfl⟩ <;>
    simp only [pairs, List.mem_append, hp, true_or, or_true]

/-- The modes answer for a flag with 1 if it is on and with 0 if it is off. -/
lemma get?_toModes_flag {table : List (Nat × UInt32)} {word : UInt32}
    (h : (table, word) ∈ a.flagWords) {e : Nat × UInt32} (he : e ∈ table) :
    a.toModes.get? e.1 = some (hasFlag word e.2).toNat :=
  a.get?_toModes (a.flagPairs_subset h (List.mem_map.2 ⟨e, he, rfl⟩))

/-- The modes answer for a character size with 1 if it is the one that is set. -/
lemma get?_toModes_size {op : Nat} {size : UInt32}
    (h : (op, size) ∈ [(Opcode.cs7, size7), (Opcode.cs8, size8)]) :
    a.toModes.get? op = some (a.cflag &&& sizeMask == size).toNat := by
  refine a.get?_toModes (p := (op, (a.cflag &&& sizeMask == size).toNat)) ?_
  simp only [List.mem_cons, List.not_mem_nil, or_false, Prod.mk.injEq] at h
  rcases h with ⟨rfl, rfl⟩ | ⟨rfl, rfl⟩ <;>
    simp only [pairs, List.mem_append, List.mem_cons, true_or, or_true]

/-- The modes answer for both speeds with the rate, if it has an opcode. -/
lemma get?_toModes_speed {op : Nat} (hop : op ∈ [Opcode.ispeed, Opcode.ospeed]) :
    a.toModes.get? op = a.speed? := by
  cases h : a.speed? with
  | none =>
    have hkey : op ∉ a.pairs.map Prod.fst := by
      rw [keys_pairs, h]
      revert op
      decide
    rw [Modes.get?, toModes, Dictionary.get?_ofList_eq_none hkey]
  | some rate =>
    refine a.get?_toModes (p := (op, rate)) ?_
    rcases List.mem_cons.1 hop with rfl | hop
    · simp only [pairs, h, Option.map_some, Option.toList_some, List.mem_append,
        List.mem_singleton, true_or, or_true]
    · rw [List.mem_singleton.1 hop]
      simp only [pairs, h, Option.map_some, Option.toList_some, List.mem_append,
        List.mem_singleton, or_true]

/-! ## The words of flags -/

/-- **The flags** of a word are taken from there. -/
lemma applyFlags_toModes {table : List (Nat × UInt32)} {word : UInt32}
    (h : (table, word) ∈ a.flagWords) (w : UInt32) :
    applyFlags table a.toModes w = splice (flagsOf table) word w := by
  have hflags : ∀ e ∈ table, IsFlag e.2 := by
    simp only [flagWords, List.mem_cons, List.not_mem_nil, or_false, Prod.mk.injEq] at h
    rcases h with ⟨rfl, -⟩ | ⟨rfl, -⟩ | ⟨rfl, -⟩ | ⟨rfl, -⟩ <;> decide
  exact applyFlags_eq_splice hflags (fun e he => a.get?_toModes_flag h he) w

/-! ## The line word -/

/-- Whether the character size is one that has an opcode. -/
def Sized (a : Attributes) : Prop :=
  a.cflag &&& sizeMask = size7 ∨ a.cflag &&& sizeMask = size8

/-- The character size is compared with two constants. -/
instance : Decidable a.Sized :=
  inferInstanceAs (Decidable (_ ∨ _))

/-- The bits of the line word that cross. -/
def lineMask (a : Attributes) : UInt32 :=
  (if a.Sized then sizeMask else 0) ||| flagsOf controlFlagTable |||
    (if a.speed?.isSome then speedMask else 0)

/-- The two flags, the size and the speed lie apart from each other in the line word. -/
lemma and_lineMask {e : Nat × UInt32} (he : e ∈ controlFlagTable) : e.2 &&& a.lineMask = e.2 := by
  rw [lineMask]
  split_ifs <;> revert e <;> decide

/-- All bits of the character size cross, or none does. -/
lemma sizeMask_and_lineMask : sizeMask &&& a.lineMask = if a.Sized then sizeMask else 0 := by
  rw [lineMask]
  split_ifs <;> decide

/-- All bits of the speed cross, or none does. -/
lemma speedMask_and_lineMask :
    speedMask &&& a.lineMask = if a.speed?.isSome then speedMask else 0 := by
  rw [lineMask]
  split_ifs <;> decide

/-- Nothing else of the line word crosses. -/
lemma other_and_lineMask :
    ~~~(flagsOf controlFlagTable ||| sizeMask ||| speedMask) &&& a.lineMask = 0 := by
  rw [lineMask]
  split_ifs <;> decide

/-- A rate sets the code that it was found for. -/
lemma withSpeed_eq_splice {rate : Nat} (h : a.speed? = some rate) (word : UInt32) :
    withSpeed word rate = splice speedMask a.cflag word := by
  rw [withSpeed, codeOf?_eq h, splice, UInt32.or_comm]

/-- **The speed** is taken if it has a rate, whichever direction is set first. -/
lemma applySpeeds_eq_splice (word : UInt32) :
    applySpeeds a.toModes word =
      splice (if a.speed?.isSome then speedMask else 0) a.cflag word := by
  rw [applySpeeds, a.get?_toModes_speed (by decide), a.get?_toModes_speed (by decide)]
  cases h : a.speed? with
  | none => simp
  | some rate =>
    simp only [withInputSpeed, a.withSpeed_eq_splice h, Option.isSome_some, if_true]
    split_ifs
    · rfl
    · rw [splice_splice, UInt32.or_self]

/-- **The character size** is taken if it has an opcode. -/
lemma applySize_eq_splice (word : UInt32) :
    applySize a.toModes word = splice (if a.Sized then sizeMask else 0) a.cflag word := by
  have hrequest : requestedSize? a.toModes =
      if a.cflag &&& sizeMask = size8 then some size8
      else if a.cflag &&& sizeMask = size7 then some size7 else none := by
    have hcs7 : a.toModes.get? Opcode.cs7 = some (a.cflag &&& sizeMask == size7).toNat :=
      a.get?_toModes_size (by simp)
    have hcs8 : a.toModes.get? Opcode.cs8 = some (a.cflag &&& sizeMask == size8).toNat :=
      a.get?_toModes_size (by simp)
    rw [requestedSize?, hcs7, hcs8]
    by_cases h8 : a.cflag &&& sizeMask = size8 <;> by_cases h7 : a.cflag &&& sizeMask = size7 <;>
      simp [h8, h7]
  rw [applySize, hrequest]
  by_cases h8 : a.cflag &&& sizeMask = size8
  · rw [if_pos h8, if_pos (.inr h8), splice, h8, UInt32.or_comm]
  · by_cases h7 : a.cflag &&& sizeMask = size7
    · rw [if_neg h8, if_pos h7, if_pos (.inl h7), splice, h7, UInt32.or_comm]
    · have hsized : ¬ a.Sized := not_or_intro h7 h8
      rw [if_neg h8, if_neg h7, if_neg hsized, splice_zero]

/-- The line word afterwards: the bits of the mask are taken. -/
lemma cflag_applyModes (d : Attributes) :
    (d.applyModes a.toModes).cflag = splice a.lineMask a.cflag d.cflag := by
  have hcontrol : (controlFlagTable, a.cflag) ∈ a.flagWords := by simp [flagWords]
  rw [applyModes, applySpeeds_eq_splice, a.applyFlags_toModes hcontrol, applySize_eq_splice,
    splice_splice, splice_splice, lineMask, UInt32.or_assoc]

/-! ## What arrives -/

/-- What holds of attributes `d'` that were `d` before the modes of `s` were applied to them. -/
structure Crossed (s d d' : Attributes) : Prop where
  /-- Flags and control characters with an opcode arrive as they were. -/
  input : ∀ e ∈ inputFlagTable, hasFlag d'.iflag e.2 = hasFlag s.iflag e.2
  local_ : ∀ e ∈ localFlagTable, hasFlag d'.lflag e.2 = hasFlag s.lflag e.2
  output : ∀ e ∈ outputFlagTable, hasFlag d'.oflag e.2 = hasFlag s.oflag e.2
  control : ∀ e ∈ controlFlagTable, hasFlag d'.cflag e.2 = hasFlag s.cflag e.2
  chars : ∀ e ∈ controlCharTable, d'.chars.get e.2 = s.chars.get e.2
  /-- The character size arrives if it has an opcode, the speed if it has a rate. -/
  size : d'.cflag &&& sizeMask = (if s.Sized then s else d).cflag &&& sizeMask
  speed : d'.cflag &&& speedMask = (if s.speed?.isSome then s else d).cflag &&& speedMask
  /-- Everything else stays. -/
  otherInput : d'.iflag &&& ~~~flagsOf inputFlagTable = d.iflag &&& ~~~flagsOf inputFlagTable
  otherLocal : d'.lflag &&& ~~~flagsOf localFlagTable = d.lflag &&& ~~~flagsOf localFlagTable
  otherOutput : d'.oflag &&& ~~~flagsOf outputFlagTable = d.oflag &&& ~~~flagsOf outputFlagTable
  otherControl : d'.cflag &&& ~~~(flagsOf controlFlagTable ||| sizeMask ||| speedMask) =
    d.cflag &&& ~~~(flagsOf controlFlagTable ||| sizeMask ||| speedMask)
  otherChars : ∀ i ∉ controlCharTable.map Prod.snd, d'.chars.get i = d.chars.get i

/-- Nothing is lost on the way if the size has an opcode and the speed has a rate: the same modes
would be sent on. -/
lemma Crossed.toModes_eq {s d d' : Attributes} (h : Crossed s d d') (hsized : s.Sized)
    (hspeed : s.speed?.isSome) : d'.toModes = s.toModes := by
  have hchars : controlCharTable.map (fun e => (e.1, d'.chars[e.2].toNat)) =
      controlCharTable.map (fun e => (e.1, s.chars[e.2].toNat)) :=
    List.map_congr_left fun e he =>
      congrArg (fun char : UInt8 => (e.1, char.toNat)) (h.chars e he)
  have hflags : ∀ {table : List (Nat × UInt32)} {w w' : UInt32},
      (∀ e ∈ table, hasFlag w' e.2 = hasFlag w e.2) → flagPairs table w' = flagPairs table w :=
    fun hw => List.map_congr_left fun e he => by rw [hw e he]
  have hsize : d'.cflag &&& sizeMask = s.cflag &&& sizeMask := by rw [h.size, if_pos hsized]
  have hrate : d'.speed? = s.speed? := by rw [speed?, h.speed, if_pos hspeed, speed?]
  rw [toModes, toModes, pairs, pairs, hchars, hflags h.input, hflags h.local_, hflags h.output,
    hflags h.control, hsize, hrate]

/-- The modes of attributes, applied to others, bring over what has an opcode and leave the rest.

**Proof sketch.** Each of the three words of flags becomes a splice of the source's word under the
mask of its table, and the line word a splice under `lineMask`.  So what lies inside a mask is the
source's and what lies outside is the target's; the character size and the speed are inside or
outside as a whole.  Control characters are written byte by byte. -/
lemma crossed_applyModes (s d : Attributes) : Crossed s d (d.applyModes s.toModes) := by
  have hinput : (d.applyModes s.toModes).iflag =
      splice (flagsOf inputFlagTable) s.iflag d.iflag := by
    have hword : (inputFlagTable, s.iflag) ∈ s.flagWords := by simp [flagWords]
    rw [applyModes, s.applyFlags_toModes hword]
  have hlocal : (d.applyModes s.toModes).lflag =
      splice (flagsOf localFlagTable) s.lflag d.lflag := by
    have hword : (localFlagTable, s.lflag) ∈ s.flagWords := by simp [flagWords]
    rw [applyModes, s.applyFlags_toModes hword]
  have houtput : (d.applyModes s.toModes).oflag =
      splice (flagsOf outputFlagTable) s.oflag d.oflag := by
    have hword : (outputFlagTable, s.oflag) ∈ s.flagWords := by simp [flagWords]
    rw [applyModes, s.applyFlags_toModes hword]
  have hrow : (d.applyModes s.toModes).chars = applyChars controlCharTable s.toModes d.chars := by
    rw [applyModes]
  have hline := s.cflag_applyModes d
  exact {
    input := fun e he => hasFlag_congr (by rw [hinput, splice_inside _ _ (and_flagsOf he)])
    local_ := fun e he => hasFlag_congr (by rw [hlocal, splice_inside _ _ (and_flagsOf he)])
    output := fun e he => hasFlag_congr (by rw [houtput, splice_inside _ _ (and_flagsOf he)])
    control := fun e he => hasFlag_congr (by rw [hline, splice_inside _ _ (s.and_lineMask he)])
    chars := fun e he => by
      have hchar := toNat_get_applyChars (by decide) he s.toModes d.chars
      rw [Modes.char, s.get?_toModes_char he, ← hrow] at hchar
      exact UInt8.toNat_inj.1 (hchar.trans (Nat.mod_eq_of_lt (UInt8.toNat_lt _)))
    size := by
      rw [hline]
      split_ifs with h
      · exact splice_inside _ _ (by rw [s.sizeMask_and_lineMask, if_pos h])
      · exact splice_outside _ _ (by rw [s.sizeMask_and_lineMask, if_neg h])
    speed := by
      rw [hline]
      split_ifs with h
      · exact splice_inside _ _ (by rw [s.speedMask_and_lineMask, if_pos h])
      · exact splice_outside _ _ (by rw [s.speedMask_and_lineMask, if_neg h])
    otherInput := by rw [hinput, splice_outside _ _ (by decide)]
    otherLocal := by rw [hlocal, splice_outside _ _ (by decide)]
    otherOutput := by rw [houtput, splice_outside _ _ (by decide)]
    otherControl := by rw [hline, splice_outside _ _ s.other_and_lineMask]
    otherChars := fun i hi => by rw [hrow, get_applyChars_of_notMem hi] }

/-- **Terminal modes cross without loss**, over every transport that has a name for their opcodes:
what has an opcode arrives as it was, and everything else of the other terminal stays.  If the
character size has an opcode and the speed a rate, the other terminal has the same modes then.

**Proof sketch.** No opcode is used twice and none ends the pairs, so the modes arrive as they were
sent and answer for each opcode with what was collected for it.  Applied flag by flag, field by
field, they are one splice for each word, whose bits can then be read inside and outside its
mask. -/
theorem modes_cross {named : Nat → Bool} (hnamed : ∀ op ∈ opcodes, named op = true)
    (s d : Attributes) :
    let d' := d.applyModes (Modes.ofPairs (Modes.carriedBy named s.toModes.toPairs))
    Crossed s d d' ∧ (s.Sized → s.speed?.isSome → d'.toModes = s.toModes) := by
  intro d'
  have harrive : d' = d.applyModes s.toModes :=
    congrArg d.applyModes (s.ofPairs_carriedBy hnamed)
  have hcrossed : Crossed s d d' := harrive ▸ crossed_applyModes s d
  exact ⟨hcrossed, hcrossed.toModes_eq⟩

/-- A raw terminal gets the modes of a new one, over the transport as it is. -/
theorem modes_cross_raw :
    (∀ op ∈ opcodes, Opcode.isNamed op = true) ∧
      let s := Pty.freshAttributes
      let d := Pty.freshAttributes.makeRaw
      let d' := d.applyModes (Modes.ofPairs (Modes.carried s.toModes.toPairs))
      Crossed s d d' ∧ d.toModes ≠ s.toModes ∧ d'.toModes = s.toModes := by
  have hnamed : ∀ op ∈ opcodes, Opcode.isNamed op = true := by decide
  obtain ⟨hcrossed, hsame⟩ := modes_cross hnamed Pty.freshAttributes Pty.freshAttributes.makeRaw
  refine ⟨hnamed, hcrossed, ?_, hsame (by decide) (by decide)⟩
  decide

end Attributes

end CommandRelay.Terminal
