import CommandRelay.Terminal.Attributes
import Mathlib.Data.List.Basic
import Mathlib.Data.List.TakeWhile
import Mathlib.Tactic.Common

/-!
# Terminal modes as pairs

On the wire, terminal modes are pairs of an opcode and a value.  An opcode can come again with
another value, opcode 0 ends the pairs wherever it stands, and nothing is said about their order.
Modes keep for each opcode the last value before that end, and they are written in the order of the
opcodes; so they read back as they were, unless one of them is opcode 0, which would be written
first and end all others.

No system collects that opcode.  The modes of a terminal are collected from tables of opcodes, which
differ from system to system, and from the character size and the speeds, which all of them have.

## Main definitions

* `Terminal.Modes.LastBeforeEnd` — the last value of an opcode before the end of the pairs.
* `Terminal.Platform` — how a system collects the modes of a terminal; `Terminal.linux`,
  `Terminal.darwin`.
* `Terminal.Modes.Survives` — modes that arrive as they were sent.

## Main results

* `Terminal.Modes.get?_ofPairs_eq_some_iff` — what the modes of pairs answer.
* `Terminal.Modes.ofPairs_toPairs` — modes that are written and read.
* `Terminal.Platform.survives_toModes` — the modes of a terminal survive the wire.
* `Terminal.Modes.pairs_faithful` — these together.
-/

namespace CommandRelay

namespace Dictionary

variable {κ ν : Type} [DecidableEq κ] {l : List (κ × ν)} {k : κ} {v : ν}

/-- The first entry of a key is what is found. -/
lemma lookupEntry_eq_some_iff :
    lookupEntry k l = some v ↔
      ∃ front back, l = front ++ (k, v) :: back ∧ k ∉ front.map Prod.fst := by
  induction l with
  | nil => simp [lookupEntry]
  | cons first rest ih =>
    obtain ⟨k', v'⟩ := first
    rw [lookupEntry]
    split_ifs with hk
    · subst hk
      constructor
      · intro h
        exact ⟨[], rest, by rw [Option.some.inj h]; rfl, by simp⟩
      · rintro ⟨front, back, hsplit, hfront⟩
        cases front with
        | nil => rw [(Prod.mk.inj (List.cons.inj hsplit).1).2]
        | cons e front => simp [← (List.cons.inj hsplit).1] at hfront
    · rw [ih]
      constructor
      · rintro ⟨front, back, rfl, hfront⟩
        exact ⟨(k', v') :: front, back, rfl, by simpa [hk] using hfront⟩
      · rintro ⟨front, back, hsplit, hfront⟩
        cases front with
        | nil => exact absurd (Prod.mk.inj (List.cons.inj hsplit).1).1.symm hk
        | cons e front =>
          exact ⟨front, back, (List.cons.inj hsplit).2, fun hmem => hfront (by simp [hmem])⟩

/-- The last pair of a key is what a list of pairs says about it. -/
lemma lastValue?_eq_some_iff :
    lastValue? l k = some v ↔
      ∃ front back, l = front ++ (k, v) :: back ∧ k ∉ back.map Prod.fst := by
  rw [lastValue?, lookupEntry_eq_some_iff]
  constructor
  · rintro ⟨front, back, hsplit, hfront⟩
    refine ⟨back.reverse, front.reverse, ?_, by simpa using hfront⟩
    simpa using congrArg List.reverse hsplit
  · rintro ⟨front, back, rfl, hback⟩
    exact ⟨back.reverse, front.reverse, by simp, by simpa using hback⟩

end Dictionary

namespace Terminal

namespace Modes

/-! ## Reading pairs -/

/-- `value` is the last one that `op` has among the pairs before the first one that ends them. -/
def LastBeforeEnd (pairs : List (Nat × Nat)) (op value : Nat) : Prop :=
  ∃ before between rest, pairs = before ++ (op, value) :: between ++ rest ∧
    (∀ p ∈ before ++ (op, value) :: between, p.1 ≠ Opcode.endOfList) ∧
    (∀ p ∈ between, p.1 ≠ op) ∧ ∀ p ∈ rest.head?, p.1 = Opcode.endOfList

/-- Pairs that end nothing are read up to one that does. -/
lemma beforeEnd_append {pairs rest : List (Nat × Nat)}
    (hpairs : ∀ p ∈ pairs, p.1 ≠ Opcode.endOfList)
    (hrest : ∀ p ∈ rest.head?, p.1 = Opcode.endOfList) :
    beforeEnd (pairs ++ rest) = pairs := by
  have hstop : rest.takeWhile (fun p => p.1 != Opcode.endOfList) = [] := by
    cases rest with
    | nil => rfl
    | cons p rest => simp [hrest p rfl]
  rw [beforeEnd, List.takeWhile_append_of_pos fun p hp => by simpa using hpairs p hp, hstop,
    List.append_nil]

/-- No pair that is read is the one that ends them. -/
lemma ne_endOfList_of_mem_beforeEnd {pairs : List (Nat × Nat)} {p : Nat × Nat}
    (hp : p ∈ beforeEnd pairs) : p.1 ≠ Opcode.endOfList := by
  simpa using List.mem_takeWhile_imp hp

/-- What is not read starts with a pair that ends the others. -/
lemma exists_beforeEnd_append (pairs : List (Nat × Nat)) :
    ∃ rest, pairs = beforeEnd pairs ++ rest ∧ ∀ p ∈ rest.head?, p.1 = Opcode.endOfList := by
  refine ⟨pairs.dropWhile _, List.takeWhile_append_dropWhile.symm, fun p hp => ?_⟩
  have hstop := List.head?_dropWhile_not (fun p => p.1 != Opcode.endOfList) pairs
  rw [Option.mem_def.1 hp] at hstop
  simpa using hstop

/-- **The modes of pairs** answer for an opcode with its last value before the end. -/
lemma get?_ofPairs_eq_some_iff {pairs : List (Nat × Nat)} {op value : Nat} :
    (ofPairs pairs).get? op = some value ↔ LastBeforeEnd pairs op value := by
  rw [get?, ofPairs, Dictionary.get?_ofList, Dictionary.lastValue?_eq_some_iff]
  constructor
  · rintro ⟨before, between, hsplit, hlast⟩
    obtain ⟨rest, hpairs, hrest⟩ := exists_beforeEnd_append pairs
    rw [hsplit] at hpairs
    refine ⟨before, between, rest, hpairs, fun p hp => ?_, fun p hp heq => ?_, hrest⟩
    · exact ne_endOfList_of_mem_beforeEnd (hsplit ▸ hp)
    · exact hlast (heq ▸ List.mem_map_of_mem hp)
  · rintro ⟨before, between, rest, rfl, hgoes, hlast, hrest⟩
    refine ⟨before, between, beforeEnd_append hgoes hrest, fun hmem => ?_⟩
    obtain ⟨p, hp, heq⟩ := List.mem_map.1 hmem
    exact hlast p hp heq

/-- Modes are determined by what they answer. -/
lemma ext_get? {m m' : Modes} (h : ∀ op, m.get? op = m'.get? op) : m = m' :=
  congrArg Modes.mk (Dictionary.ext_get? h)

/-- Pairs with the same last values before their ends give the same modes. -/
lemma ofPairs_eq_iff {pairs pairs' : List (Nat × Nat)} :
    ofPairs pairs = ofPairs pairs' ↔
      ∀ op value, LastBeforeEnd pairs op value ↔ LastBeforeEnd pairs' op value := by
  simp only [← get?_ofPairs_eq_some_iff]
  constructor
  · intro h op value
    rw [h]
  · intro h
    exact ext_get? fun op => Option.ext fun value => h op value

/-- The end of the pairs is no mode. -/
lemma get?_ofPairs_endOfList (pairs : List (Nat × Nat)) :
    (ofPairs pairs).get? Opcode.endOfList = none := by
  rw [Option.eq_none_iff_forall_ne_some]
  intro value h
  obtain ⟨before, between, rest, -, hgoes, -, -⟩ := get?_ofPairs_eq_some_iff.1 h
  exact hgoes (Opcode.endOfList, value) (by simp) rfl

/-! ## Writing pairs -/

/-- What is written of modes is what they answer. -/
lemma mem_toPairs_iff {m : Modes} {op value : Nat} :
    (op, value) ∈ m.toPairs ↔ m.get? op = some value :=
  ⟨m.values.get?_of_mem, Dictionary.mem_of_get?⟩

/-- Pairs of which none ends the others are all read. -/
lemma ofPairs_toPairs_of_ne {m : Modes} (h : ∀ p ∈ m.toPairs, p.1 ≠ Opcode.endOfList) :
    ofPairs m.toPairs = m := by
  have hbefore : beforeEnd (m.toPairs ++ []) = m.toPairs := beforeEnd_append h (by simp)
  rw [List.append_nil] at hbefore
  rw [ofPairs, hbefore, toPairs, Dictionary.ofList_entries]

/-- **Written and read.** Modes read back as they were, but with opcode 0 among them nothing does:
it is written first.

**Proof sketch.** The opcodes are written in increasing order, and none is below 0. -/
lemma ofPairs_toPairs (m : Modes) :
    ofPairs m.toPairs = if m.get? Opcode.endOfList = none then m else empty := by
  split_ifs with h
  · refine ofPairs_toPairs_of_ne fun p hp heq => ?_
    have hvalue : m.get? p.1 = some p.2 := mem_toPairs_iff.1 hp
    rw [heq, h] at hvalue
    cases hvalue
  · obtain ⟨value, hvalue⟩ := Option.ne_none_iff_exists'.1 h
    have hmem : (Opcode.endOfList, value) ∈ m.toPairs := mem_toPairs_iff.2 hvalue
    have hsorted : m.toPairs.Pairwise fun p q => p.1 < q.1 := m.values.sorted
    cases hpairs : m.toPairs with
    | nil => simp [hpairs] at hmem
    | cons first rest =>
      rw [hpairs] at hmem hsorted
      have hfirst : first.1 = Opcode.endOfList := by
        rcases List.mem_cons.1 hmem with heq | hrest
        · rw [← heq]
        · exact absurd ((List.pairwise_cons.1 hsorted).1 _ hrest) (Nat.not_lt_zero _)
      have hnone : beforeEnd (first :: rest) = [] := by simp [beforeEnd, hfirst]
      rw [ofPairs, hnone]
      rfl

/-- Modes read back as they were exactly if opcode 0 is not among them. -/
lemma ofPairs_toPairs_eq_self_iff (m : Modes) :
    ofPairs m.toPairs = m ↔ m.get? Opcode.endOfList = none := by
  constructor
  · intro h
    rw [← h]
    exact get?_ofPairs_endOfList _
  · intro h
    rw [ofPairs_toPairs, if_pos h]

end Modes

/-! ## Collecting modes -/

/-- How a system collects the modes of a terminal: the opcodes that it has for control characters
and for flags, each with the way in which it is read from the terminal's attributes, and the
character size and the speeds of input and output, which have their opcodes on all systems. -/
structure Platform (Native : Type) where
  chars : List (Nat × (Native → UInt8))
  flags : List (Nat × (Native → Bool))
  sevenBits : Native → Bool
  eightBits : Native → Bool
  ispeed? : Native → Option Nat
  ospeed? : Native → Option Nat

namespace Platform

variable {Native : Type} (P : Platform Native) (t : Native)

/-- The modes that cross, as they are collected. -/
def pairs : List (Nat × Nat) :=
  P.chars.map (fun e => (e.1, (e.2 t).toNat)) ++ P.flags.map (fun e => (e.1, (e.2 t).toNat)) ++
    [(Opcode.cs7, (P.sevenBits t).toNat), (Opcode.cs8, (P.eightBits t).toNat)] ++
    ((P.ispeed? t).map fun r => (Opcode.ispeed, r)).toList ++
    ((P.ospeed? t).map fun r => (Opcode.ospeed, r)).toList

/-- The modes that cross. -/
def toModes : Modes := ⟨Dictionary.ofList (P.pairs t)⟩

/-- The opcodes that can be among the modes. -/
def opcodes : List Nat :=
  P.chars.map Prod.fst ++ P.flags.map Prod.fst ++
    [Opcode.cs7, Opcode.cs8, Opcode.ispeed, Opcode.ospeed]

/-- Only opcodes of the system are collected. -/
lemma fst_mem_opcodes {p : Nat × Nat} (hp : p ∈ P.pairs t) : p.1 ∈ P.opcodes := by
  simp only [pairs, List.mem_append, List.mem_map, Option.mem_toList,
    Option.map_eq_some_iff, List.mem_cons, List.not_mem_nil, or_false] at hp
  simp only [opcodes, List.mem_append, List.mem_map, List.mem_cons, List.not_mem_nil, or_false]
  rcases hp with (((⟨e, he, rfl⟩ | ⟨e, he, rfl⟩) | (rfl | rfl)) | ⟨r, -, rfl⟩) | ⟨r, -, rfl⟩
  · exact .inl (.inl ⟨e, he, rfl⟩)
  · exact .inl (.inr ⟨e, he, rfl⟩)
  all_goals simp

end Platform

/-- Linux, where attributes are `Attributes`. -/
def linux : Platform Attributes where
  chars := controlCharTable.map fun e => (e.1, fun a => a.chars.get e.2)
  flags := inputFlagTable.map (fun e => (e.1, fun a => hasFlag a.iflag e.2)) ++
    localFlagTable.map (fun e => (e.1, fun a => hasFlag a.lflag e.2)) ++
    outputFlagTable.map (fun e => (e.1, fun a => hasFlag a.oflag e.2)) ++
    controlFlagTable.map (fun e => (e.1, fun a => hasFlag a.cflag e.2))
  sevenBits a := a.cflag &&& sizeMask == size7
  eightBits a := a.cflag &&& sizeMask == size8
  ispeed? := Attributes.speed?
  ospeed? := Attributes.speed?

/-- Linux collects the pairs of its attributes. -/
lemma pairs_linux (a : Attributes) : linux.pairs a = a.pairs := by
  simp [Platform.pairs, linux, Attributes.pairs, flagPairs, Function.comp_def, Vector.get]

/-- Linux collects the modes of its attributes. -/
lemma toModes_linux (a : Attributes) : linux.toModes a = a.toModes := by
  rw [Platform.toModes, pairs_linux, Attributes.toModes]

namespace Opcode

/-- The second character that suspends. -/
def vdsusp : Nat := 11

/-- The character that asks for the status. -/
def vstatus : Nat := 17

end Opcode

/-- Darwin, whatever its attributes are and however an opcode is read from them.  It has two control
characters more and one less, does not map lower case to upper case on output, and has any rate. -/
def darwin {Native : Type} (char : Nat → Native → UInt8) (flag : Nat → Native → Bool)
    (sevenBits eightBits : Native → Bool) (ispeed ospeed : Native → Nat) : Platform Native where
  chars := [Opcode.vintr, Opcode.vquit, Opcode.verase, Opcode.vkill, Opcode.veof, Opcode.veol,
    Opcode.veol2, Opcode.vstart, Opcode.vstop, Opcode.vsusp, Opcode.vdsusp, Opcode.vreprint,
    Opcode.vwerase, Opcode.vlnext, Opcode.vstatus, Opcode.vdiscard].map fun op => (op, char op)
  flags := [Opcode.ignpar, Opcode.parmrk, Opcode.inpck, Opcode.istrip, Opcode.inlcr, Opcode.igncr,
    Opcode.icrnl, Opcode.ixon, Opcode.ixany, Opcode.ixoff, Opcode.imaxbel, Opcode.iutf8,
    Opcode.isig, Opcode.icanon, Opcode.echo, Opcode.echoe, Opcode.echok, Opcode.echonl,
    Opcode.noflsh, Opcode.tostop, Opcode.iexten, Opcode.echoctl, Opcode.echoke, Opcode.pendin,
    Opcode.opost, Opcode.onlcr, Opcode.ocrnl, Opcode.onocr, Opcode.onlret,
    Opcode.parenb, Opcode.parodd].map fun op => (op, flag op)
  sevenBits := sevenBits
  eightBits := eightBits
  ispeed? t := some (ispeed t)
  ospeed? t := some (ospeed t)

/-! ## Crossing the wire -/

/-- Modes that arrive as they were sent: opcode 0 is not among them, they read back from their
pairs, and from those pairs that the transport carries. -/
structure Modes.Survives (m : Modes) : Prop where
  noEnd : m.get? Opcode.endOfList = none
  readsBack : Modes.ofPairs m.toPairs = m
  carried : Modes.ofPairs (Modes.carried m.toPairs) = m

/-- **The modes of a terminal survive** if the transport has a name for every opcode of the system
and none of them ends the pairs. -/
lemma Platform.survives_toModes {Native : Type} {P : Platform Native}
    (h : ∀ op ∈ P.opcodes, op ≠ Opcode.endOfList ∧ Opcode.isNamed op = true) (t : Native) :
    (P.toModes t).Survives := by
  have hop : ∀ p ∈ (P.toModes t).toPairs, p.1 ≠ Opcode.endOfList ∧ Opcode.isNamed p.1 = true := by
    intro p hp
    have hmem : p ∈ (Dictionary.ofList (P.pairs t)).entries := hp
    exact h p.1 (P.fst_mem_opcodes t (Dictionary.mem_of_mem_entries_ofList hmem))
  have hback : Modes.ofPairs (P.toModes t).toPairs = P.toModes t :=
    Modes.ofPairs_toPairs_of_ne fun p hp => (hop p hp).1
  have hall : Modes.carried (P.toModes t).toPairs = (P.toModes t).toPairs :=
    List.filter_eq_self.2 fun p hp => by simp [hop p hp]
  exact {
    noEnd := (Modes.ofPairs_toPairs_eq_self_iff _).1 hback
    readsBack := hback
    carried := by rw [hall, hback] }

/-- **Pairs and modes.** The modes of pairs answer for each opcode with its last value before the
end and for no other, so pairs that agree in these give the same modes, and no others do.  Modes are
written in strictly increasing order of their opcodes, one pair for each, and they read back as they
were just if opcode 0 is not among them.  The modes of a terminal, on Linux and on Darwin, never
have that opcode, and they survive the wire.

**Proof sketch.** The pairs before the end are stored one after another, and the last one of an
opcode is found.  Opcode 0 would be written first.  The tables of both systems are checked entry by
entry. -/
theorem Modes.pairs_faithful :
    (∀ pairs op value, (ofPairs pairs).get? op = some value ↔ LastBeforeEnd pairs op value) ∧
    (∀ pairs pairs', ofPairs pairs = ofPairs pairs' ↔
      ∀ op value, LastBeforeEnd pairs op value ↔ LastBeforeEnd pairs' op value) ∧
    (∀ m : Modes, m.toPairs.Pairwise (fun p q => p.1 < q.1) ∧ m.toPairs.length = m.size ∧
      (∀ op value, (op, value) ∈ m.toPairs ↔ m.get? op = some value) ∧
      (ofPairs m.toPairs = m ↔ m.get? Opcode.endOfList = none)) ∧
    (∀ a : Attributes, a.toModes.Survives) ∧
    ∀ (Native : Type) (char : Nat → Native → UInt8) (flag : Nat → Native → Bool)
      (sevenBits eightBits : Native → Bool) (ispeed ospeed : Native → Nat) (t : Native),
      ((darwin char flag sevenBits eightBits ispeed ospeed).toModes t).Survives := by
  refine ⟨fun _ _ _ => get?_ofPairs_eq_some_iff, fun _ _ => ofPairs_eq_iff, fun m => ?_,
    fun a => ?_, fun _ char flag sevenBits eightBits ispeed ospeed t => ?_⟩
  · exact ⟨m.values.sorted, rfl, fun _ _ => mem_toPairs_iff, ofPairs_toPairs_eq_self_iff m⟩
  · have htables : ∀ op ∈ linux.opcodes, op ≠ Opcode.endOfList ∧ Opcode.isNamed op = true := by
      decide
    rw [← toModes_linux]
    exact Platform.survives_toModes htables a
  · have htables : ∀ op ∈ (darwin char flag sevenBits eightBits ispeed ospeed).opcodes,
        op ≠ Opcode.endOfList ∧ Opcode.isNamed op = true := by
      simp only [Platform.opcodes, darwin, List.map_map, Function.comp_def, List.map_id']
      decide
    exact Platform.survives_toModes htables t

end Terminal

end CommandRelay
