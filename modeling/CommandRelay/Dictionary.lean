/-!
# Dictionaries in key order

A finite map kept as the list of its entries, keys strictly increasing.  The list is the one
canonical form, so two dictionaries with the same look-ups are equal, and listing the entries
needs no sorting.

## Main definitions

* `Dictionary` — entries with strictly increasing keys.
* `Dictionary.get?`, `insert`, `erase`, `ofList`, `filter` — the operations.

## Main results

* `Dictionary.get?_insert`, `get?_erase`, `get?_ofList` — each operation through `get?`.
* `Dictionary.ext_get?` — look-ups determine the dictionary.
* `Dictionary.get?_ofList_of_mem`, `get?_ofList_eq_none` — what a dictionary of pairs with different
  keys answers.
* `Dictionary.get?_of_mem`, `mem_of_get?` — the entries are what is found.
* `Dictionary.ofList_entries` — rebuilding from the entries gives the dictionary back.
-/

namespace CommandRelay

/-- A finite map as the list of its entries with strictly increasing keys. -/
structure Dictionary (κ ν : Type) [LT κ] where
  /-- The entries in key order. -/
  entries : List (κ × ν)
  /-- Keys strictly increase, so each occurs once. -/
  sorted : entries.Pairwise fun a b => a.1 < b.1

namespace Dictionary

/-! ## Entry lists -/

section Entries

variable {κ ν : Type} [LT κ] [DecidableLT κ] [DecidableEq κ]

/-- Puts an entry before the first larger key, replacing one with the same key. -/
def insertEntry (k : κ) (v : ν) : List (κ × ν) → List (κ × ν)
  | [] => [(k, v)]
  | (k', v') :: rest =>
    if k < k' then (k, v) :: (k', v') :: rest
    else if k = k' then (k, v) :: rest
    else (k', v') :: insertEntry k v rest

omit [LT κ] [DecidableLT κ] in
/-- The value of the first entry with key `k`. -/
def lookupEntry (k : κ) : List (κ × ν) → Option ν
  | [] => none
  | (k', v) :: rest => if k = k' then some v else lookupEntry k rest

/-- An entry after an insertion is the new one or was there before. -/
theorem mem_insertEntry {k : κ} {v : ν} {e : κ × ν} {l : List (κ × ν)}
    (h : e ∈ insertEntry k v l) : e = (k, v) ∨ e ∈ l := by
  induction l with
  | nil => simpa [insertEntry] using h
  | cons p rest ih =>
    obtain ⟨k', v'⟩ := p
    rw [insertEntry] at h
    split at h
    · simpa using h
    · split at h
      · rcases List.mem_cons.1 h with h | h
        · exact .inl h
        · exact .inr (List.mem_cons_of_mem _ h)
      · rcases List.mem_cons.1 h with h | h
        · exact .inr (h ▸ List.mem_cons_self)
        · exact (ih h).imp id (List.mem_cons_of_mem _)

/-- An insertion changes what its own key has, and nothing else. -/
theorem lookupEntry_insertEntry (k k' : κ) (v : ν) (l : List (κ × ν)) :
    lookupEntry k' (insertEntry k v l) = if k' = k then some v else lookupEntry k' l := by
  induction l with
  | nil => simp [insertEntry, lookupEntry]
  | cons p rest ih =>
    obtain ⟨k'', v''⟩ := p
    rw [insertEntry]
    split
    · rfl
    · split
      · next h => subst h; by_cases h' : k' = k <;> simp [lookupEntry, h']
      · next h => by_cases h' : k' = k'' <;> by_cases h'' : k' = k <;>
          simp_all [lookupEntry]

variable [LE κ] [Std.IsLinearOrder κ] [Std.LawfulOrderLT κ]

/-- An insertion keeps the keys in increasing order. -/
theorem pairwise_insertEntry (k : κ) (v : ν) {l : List (κ × ν)}
    (h : l.Pairwise fun a b => a.1 < b.1) :
    (insertEntry k v l).Pairwise fun a b => a.1 < b.1 := by
  induction l with
  | nil => simp [insertEntry]
  | cons p rest ih =>
    obtain ⟨k', v'⟩ := p
    obtain ⟨hp, hr⟩ := List.pairwise_cons.1 h
    rw [insertEntry]
    split
    · next hlt =>
      refine List.pairwise_cons.2 ⟨fun e he => ?_, h⟩
      rcases List.mem_cons.1 he with he | he
      · exact he ▸ hlt
      · exact Std.lt_trans hlt (hp e he)
    · next hlt =>
      split
      · next heq => subst heq; exact List.pairwise_cons.2 ⟨hp, hr⟩
      · next hne =>
        refine List.pairwise_cons.2 ⟨fun e he => ?_, ih hr⟩
        rcases mem_insertEntry he with he | he
        · subst he
          exact Std.lt_of_le_of_ne (Std.not_lt.1 hlt) (Ne.symm hne)
        · exact hp e he

omit [DecidableLT κ] [Std.IsLinearOrder κ] in
/-- A key below every key of a list is not in it. -/
theorem lookupEntry_eq_none_of_lt {k : κ} {l : List (κ × ν)}
    (h : ∀ e ∈ l, k < e.1) : lookupEntry k l = none := by
  induction l with
  | nil => rfl
  | cons p rest ih =>
    obtain ⟨k', v'⟩ := p
    have hk : k ≠ k' := fun e => Std.lt_irrefl (e ▸ h (k', v') List.mem_cons_self)
    simp [lookupEntry, hk, ih fun e he => h e (List.mem_cons_of_mem _ he)]

omit [DecidableLT κ] in
/-- **Canonical form.** Ordered entry lists with the same look-ups are equal.

**Proof sketch.** Induction on the first list.  The first keys are equal: the smaller one would be
found in its own list, and in the other list all keys are greater.  So are their values, since both
lists are asked for that key.  For the rest, a key that is the first one is found in neither tail,
and any other key is looked up in the tails. -/
theorem entries_ext {l m : List (κ × ν)} (hl : l.Pairwise fun a b => a.1 < b.1)
    (hm : m.Pairwise fun a b => a.1 < b.1)
    (h : ∀ k, lookupEntry k l = lookupEntry k m) : l = m := by
  induction l generalizing m with
  | nil =>
    cases m with
    | nil => rfl
    | cons p rest => simpa [lookupEntry] using h p.1
  | cons p rest ih =>
    obtain ⟨k, v⟩ := p
    obtain ⟨hp, hr⟩ := List.pairwise_cons.1 hl
    cases m with
    | nil => simpa [lookupEntry] using h k
    | cons q rest' =>
      obtain ⟨k', v'⟩ := q
      obtain ⟨hq, hr'⟩ := List.pairwise_cons.1 hm
      have hk : k = k' := by
        rcases Std.lt_trichotomy k k' with hlt | heq | hlt
        · have hn := lookupEntry_eq_none_of_lt (k := k) (l := (k', v') :: rest')
            fun e he => by
              rcases List.mem_cons.1 he with he | he
              · exact he ▸ hlt
              · exact Std.lt_trans hlt (hq e he)
          have hk := h k
          rw [hn] at hk
          simp [lookupEntry] at hk
        · exact heq
        · have hn := lookupEntry_eq_none_of_lt (k := k') (l := (k, v) :: rest)
            fun e he => by
              rcases List.mem_cons.1 he with he | he
              · exact he ▸ hlt
              · exact Std.lt_trans hlt (hp e he)
          have hk := h k'
          rw [hn] at hk
          simp [lookupEntry] at hk
      subst hk
      have hv : v = v' := by simpa [lookupEntry] using h k
      subst hv
      congr 1
      refine ih hr hr' fun x => ?_
      by_cases hx : x = k
      · rw [hx, lookupEntry_eq_none_of_lt (l := rest) hp,
          lookupEntry_eq_none_of_lt (l := rest') hq]
      · simpa [lookupEntry, hx] using h x

end Entries

/-! ## Operations -/

section Operations

variable {κ ν : Type} [LT κ]

/-- The dictionary without entries. -/
def empty : Dictionary κ ν := ⟨[], .nil⟩

/-- The empty collection is the empty dictionary. -/
instance : EmptyCollection (Dictionary κ ν) := ⟨empty⟩

/-- There is a dictionary, the empty one. -/
instance : Inhabited (Dictionary κ ν) := ⟨empty⟩

/-- Dictionaries are compared by their entries. -/
instance [DecidableEq κ] [DecidableEq ν] : DecidableEq (Dictionary κ ν) := fun a b =>
  decidable_of_iff (a.entries = b.entries)
    ⟨fun h => by cases a; cases b; simp_all, fun h => h ▸ rfl⟩

/-- How many keys there are. -/
def size (d : Dictionary κ ν) : Nat := d.entries.length

/-- Whether there is no entry. -/
def isEmpty (d : Dictionary κ ν) : Bool := d.entries.isEmpty

/-- The keys in increasing order. -/
def keys (d : Dictionary κ ν) : List κ := d.entries.map Prod.fst

/-- The entries that satisfy `p`. -/
def filter (p : κ → ν → Bool) (d : Dictionary κ ν) : Dictionary κ ν :=
  ⟨d.entries.filter fun e => p e.1 e.2, d.sorted.filter _⟩

/-- The value stored under `k`. -/
def get? [DecidableEq κ] (d : Dictionary κ ν) (k : κ) : Option ν := lookupEntry k d.entries

/-- Whether `k` has a value. -/
def contains [DecidableEq κ] (d : Dictionary κ ν) (k : κ) : Bool := (d.get? k).isSome

/-- Takes the entry of `k` away. -/
def erase [DecidableEq κ] (d : Dictionary κ ν) (k : κ) : Dictionary κ ν :=
  d.filter fun k' _ => !decide (k' = k)

variable [DecidableLT κ] [DecidableEq κ] [LE κ] [Std.IsLinearOrder κ] [Std.LawfulOrderLT κ]

/-- Stores `v` under `k`, replacing what was there. -/
def insert (d : Dictionary κ ν) (k : κ) (v : ν) : Dictionary κ ν :=
  ⟨insertEntry k v d.entries, pairwise_insertEntry k v d.sorted⟩

/-- Stores the pairs one after another, so a later pair wins over an earlier one. -/
def insertList (d : Dictionary κ ν) (pairs : List (κ × ν)) : Dictionary κ ν :=
  pairs.foldl (fun d p => d.insert p.1 p.2) d

/-- The dictionary of a list of pairs; the last pair of a key wins. -/
def ofList (pairs : List (κ × ν)) : Dictionary κ ν := insertList empty pairs

end Operations

/-! ## Look-ups -/

section Lookup

variable {κ ν : Type} [LT κ] [DecidableEq κ]

/-- Nothing is found in an empty dictionary. -/
@[simp] theorem get?_empty (k : κ) : (empty : Dictionary κ ν).get? k = none := rfl

variable [DecidableLT κ] [LE κ] [Std.IsLinearOrder κ] [Std.LawfulOrderLT κ]

/-- An insertion changes what its own key has, and nothing else. -/
@[simp] theorem get?_insert (d : Dictionary κ ν) (k k' : κ) (v : ν) :
    (d.insert k v).get? k' = if k' = k then some v else d.get? k' :=
  lookupEntry_insertEntry k k' v d.entries

omit [DecidableLT κ] in
/-- Look-ups determine a dictionary. -/
theorem ext_get? {d e : Dictionary κ ν} (h : ∀ k, d.get? k = e.get? k) : d = e := by
  have := entries_ext d.sorted e.sorted h
  cases d; cases e; simp_all

/-- The last pair with key `k`, read from the end of the list. -/
def lastValue? (pairs : List (κ × ν)) (k : κ) : Option ν := lookupEntry k pairs.reverse

omit [LT κ] [DecidableLT κ] [LE κ] [Std.IsLinearOrder κ] [Std.LawfulOrderLT κ] in
/-- In one list after another a key has what the first has for it, or else what the second has. -/
theorem lookupEntry_append (k : κ) (l m : List (κ × ν)) :
    lookupEntry k (l ++ m) = (lookupEntry k l).or (lookupEntry k m) := by
  induction l with
  | nil => simp [lookupEntry]
  | cons p rest ih => by_cases h : k = p.1 <;> simp [lookupEntry, h, ih]

/-- After insertions a key has its last value among them, or else what it had before. -/
theorem get?_insertList (d : Dictionary κ ν) (pairs : List (κ × ν)) (k : κ) :
    (d.insertList pairs).get? k = (lastValue? pairs k).or (d.get? k) := by
  induction pairs generalizing d with
  | nil => simp [insertList, lastValue?, lookupEntry]
  | cons p rest ih =>
    have := ih (d.insert p.1 p.2)
    simp only [insertList, List.foldl_cons] at this ⊢
    rw [this, lastValue?, lastValue?, List.reverse_cons, lookupEntry_append, get?_insert]
    by_cases h : k = p.1 <;>
      cases lookupEntry k rest.reverse <;> simp [h, lookupEntry]

/-- A dictionary made from pairs answers with the last value given for a key. -/
theorem get?_ofList (pairs : List (κ × ν)) (k : κ) :
    (ofList pairs).get? k = lastValue? pairs k := by
  simp [ofList, get?_insertList]

omit [LT κ] [DecidableLT κ] [LE κ] [Std.IsLinearOrder κ] [Std.LawfulOrderLT κ] in
/-- In a list with different keys every entry is found by its key. -/
theorem lookupEntry_of_mem {l : List (κ × ν)} (h : (l.map Prod.fst).Nodup) {e : κ × ν}
    (he : e ∈ l) : lookupEntry e.1 l = some e.2 := by
  induction l with
  | nil => cases he
  | cons p rest ih =>
    obtain ⟨hp, hr⟩ := List.nodup_cons.1 h
    rcases List.mem_cons.1 he with rfl | he
    · simp [lookupEntry]
    · have hk : e.1 ≠ p.1 := fun heq => hp (heq ▸ List.mem_map_of_mem he)
      rw [lookupEntry, if_neg hk, ih hr he]

omit [LT κ] [DecidableLT κ] [LE κ] [Std.IsLinearOrder κ] [Std.LawfulOrderLT κ] in
/-- A key that is not in a list has no value there. -/
theorem lookupEntry_eq_none {l : List (κ × ν)} {k : κ} (h : k ∉ l.map Prod.fst) :
    lookupEntry k l = none := by
  induction l with
  | nil => rfl
  | cons p rest ih =>
    rw [List.map_cons, List.mem_cons, not_or] at h
    rw [lookupEntry, if_neg h.1, ih h.2]

/-- Pairs with different keys are all found. -/
theorem get?_ofList_of_mem {pairs : List (κ × ν)} (h : (pairs.map Prod.fst).Nodup) {e : κ × ν}
    (he : e ∈ pairs) : (ofList pairs).get? e.1 = some e.2 := by
  have hreverse : (pairs.reverse.map Prod.fst).Nodup := by
    rw [List.map_reverse]
    exact List.pairwise_reverse.2 (h.imp Ne.symm)
  rw [get?_ofList, lastValue?]
  exact lookupEntry_of_mem hreverse (List.mem_reverse.2 he)

/-- A key that no pair has is not found. -/
theorem get?_ofList_eq_none {pairs : List (κ × ν)} {k : κ} (h : k ∉ pairs.map Prod.fst) :
    (ofList pairs).get? k = none := by
  rw [get?_ofList, lastValue?]
  exact lookupEntry_eq_none (by simpa using h)

/-- The entries come from the pairs. -/
theorem mem_entries_insertList {d : Dictionary κ ν} {pairs : List (κ × ν)} {e : κ × ν}
    (h : e ∈ (d.insertList pairs).entries) : e ∈ pairs ∨ e ∈ d.entries := by
  induction pairs generalizing d with
  | nil => exact .inr h
  | cons p rest ih =>
    rcases ih h with h | h
    · exact .inl (List.mem_cons_of_mem _ h)
    · rcases mem_insertEntry h with rfl | h
      · exact .inl List.mem_cons_self
      · exact .inr h

/-- A dictionary of pairs has no other entries. -/
theorem mem_of_mem_entries_ofList {pairs : List (κ × ν)} {e : κ × ν}
    (h : e ∈ (ofList pairs).entries) : e ∈ pairs :=
  (mem_entries_insertList h).resolve_right (List.not_mem_nil)

omit [DecidableLT κ] [Std.IsLinearOrder κ] in
/-- In a list with increasing keys the order does not matter to what a key has. -/
theorem lookupEntry_reverse {l : List (κ × ν)} (h : l.Pairwise fun a b => a.1 < b.1) (k : κ) :
    lookupEntry k l.reverse = lookupEntry k l := by
  induction l with
  | nil => rfl
  | cons p rest ih =>
    obtain ⟨hp, hr⟩ := List.pairwise_cons.1 h
    rw [List.reverse_cons, lookupEntry_append, ih hr]
    by_cases hk : k = p.1
    · subst hk
      simp [lookupEntry, lookupEntry_eq_none_of_lt hp]
    · simp [lookupEntry, hk]

/-- Rebuilding from the entries gives the dictionary back. -/
theorem ofList_entries (d : Dictionary κ ν) : ofList d.entries = d :=
  ext_get? fun k => by
    rw [get?_ofList, lastValue?, lookupEntry_reverse d.sorted]; rfl

omit [DecidableLT κ] [Std.IsLinearOrder κ] in
/-- In a list with increasing keys a key keeps its value if the test lets it. -/
theorem lookupEntry_filter (p : κ → ν → Bool) {l : List (κ × ν)}
    (h : l.Pairwise fun a b => a.1 < b.1) (k : κ) :
    lookupEntry k (l.filter fun e => p e.1 e.2) = (lookupEntry k l).filter (p k) := by
  induction l with
  | nil => rfl
  | cons e rest ih =>
    obtain ⟨k', v'⟩ := e
    obtain ⟨hp, hr⟩ := List.pairwise_cons.1 h
    rw [List.filter_cons]
    by_cases hk : k = k'
    · subst hk
      by_cases hpv : p k v' <;> simp [lookupEntry, Option.filter, hpv, ih hr,
        lookupEntry_eq_none_of_lt hp]
    · by_cases hpv : p k' v' <;> simp [lookupEntry, hpv, hk, ih hr]

omit [DecidableLT κ] [Std.IsLinearOrder κ] in
/-- Filtering keeps the values that the test lets. -/
@[simp] theorem get?_filter (p : κ → ν → Bool) (d : Dictionary κ ν) (k : κ) :
    (d.filter p).get? k = (d.get? k).filter (p k) :=
  lookupEntry_filter p d.sorted k

omit [DecidableLT κ] [Std.IsLinearOrder κ] in
/-- Erasing takes away what its own key has, and nothing else. -/
@[simp] theorem get?_erase (d : Dictionary κ ν) (k k' : κ) :
    (d.erase k).get? k' = if k' = k then none else d.get? k' := by
  rw [erase, get?_filter]
  by_cases h : k' = k <;> cases d.get? k' <;> simp [h]

omit [DecidableLT κ] [Std.IsLinearOrder κ] in
/-- The entry of a key is what is found under it. -/
theorem get?_of_mem (d : Dictionary κ ν) {e : κ × ν} (he : e ∈ d.entries) :
    d.get? e.1 = some e.2 := by
  refine lookupEntry_of_mem (List.pairwise_map.2 (d.sorted.imp fun hlt heq => ?_)) he
  exact Std.lt_irrefl (heq ▸ hlt)

omit [DecidableLT κ] [LE κ] [Std.IsLinearOrder κ] [Std.LawfulOrderLT κ] in
/-- What is found under a key is an entry. -/
theorem mem_of_get? {d : Dictionary κ ν} {k : κ} {v : ν} (h : d.get? k = some v) :
    (k, v) ∈ d.entries := by
  rw [get?] at h
  generalize d.entries = l at h
  induction l with
  | nil => cases h
  | cons first rest ih =>
    by_cases hk : k = first.1
    · rw [lookupEntry, if_pos hk] at h
      cases h
      exact hk ▸ List.mem_cons_self
    · rw [lookupEntry, if_neg hk] at h
      exact List.mem_cons_of_mem _ (ih h)

end Lookup

end Dictionary

end CommandRelay
