import CommandRelay.Dictionary

/-!
# File trees

What stands where below the root: directories, files, symbolic links and sockets, each at the list
of names that leads to it.

## Main definitions

* `Node`, `Place`, `FileTree` — what there is, where, and all of it.
* `FileTree.put`, `FileTree.erase`, `FileTree.eraseBelow`, `FileTree.eraseInside`,
  `FileTree.move` — changes at a place.

## Main results

* `FileTree.node?_put`, `FileTree.node?_eraseBelow`, `FileTree.node?_eraseInside` — what a change
  leaves where.
-/

namespace CommandRelay

/-- What stands at a place. -/
inductive Node where
  | directory
  | file (content : List UInt8) (executable : Bool)
  /-- A symbolic link, with its target as written. -/
  | link (target : String)
  /-- A socket, with the number of the program that listens on it. -/
  | socket (listener : Nat)
  deriving DecidableEq, Repr, Inhabited

namespace Node

/-- Whether a node is a directory. -/
def isDirectory : Node → Bool
  | directory => true
  | _ => false

/-- Whether a node is a symbolic link. -/
def isLink : Node → Bool
  | link _ => true
  | _ => false

end Node

/-- Where something stands: the names on the way from the root. -/
abbrev Place := List String

/-- Places are ordered name by name. -/
instance : LE Place := List.instLE

/-- Places are ordered name by name. -/
instance : Std.IsLinearOrder Place := List.instIsLinearOrder

/-- The strict order of places goes with the other one. -/
instance : Std.LawfulOrderLT Place := inferInstanceAs (Std.LawfulOrderLT (List String))

/-- All that stands below the root. -/
structure FileTree where
  nodes : Dictionary Place Node
  deriving DecidableEq

namespace FileTree

/-- The tree with nothing below the root. -/
def empty : FileTree := ⟨.empty⟩

/-- There is a tree, the empty one. -/
instance : Inhabited FileTree := ⟨empty⟩

/-- What stands at a place; the root is a directory. -/
def node? (t : FileTree) (p : Place) : Option Node :=
  if p = [] then some .directory else t.nodes.get? p

/-- Puts something at a place. -/
def put (t : FileTree) (p : Place) (n : Node) : FileTree := ⟨t.nodes.insert p n⟩

/-- Removes what stands at a place and below it. -/
def eraseBelow (t : FileTree) (p : Place) : FileTree := ⟨t.nodes.filter fun q _ => !p.isPrefixOf q⟩

/-- Removes what stands below a place. -/
def eraseInside (t : FileTree) (p : Place) : FileTree :=
  ⟨t.nodes.filter fun q _ => !(p.isPrefixOf q && decide (q ≠ p))⟩

/-- Removes what stands at a place. -/
def erase (t : FileTree) (p : Place) : FileTree := ⟨t.nodes.erase p⟩

/-- Moves what stands at a place and below it to another place. -/
def move (t : FileTree) (p q : Place) : FileTree :=
  ⟨(t.eraseBelow p).nodes.insertList
    ((t.nodes.entries.filter fun e => p.isPrefixOf e.1).map fun e => (q ++ e.1.drop p.length, e.2))⟩

/-- The names in a directory, with what they stand for, in order. -/
def entries (t : FileTree) (p : Place) : List (String × Node) :=
  t.nodes.entries.filterMap fun e =>
    match p.isPrefixOf e.1, e.1.drop p.length with
    | true, [name] => some (name, e.2)
    | _, _ => none

/-- The root is a directory. -/
@[simp] theorem node?_root (t : FileTree) : t.node? [] = some .directory := if_pos rfl

/-- Putting something changes what stands at that place, and nothing else. -/
theorem node?_put (t : FileTree) {p q : Place} (n : Node) (hp : p ≠ []) :
    (t.put p n).node? q = if q = p then some n else t.node? q := by
  unfold node? put
  by_cases hq : q = []
  · subst hq
    simp [Ne.symm hp]
  · simp [hq]

/-- Erasing changes what stands at that place, and nothing else. -/
theorem node?_erase (t : FileTree) {p q : Place} (hp : p ≠ []) :
    (t.erase p).node? q = if q = p then none else t.node? q := by
  unfold node? erase
  by_cases hq : q = []
  · subst hq
    simp [Ne.symm hp]
  · simp [hq]

/-- Erasing all that is below a place leaves the rest. -/
theorem node?_eraseBelow (t : FileTree) {p q : Place} (hp : p ≠ []) :
    (t.eraseBelow p).node? q = if p <+: q then none else t.node? q := by
  unfold node? eraseBelow
  by_cases hq : q = []
  · subst hq
    simp [hp]
  · have hpq : p.isPrefixOf q = decide (p <+: q) := by
      rw [Bool.eq_iff_iff, List.isPrefixOf_iff_prefix, decide_eq_true_iff]
    by_cases h : p <+: q <;> cases ht : t.nodes.get? q <;> simp [hq, h, ht, hpq]

/-- Erasing all that is inside a place leaves the place and the rest. -/
theorem node?_eraseInside (t : FileTree) {p q : Place} :
    (t.eraseInside p).node? q = if p <+: q ∧ q ≠ p then none else t.node? q := by
  unfold node? eraseInside
  by_cases hq : q = []
  · subst hq
    have hp : ¬(p <+: [] ∧ [] ≠ p) := fun h => h.2 (List.prefix_nil.1 h.1).symm
    rw [if_neg hp]
    rfl
  · have hpq : p.isPrefixOf q = decide (p <+: q) := by
      rw [Bool.eq_iff_iff, List.isPrefixOf_iff_prefix, decide_eq_true_iff]
    have hkeep : (!(p.isPrefixOf q && decide (q ≠ p))) = !decide (p <+: q ∧ q ≠ p) := by
      rw [hpq, Bool.decide_and]
    rw [if_neg hq, if_neg hq, Dictionary.get?_filter, hkeep]
    by_cases h : p <+: q ∧ q ≠ p
    · rw [if_pos h]
      cases t.nodes.get? q <;> simp [h.1, h.2]
    · rw [if_neg h]
      cases t.nodes.get? q <;> simp only [Option.filter_none, Option.filter_some, h,
        decide_false, Bool.not_false, if_true]

end FileTree

end CommandRelay
