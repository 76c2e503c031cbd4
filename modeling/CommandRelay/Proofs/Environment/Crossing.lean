import CommandRelay.Proofs.Environment.OptInList
import CommandRelay.Session.Plan
import Mathlib.Data.List.Basic
import Mathlib.Tactic.Common

/-!
# Which variables cross

The filter puts three lists of variables one behind the other, in which a name can occur more than
once.  What comes out is said here name by name: who asked for a variable by name gets its value, a
variable that always passes keeps its value, a proxy gets its new one, and nothing else crosses.

## Main definitions

* `OptIn.Names` — when a list names a variable; `OptIn.Asked` — when an environment asks for it.
* `EnvironmentFilter.Agree` — environments that differ at most in variables that cannot cross.

## Main results

* `OptIn.mem_ofEnvironment_iff` — the entries that are read are those that the list holds.
* `EnvironmentFilter.get?_build` — what crosses, name by name.
* `EnvironmentFilter.build_eq_of_agree` — nothing else has an influence.
* `EnvironmentFilter.crossing` — these together, down to the variables of a plan.
-/

namespace CommandRelay

/-! ## The opt-in list -/

namespace OptIn

/-- A list separated by colons names a variable if some entry is the name, with or without flags
after a slash. -/
def Names (list name : String) : Prop :=
  name ≠ "" ∧ '/' ∉ name.toList ∧ ∃ entry ∈ list.toList.splitOn ':',
    entry = name.toList ∨ ∃ flags, entry = name.toList ++ '/' :: flags

/-- An environment asks for a variable by name, in its list or, without one, in the older one. -/
def Asked (env : Environment) (name : String) : Prop :=
  ∃ list ∈ (env.get? listName).or (env.get? olderListName), Names list name

/-- An entry is read as a variable's name just if it is the name, with or without flags. -/
lemma ofPiece?_eq_some_iff {entry : List Char} {name : String} :
    (∃ e, ofPiece? entry = some e ∧ e.name = name) ↔
      name ≠ "" ∧ '/' ∉ name.toList ∧
        (entry = name.toList ∨ ∃ flags, entry = name.toList ++ '/' :: flags) := by
  simp only [ofPiece?_eq_some_iff_toChars]
  constructor
  · rintro ⟨⟨name, flags⟩, ⟨hname, hslash, rfl⟩, rfl⟩
    refine ⟨hname, hslash, ?_⟩
    cases flags with
    | none => exact .inl (by simp [toChars])
    | some flags => exact .inr ⟨flags.toList, rfl⟩
  · rintro ⟨hname, hslash, rfl | ⟨flags, rfl⟩⟩
    · exact ⟨⟨name, none⟩, ⟨hname, hslash, by simp [toChars]⟩, rfl⟩
    · exact ⟨⟨name, some (String.ofList flags)⟩, ⟨hname, hslash, by simp [toChars]⟩, rfl⟩

/-- **The entries** that are read from an environment have the names that it asks for. -/
lemma mem_ofEnvironment_iff {env : Environment} {name : String} :
    name ∈ (ofEnvironment env).map OptIn.name ↔ Asked env name := by
  rw [ofEnvironment, Asked]
  cases (env.get? listName).or (env.get? olderListName) with
  | none => simp
  | some list =>
    simp only [parse, List.mem_map, List.mem_filterMap, Option.mem_some_iff, exists_eq_left', Names]
    constructor
    · rintro ⟨e, ⟨entry, hentry, he⟩, hname⟩
      obtain ⟨hne, hslash, htext⟩ := ofPiece?_eq_some_iff.1 ⟨e, he, hname⟩
      exact ⟨hne, hslash, entry, hentry, htext⟩
    · rintro ⟨hne, hslash, entry, hentry, htext⟩
      obtain ⟨e, he, hname⟩ := ofPiece?_eq_some_iff.2 ⟨hne, hslash, htext⟩
      exact ⟨e, ⟨entry, hentry, he⟩, hname⟩

/-- The lists are gone through, entry by entry. -/
instance (env : Environment) (name : String) : Decidable (Asked env name) :=
  decidable_of_iff _ mem_ofEnvironment_iff

/-- Only the two lists decide what is asked for. -/
lemma asked_congr {env env' : Environment} (h : env.get? listName = env'.get? listName)
    (h' : env.get? olderListName = env'.get? olderListName) (name : String) :
    Asked env name ↔ Asked env' name := by
  rw [Asked, Asked, h, h']

end OptIn

namespace EnvironmentFilter

/-! ## Name by name -/

/-- Looking a name up among names with their values. -/
lemma lookupEntry_named (g : String → Option String) (names : List String) (k : String) :
    Dictionary.lookupEntry k (names.filterMap fun name => (g name).map fun v => (name, v)) =
      if k ∈ names then g k else none := by
  induction names with
  | nil => rfl
  | cons name names ih =>
    by_cases hk : k = name
    · subst hk
      cases hg : g k with
      | none => simp [hg, ih]
      | some v => simp [hg, Dictionary.lookupEntry]
    · cases hg : g name with
      | none => simp [hg, ih, hk]
      | some v => simp [hg, Dictionary.lookupEntry, ih, hk]

/-- The order of the names does not matter to the value that each one has. -/
lemma lookupEntry_reverse_named (g : String → Option String) (names : List String) (k : String) :
    Dictionary.lookupEntry k
        (names.filterMap fun name => (g name).map fun v => (name, v)).reverse =
      if k ∈ names then g k else none := by
  rw [← List.filterMap_reverse, lookupEntry_named]
  simp only [List.mem_reverse]

/-- The new value of a proxy that can be redirected. -/
def redirected? (f : EnvironmentFilter) (source : Environment) (direction : Direction)
    (name : String) : Option String :=
  (source.get? name).bind fun value => (Proxy.redirect f.gateway direction value).toOption

/-- The proxies are the redirected variables, name by name. -/
lemma proxies_eq (f : EnvironmentFilter) (source : Environment) (direction : Direction) :
    f.proxies source direction = proxyNames.filterMap fun name =>
      (f.redirected? source direction name).map fun v => (name, v) := by
  rw [proxies, present, List.filterMap_filterMap]
  refine List.filterMap_congr fun name _ => ?_
  rw [redirected?]
  cases source.get? name with
  | none => rfl
  | some value =>
    simp only [Option.map_some, Option.bind_some]
    cases Proxy.redirect f.gateway direction value <;> rfl

/-- No proxy passes unchanged by itself. -/
lemma notMem_alwaysPass_of_proxy : ∀ name ∈ proxyNames, name ∉ alwaysPass := by decide

/-- **What crosses**, name by name: a variable that is asked for by name or always passes has the
value that it has, a proxy has the new value if it has one, and no other variable crosses.

**Proof sketch.** The last one of the three lists that has the name decides.  A name that is asked
for and one that always passes have the same value in their lists, and no proxy always passes. -/
theorem get?_build (f : EnvironmentFilter) (source : Environment) (direction : Direction)
    (k : String) :
    (f.build source direction).get? k =
      if OptIn.Asked source k ∨ k ∈ alwaysPass then source.get? k
      else if k ∈ proxyNames then f.redirected? source direction k
      else none := by
  rw [build, Dictionary.get?_ofList, Dictionary.lastValue?, List.reverse_append,
    List.reverse_append, Dictionary.lookupEntry_append, Dictionary.lookupEntry_append, proxies_eq]
  simp only [present, lookupEntry_reverse_named, OptIn.mem_ofEnvironment_iff]
  by_cases hasked : OptIn.Asked source k
  · have hpermitted : OptIn.Asked source k ∨ k ∈ alwaysPass := .inl hasked
    simp only [if_pos hasked, if_pos hpermitted]
    cases hvalue : source.get? k with
    | some value => rfl
    | none => simp [redirected?, hvalue]
  · simp only [hasked, if_false, Option.none_or, false_or]
    by_cases hproxy : k ∈ proxyNames
    · simp [hproxy, notMem_alwaysPass_of_proxy k hproxy]
    · simp [hproxy]

/-! ## What has no influence -/

/-- Environments that differ at most in variables that cannot cross: they have the same opt-in
lists, and the same values of what the lists name, of what always passes and of the proxies. -/
structure Agree (source source' : Environment) : Prop where
  list : source.get? OptIn.listName = source'.get? OptIn.listName
  olderList : source.get? OptIn.olderListName = source'.get? OptIn.olderListName
  asked : ∀ k, OptIn.Asked source k → source.get? k = source'.get? k
  always : ∀ k ∈ alwaysPass, source.get? k = source'.get? k
  proxy : ∀ k ∈ proxyNames, source.get? k = source'.get? k

/-- **Nothing else** has an influence on what crosses. -/
lemma build_eq_of_agree (f : EnvironmentFilter) (direction : Direction)
    {source source' : Environment} (h : Agree source source') :
    f.build source direction = f.build source' direction := by
  refine Dictionary.ext_get? fun k => ?_
  rw [get?_build, get?_build]
  have hasked := OptIn.asked_congr h.list h.olderList k
  simp only [← hasked]
  split_ifs with hk hproxy
  · exact hk.elim (h.asked k) (h.always k)
  · rw [redirected?, redirected?, h.proxy k hproxy]
  · rfl

/-- A proxy has no influence on the other variables. -/
lemma get?_build_insert (f : EnvironmentFilter) (source : Environment) (direction : Direction)
    {proxy k : String} (hproxy : proxy ∈ proxyNames) (hk : k ≠ proxy) (value : String) :
    (f.build (source.insert proxy value) direction).get? k = (f.build source direction).get? k := by
  have hlist : OptIn.listName ≠ proxy := by
    rintro rfl
    exact absurd hproxy (by decide)
  have holder : OptIn.olderListName ≠ proxy := by
    rintro rfl
    exact absurd hproxy (by decide)
  have hother : ∀ name ≠ proxy, (source.insert proxy value).get? name = source.get? name :=
    fun name hname => by rw [Dictionary.get?_insert, if_neg hname]
  rw [get?_build, get?_build, redirected?, redirected?, hother k hk]
  simp only [OptIn.asked_congr (hother _ hlist) (hother _ holder) k]

/-- **The variables that cross.** Name by name, they are what `get?_build` says.  A proxy has no
influence on other variables, whether it can be redirected or not.  Environments that agree in what
can cross give the same variables to every plan with the same settings and options, and a plan that
inherits nothing has the variables that the options give, whatever the environment is.

**Proof sketch.** All of it is read off the variables name by name, since these determine an
environment. -/
theorem crossing (f : EnvironmentFilter) (source : Environment) (direction : Direction) :
    (∀ k, (f.build source direction).get? k =
      if OptIn.Asked source k ∨ k ∈ alwaysPass then source.get? k
      else if k ∈ proxyNames then
        (source.get? k).bind fun value => (Proxy.redirect f.gateway direction value).toOption
      else none) ∧
    (∀ proxy ∈ proxyNames, ∀ value, ∀ k ≠ proxy,
      (f.build (source.insert proxy value) direction).get? k =
        (f.build source direction).get? k) ∧
    (∀ source', Agree source source' → ∀ s argv argv' o t t' v v',
      (Plan.build s argv o source t v).env = (Plan.build s argv' o source' t' v').env) ∧
    ∀ s argv o t v, o.noInherit = true →
      (Plan.build s argv o source t v).env = Dictionary.ofList o.extraEnv := by
  refine ⟨get?_build f source direction, ?_, ?_, ?_⟩
  · intro proxy hproxy value k hk
    exact get?_build_insert f source direction hproxy hk value
  · intro source' hagree s argv argv' o t t' v v'
    simp only [Plan.build, Plan.environmentOf, build_eq_of_agree s.filter .toForeign hagree]
  · intro s argv o t v hinherit
    simp only [Plan.build, Plan.environmentOf, hinherit, if_true]
    rfl

/-- A secret that nobody asks for does not cross, and neither does its value have an influence; a
proxy that is no URL has none on the terminal's name. -/
theorem crossing_secret :
    let source : Environment := .ofList [("FERRYENV", "EDITOR/x:"), ("TOKEN", "1"), ("TERM", "vt")]
    let other : Environment := .ofList [("FERRYENV", "EDITOR/x:"), ("TOKEN", "2"), ("TERM", "vt")]
    let f : EnvironmentFilter := {}
    (f.build source .toForeign).get? "TOKEN" = none ∧
      (f.build (source.insert "HTTP_PROXY" "none") .toForeign).get? "TERM" =
        (f.build source .toForeign).get? "TERM" ∧
      (Plan.build {} ["env"] {} source {} ⟨"/", "/"⟩).env =
        (Plan.build {} ["env"] {} other {} ⟨"/", "/"⟩).env ∧
      (Plan.build {} ["env"] { noInherit := true } source {} ⟨"/", "/"⟩).env =
        Dictionary.empty := by
  intro source other f
  obtain ⟨hvalue, hproxy, hagree, hinherit⟩ := crossing f source .toForeign
  refine ⟨(hvalue "TOKEN").trans (by decide), hproxy _ (by decide) _ _ (by decide),
    hagree other ?_ .., hinherit _ _ _ _ _ rfl⟩
  have hasked : ∀ k, OptIn.Asked source k → k = "EDITOR" := by
    intro k hk
    rw [← OptIn.mem_ofEnvironment_iff] at hk
    exact List.mem_singleton.1 hk
  exact {
    list := by decide
    olderList := by decide
    asked := fun k hk => by rw [hasked k hk]; decide
    always := by decide
    proxy := by decide }

end EnvironmentFilter

end CommandRelay
