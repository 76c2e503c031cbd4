import CommandRelay.Path.FileName
import CommandRelay.Proofs.Files.Walking
import CommandRelay.Proofs.Path.Segments

/-!
# Names along a path

A path is walked along its pieces, the segments that are not empty.  A name put behind a directory
is walked behind the pieces of the directory, and the directories above a path are walked along the
first of its pieces, if single dots are left out.

## Main definitions

* `Path.pieces` — the segments that are not empty.
* `Path.IsPath` — texts that the system takes for paths.
* `Path.Roomy` — paths behind which every name can be put.

## Main results

* `Path.ofPath_eq_ok` — the way that a path describes.
* `Path.ofPath_join` — the way of a name behind a directory.
* `Path.ofPath_lineage` — the ways of the directories above a path.
-/

namespace CommandRelay.Path

/-- The segments of a path that are not empty. -/
def pieces (p : List Char) : List (List Char) := (p.splitOn '/').filter fun s => s != []

/-- An empty path has no pieces. -/
@[simp] lemma pieces_nil : pieces [] = [] := rfl

/-- A slash between two texts keeps their pieces apart. -/
lemma pieces_append_slash (a b : List Char) : pieces (a ++ '/' :: b) = pieces a ++ pieces b := by
  rw [pieces, List.splitOn_append_cons_self, List.filter_append]
  rfl

/-- A text without a slash is one piece. -/
lemma pieces_of_noSlash {s : List Char} (hne : s ≠ []) (hs : '/' ∉ s) : pieces s = [s] := by
  rw [pieces, List.splitOn_eq_singleton hs]
  simp [hne]

/-- Segments that are joined by slashes are the pieces again. -/
lemma pieces_intercalate {segs : List (List Char)} (h : ∀ s ∈ segs, s ≠ [] ∧ '/' ∉ s) :
    pieces (['/'].intercalate segs) = segs := by
  by_cases hsegs : segs = []
  · rw [hsegs]
    rfl
  · rw [pieces, List.splitOn_intercalate '/' (fun s hs => (h s hs).2) hsegs, List.filter_eq_self]
    exact fun s hs => by simpa using (h s hs).1

/-- **The way that a path describes.** -/
lemma ofPath_eq_ok {cwd : Place} {path : String} {w : Way} :
    Way.ofPath cwd path = .ok w ↔ '\x00' ∉ path.toList ∧ path.toList ≠ [] ∧
      path.utf8ByteSize < Way.maxPath ∧ w = {
        start := if isAbsolute path.toList then [] else cwd
        names := (pieces path.toList).map String.ofList
        slash := path.toList.getLast? = some '/' } := by
  unfold Way.ofPath
  dsimp only
  by_cases hnul : '\x00' ∈ path.toList
  · rw [if_pos hnul]
    exact ⟨nofun, fun h => absurd hnul h.1⟩
  rw [if_neg hnul]
  by_cases hempty : path.toList.isEmpty = true
  · rw [if_pos hempty]
    exact ⟨nofun, fun h => absurd (List.isEmpty_iff.1 hempty) h.2.1⟩
  rw [if_neg hempty]
  by_cases hlong : Way.maxPath ≤ path.utf8ByteSize
  · rw [if_pos hlong]
    exact ⟨nofun, fun h => absurd hlong (Nat.not_le.2 h.2.2.1)⟩
  rw [if_neg hlong, Except.ok.injEq]
  exact ⟨fun h => ⟨hnul, fun hnil => hempty (List.isEmpty_iff.2 hnil), Nat.not_le.1 hlong, h.symm⟩,
    fun h => h.2.2.2.symm⟩

/-- A text that the system takes for a path. -/
structure IsPath (path : String) : Prop where
  noNul : '\x00' ∉ path.toList
  ne_nil : path.toList ≠ []
  short : path.utf8ByteSize < Way.maxPath

/-- A path describes a way just if it is a text that the system takes for one. -/
lemma exists_way_iff {cwd : Place} {path : String} :
    (∃ w, Way.ofPath cwd path = .ok w) ↔ IsPath path := by
  constructor
  · rintro ⟨w, hw⟩
    obtain ⟨hnul, hne, hshort, -⟩ := ofPath_eq_ok.1 hw
    exact ⟨hnul, hne, hshort⟩
  · intro h
    exact ⟨_, ofPath_eq_ok.2 ⟨h.noNul, h.ne_nil, h.short, rfl⟩⟩

/-- What the names on a way are made of. -/
lemma mem_names {cwd : Place} {path : String} {w : Way} (hw : Way.ofPath cwd path = .ok w)
    {name : String} (hname : name ∈ w.names) :
    name.toList ≠ [] ∧ '/' ∉ name.toList ∧ '\x00' ∉ name.toList := by
  obtain ⟨hnul, -, -, rfl⟩ := ofPath_eq_ok.1 hw
  obtain ⟨piece, hpiece, rfl⟩ := List.mem_map.1 hname
  obtain ⟨hmem, hne⟩ := List.mem_filter.1 hpiece
  rw [String.toList_ofList]
  exact ⟨by simpa using hne, slash_notMem_piece _ piece hmem,
    fun hc => hnul (Text.mem_of_mem_splitOn hmem hc)⟩

/-! ## Names behind a directory -/

/-- A text without a slash is a relative path. -/
lemma isAbsolute_of_noSlash {s : List Char} (h : '/' ∉ s) : isAbsolute s = false := by
  cases s with
  | nil => rfl
  | cons c rest =>
    have hc : c ≠ '/' := fun hc => h (hc ▸ List.mem_cons_self)
    simp [isAbsolute, hc]

/-- A name is put behind a slash, with the pieces of the directory before it. -/
lemma toList_join {dir name : String} (hdir : dir.toList ≠ []) (hslash : '/' ∉ name.toList) :
    ∃ front, (join dir name).toList = front ++ '/' :: name.toList ∧ front <+: dir.toList ∧
      pieces front = pieces dir.toList ∧
      isAbsolute (front ++ '/' :: name.toList) = isAbsolute dir.toList := by
  have hrelative := isAbsolute_of_noSlash hslash
  have hempty : dir.isEmpty = false := by
    rw [← Bool.not_eq_true, String.isEmpty_iff]
    intro h
    exact hdir (by simp [h])
  rw [join, hrelative, hempty]
  by_cases hlast : dir.toList.getLast? = some '/'
  · obtain ⟨front, hfront⟩ := List.getLast?_eq_some_iff.1 hlast
    refine ⟨front, ?_, ?_, ?_, ?_⟩
    · simp [hfront]
    · exact hfront ▸ List.prefix_append front ['/']
    · rw [hfront, pieces_append_slash, pieces_nil, List.append_nil]
    · rw [hfront]
      cases front <;> rfl
  · refine ⟨dir.toList, ?_, List.prefix_refl _, rfl, ?_⟩
    · simp [hlast, String.toList_append]
    · cases hchars : dir.toList with
      | nil => exact absurd hchars hdir
      | cons c rest => rfl

/-- **The way of a name behind a directory**, if it is not too long. -/
lemma ofPath_join {cwd : Place} {dir name : String} {w : Way} (hdir : Way.ofPath cwd dir = .ok w)
    (hname : name ≠ "") (hslash : '/' ∉ name.toList) (w' : Way) :
    Way.ofPath cwd (join dir name) = .ok w' ↔ '\x00' ∉ name.toList ∧
      (join dir name).utf8ByteSize < Way.maxPath ∧ w' = ⟨w.start, w.names ++ [name], false⟩ := by
  obtain ⟨hnul, hne, -, rfl⟩ := ofPath_eq_ok.1 hdir
  have hchars : name.toList ≠ [] := fun h => hname (String.toList_eq_nil_iff.1 h)
  obtain ⟨front, hjoin, hfront, hpieces, habsolute⟩ := toList_join hne hslash
  have hnul_iff : '\x00' ∈ (join dir name).toList ↔ '\x00' ∈ name.toList := by
    have hnot : '\x00' ∉ front := fun h => hnul (hfront.subset h)
    simp [hjoin, hnot]
  have hlast : (join dir name).toList.getLast? ≠ some '/' := by
    rw [hjoin, List.getLast?_append_of_ne_nil _ (by simp)]
    intro h
    exact hslash (List.mem_of_getLast? (by rwa [List.getLast?_cons_of_ne_nil hchars] at h))
  rw [ofPath_eq_ok, hnul_iff]
  rw [hjoin, habsolute, pieces_append_slash, hpieces, pieces_of_noSlash hchars hslash, ← hjoin]
  simp only [hlast, decide_false, List.map_append, List.map_singleton, String.ofList_toList]
  have hsome : (join dir name).toList ≠ [] := by simp [hjoin]
  exact ⟨fun h => ⟨h.1, h.2.2⟩, fun h => ⟨h.1, hsome, h.2⟩⟩

/-- Every name that a directory can hold can be put behind a path. -/
def Roomy (path : String) : Prop := path.utf8ByteSize + 1 + Way.maxName < Way.maxPath

/-- A name behind a directory is longer than both by a slash at most. -/
lemma utf8ByteSize_join_le (dir name : String) :
    (join dir name).utf8ByteSize ≤ dir.utf8ByteSize + 1 + name.utf8ByteSize := by
  unfold join
  split_ifs
  · omega
  · rw [String.utf8ByteSize_append]
    omega
  · rw [String.utf8ByteSize_append, String.utf8ByteSize_append]
    exact Nat.le_refl _

/-- How long the path of a name is depends on how long the name is. -/
lemma utf8ByteSize_join_congr (dir : String) {x y : String} (hx : '/' ∉ x.toList)
    (hy : '/' ∉ y.toList) (hsize : x.utf8ByteSize = y.utf8ByteSize) :
    (join dir x).utf8ByteSize = (join dir y).utf8ByteSize := by
  rw [join, join, isAbsolute_of_noSlash hx, isAbsolute_of_noSlash hy]
  split_ifs <;> simp only [String.utf8ByteSize_append, hsize]

/-- A name behind another one comes behind a slash. -/
lemma join_join (dir : String) {x y : String} (hx : '/' ∉ x.toList) (hne : x ≠ "")
    (hy : '/' ∉ y.toList) : join (join dir x) y = join dir x ++ "/" ++ y := by
  have hchars : x.toList ≠ [] := fun h => hne (String.toList_eq_nil_iff.1 h)
  have hlast : (join dir x).toList.getLast? ≠ some '/' := by
    have hxlast : x.toList.getLast? ≠ some '/' := fun h => hx (List.mem_of_getLast? h)
    have hfront : ∀ front : String, (front ++ x).toList.getLast? = x.toList.getLast? :=
        fun front => by
      rw [String.toList_append, List.getLast?_append_of_ne_nil _ hchars]
    rw [join]
    split_ifs
    · exact hxlast
    · rwa [hfront]
    · rwa [hfront]
  have hempty : (join dir x).isEmpty = false := by
    rw [← Bool.not_eq_true, String.isEmpty_iff]
    intro hnil
    rw [join] at hnil
    split_ifs at hnil <;> simp_all
  rw [join, isAbsolute_of_noSlash hy, hempty]
  simp [hlast]

/-- There is room for every name behind a directory with room. -/
lemma Roomy.join_lt {dir name : String} (h : Roomy dir) (hname : name.utf8ByteSize ≤ Way.maxName) :
    (join dir name).utf8ByteSize < Way.maxPath := by
  have hjoin := utf8ByteSize_join_le dir name
  unfold Roomy at h
  omega

/-! ## Directories above a path -/

/-- A segment that means something is one of the path's and is not empty. -/
lemma mem_significant {segs : List (List Char)} {s : List Char} (h : s ∈ significant segs) :
    s ∈ segs ∧ s ≠ [] := by
  cases segs with
  | nil => cases h
  | cons first rest =>
    rcases List.mem_append.1 h with hfirst | hrest
    · by_cases hnil : first = []
      · simp [hnil] at hfirst
      · obtain rfl : s = first := by simpa [hnil] using hfirst
        exact ⟨List.mem_cons_self, hnil⟩
    · obtain ⟨hmem, hs⟩ := List.mem_filter.1 hrest
      exact ⟨List.mem_cons_of_mem _ hmem, by simpa using (Bool.and_eq_true_iff.1 hs).1⟩

/-- Only empty segments and single dots mean nothing. -/
lemma filter_significant (segs : List (List Char)) :
    (significant segs).filter (· ≠ ['.']) =
      (segs.filter fun s => s != []).filter (· ≠ ['.']) := by
  cases segs with
  | nil => rfl
  | cons first rest =>
    have hrest : (rest.filter fun s => s != [] && s != ['.']).filter (· ≠ ['.']) =
        (rest.filter fun s => s != []).filter (· ≠ ['.']) := by
      rw [List.filter_filter, List.filter_filter]
      exact List.filter_congr fun s _ => by by_cases hs : s = ['.'] <;> simp [hs]
    by_cases hnil : first = []
    · rw [significant, if_pos hnil, List.nil_append, hrest]
      simp [hnil]
    · rw [significant, if_neg hnil, List.filter_append, hrest, ← List.filter_append]
      simp [hnil]

/-- Names without single dots are the segments without them. -/
lemma bare_map_ofList (segs : List (List Char)) :
    FileTree.bare (segs.map String.ofList) = (segs.filter (· ≠ ['.'])).map String.ofList := by
  have hdot : ∀ s : List Char, String.ofList s = "." ↔ s = ['.'] := fun s =>
    ⟨fun h => by simpa using congrArg String.toList h, fun h => h ▸ rfl⟩
  rw [FileTree.bare, List.filter_map]
  congr 1
  exact List.filter_congr fun s _ => by simp [hdot]

/-- The segments of a path that mean something, without single dots, are its pieces. -/
lemma bare_significant (p : List Char) :
    FileTree.bare ((significant (p.splitOn '/')).map String.ofList) =
      FileTree.bare ((pieces p).map String.ofList) := by
  rw [bare_map_ofList, bare_map_ofList, filter_significant]
  rfl

section Segments

variable {absolute : Bool} {segs : List (List Char)} (hsegs : ∀ s ∈ segs, s ≠ [] ∧ '/' ∉ s)

include hsegs

/-- The path of segments has these pieces. -/
lemma pieces_ofSegments : pieces (ofSegments absolute segs).toList = segs := by
  rw [ofSegments, String.toList_ofList]
  cases absolute with
  | false => exact pieces_intercalate hsegs
  | true =>
    have hfront : ['/'] ++ ['/'].intercalate segs = [] ++ '/' :: ['/'].intercalate segs := rfl
    rw [if_pos rfl, hfront, pieces_append_slash, pieces_nil, List.nil_append,
      pieces_intercalate hsegs]

/-- The path of segments starts at the root just if it is to. -/
lemma isAbsolute_ofSegments (h : absolute = false → segs ≠ []) :
    isAbsolute (ofSegments absolute segs).toList = absolute := by
  rw [ofSegments, String.toList_ofList]
  cases absolute with
  | true => rfl
  | false =>
    obtain ⟨first, rest, rfl⟩ := List.exists_cons_of_ne_nil (h rfl)
    obtain ⟨hne, hslash⟩ := hsegs first List.mem_cons_self
    obtain ⟨c, cs, rfl⟩ := List.exists_cons_of_ne_nil hne
    have hc : c ≠ '/' := fun heq => hslash (heq ▸ List.mem_cons_self)
    cases rest <;> simp [isAbsolute, hc, List.intercalate_cons_cons]

end Segments

/-- The first segments of a path that mean something are walked along from where its way starts. -/
lemma ofPath_take {cwd : Place} {p : String} {n : Nat} {w w' : Way} (hw : Way.ofPath cwd p = .ok w)
    (hn : n < (significant (p.toList.splitOn '/')).length)
    (hfirst : n = 0 → isAbsolute p.toList = true)
    (hw' : Way.ofPath cwd (ofSegments (isAbsolute p.toList)
      ((significant (p.toList.splitOn '/')).take n)) = .ok w') :
    w'.start = w.start ∧
      w'.names = ((significant (p.toList.splitOn '/')).take n).map String.ofList := by
  obtain ⟨-, -, -, rfl⟩ := ofPath_eq_ok.1 hw
  obtain ⟨-, -, -, rfl⟩ := ofPath_eq_ok.1 hw'
  set segs := significant (p.toList.splitOn '/') with hsegs
  have hall : ∀ s ∈ segs.take n, s ≠ [] ∧ '/' ∉ s := by
    intro s hs
    obtain ⟨hmem, hne⟩ := mem_significant (List.mem_of_mem_take hs)
    exact ⟨hne, slash_notMem_piece _ s hmem⟩
  have habsolute : isAbsolute (ofSegments (isAbsolute p.toList) (segs.take n)).toList =
      isAbsolute p.toList := by
    refine isAbsolute_ofSegments hall fun hrelative hnil => ?_
    rcases List.take_eq_nil_iff.1 hnil with hzero | hnil
    · rw [hfirst hzero] at hrelative
      cases hrelative
    · simp [hnil] at hn
  exact ⟨by simp only [habsolute], by simp only [pieces_ofSegments hall]⟩

/-- The segments of a path that mean something are the names on its way, but for single dots. -/
lemma bare_names {cwd : Place} {p : String} {w : Way} (hw : Way.ofPath cwd p = .ok w) :
    FileTree.bare ((significant (p.toList.splitOn '/')).map String.ofList) =
      FileTree.bare w.names := by
  obtain ⟨-, -, -, rfl⟩ := ofPath_eq_ok.1 hw
  exact bare_significant _

/-- **The ways of the directories above a path** start where its way does and go along the first of
its names, if single dots are left out. -/
lemma ofPath_lineage {cwd : Place} {p q : String} {w w' : Way} (hw : Way.ofPath cwd p = .ok w)
    (hq : q ∈ lineage p) (hw' : Way.ofPath cwd q = .ok w') :
    w'.start = w.start ∧ ∃ rest, FileTree.bare w.names = FileTree.bare w'.names ++ rest := by
  rcases List.mem_cons.1 hq with rfl | hq
  · rw [hw] at hw'
    cases hw'
    exact ⟨rfl, [], (List.append_nil _).symm⟩
  obtain ⟨n, hn, hsome⟩ := List.mem_filterMap.1 hq
  split at hsome
  · cases hsome
  next hfirst =>
  obtain rfl := Option.some.inj hsome
  obtain ⟨hstart, hnames⟩ := ofPath_take hw (by simpa using hn) (by simpa using hfirst) hw'
  refine ⟨hstart, FileTree.bare (((significant (p.toList.splitOn '/')).drop n).map String.ofList),
    ?_⟩
  rw [hnames, ← bare_names hw, ← FileTree.bare_append, ← List.map_append, List.take_append_drop]

/-- Only the first of the segments that mean something can be a single dot. -/
lemma significant_concat_dot {segs init : List (List Char)}
    (h : significant segs = init ++ [['.']]) :
    init = [] := by
  cases segs with
  | nil => simp [significant] at h
  | cons first rest =>
    rw [significant] at h
    rcases List.eq_nil_or_concat (rest.filter fun s => s != [] && s != ['.']) with hnil | ⟨l, s, hl⟩
    · rw [hnil, List.append_nil] at h
      split_ifs at h
      · simp at h
      · exact (List.append_eq_singleton_iff.1 h.symm).elim And.left fun h => by simp at h
    · rw [hl, List.concat_eq_append, ← List.append_assoc] at h
      obtain ⟨-, hs⟩ := List.append_inj' h rfl
      obtain rfl : s = ['.'] := by simpa using hs
      have hmem : ['.'] ∈ rest.filter fun s => s != [] && s != ['.'] := hl ▸ by simp
      simpa using (List.mem_filter.1 hmem).2

/-- **The way of the directory that a path stands in** goes along the names before the last one, but
for single dots; the current directory has the empty path there.

**Proof sketch.** The segments that mean something give the same names but for dots.  Since the last
name is no dot, the last segment is this name, and the segments before it are the names before it.
If there are none and the path is relative, the directory is the current one.  Otherwise the
directory above has the path of those segments, which is not empty, and its way is that of the first
segments (`ofPath_take`). -/
lemma ofPath_parent {cwd : Place} {p name : String} {w : Way} {front : List String}
    (hw : Way.ofPath cwd p = .ok w) (hnames : w.names = front ++ [name]) (hdot : name ≠ ".") :
    ∃ q, parent? p = some q ∧ (q = "" ∧ w.start = cwd ∧ FileTree.bare front = [] ∨
      q ≠ "" ∧ ∀ w', Way.ofPath cwd q = .ok w' →
        w'.start = w.start ∧ FileTree.bare w'.names = FileTree.bare front) := by
  have hbare := bare_names hw
  rw [hnames, FileTree.bare_append, FileTree.bare_cons hdot, FileTree.bare_nil] at hbare
  have hway := ofPath_eq_ok.1 hw
  set segs := significant (p.toList.splitOn '/') with hsegs
  obtain hnil | ⟨init, last, hlast⟩ := List.eq_nil_or_concat segs
  · simp [hnil] at hbare
  rw [List.concat_eq_append] at hlast
  -- the last segment is no dot, so it is the last name and the segments before it are the front
  have hne : String.ofList last ≠ "." := by
    intro heq
    obtain rfl : last = ['.'] := by simpa using congrArg String.toList heq
    rw [hlast, significant_concat_dot (hsegs.symm.trans hlast)] at hbare
    simp [FileTree.bare] at hbare
  rw [hlast, List.map_append, FileTree.bare_append, List.map_singleton, FileTree.bare_cons hne,
    FileTree.bare_nil] at hbare
  obtain ⟨hinit, -⟩ := List.append_inj' hbare rfl
  have hparent : parent? p = some (ofSegments (isAbsolute p.toList) init) := by
    simp [parent?, ← hsegs, hlast]
  refine ⟨_, hparent, ?_⟩
  have htake : init = segs.take init.length := by rw [hlast, List.take_left]
  by_cases hcurrent : init = [] ∧ isAbsolute p.toList = false
  · obtain ⟨rfl, hrelative⟩ := hcurrent
    refine .inl ⟨?_, ?_, hinit.symm⟩
    · rw [hrelative]
      rfl
    · simp [hway.2.2.2, hrelative]
  · refine .inr ⟨fun hempty => hcurrent ?_, fun w' hw' => ?_⟩
    · -- a path that is empty is relative and has no segments
      have hall : ∀ s ∈ init, s ≠ [] ∧ '/' ∉ s := by
        intro s hs
        obtain ⟨hmem, hsome⟩ := mem_significant (hsegs ▸ hlast ▸ List.mem_append_left _ hs)
        exact ⟨hsome, slash_notMem_piece _ s hmem⟩
      have hpieces := @pieces_ofSegments (isAbsolute p.toList) init hall
      rw [hempty, String.toList_empty, pieces_nil] at hpieces
      refine ⟨hpieces.symm, ?_⟩
      rw [← hpieces] at hempty
      cases habsolute : isAbsolute p.toList with
      | false => rfl
      | true => simp [habsolute, ofSegments] at hempty
    · rw [htake] at hw'
      obtain ⟨hstart, hnames'⟩ := ofPath_take hw (by simp [← hsegs, hlast])
        (fun hzero => by
          by_contra hrelative
          exact hcurrent ⟨List.eq_nil_of_length_eq_zero hzero, by simpa using hrelative⟩) hw'
      exact ⟨hstart, by rw [hnames', ← hsegs, ← htake, hinit]⟩

end CommandRelay.Path
