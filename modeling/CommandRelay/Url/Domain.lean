import CommandRelay.Text.Utf8
import CommandRelay.Url.Composition
import CommandRelay.Url.MappingTable
import CommandRelay.Url.Punycode
import CommandRelay.Url.ScriptTable

/-!
# Domain names

A domain name is folded to one form before it is compared: characters are replaced by those they
stand for, labels beyond ASCII are checked and written in ASCII, and ASCII letters are lower case
(UTS 46, without transitional processing and without limits on length).

## Main definitions

* `Domain.isForbidden` — ASCII characters that no domain may hold.
* `Domain.ofBytes?` — the ASCII form of a domain name, if it is one.
-/

namespace CommandRelay.Url.Domain

open Text

/-- ASCII characters that no domain name may hold. -/
def isForbidden (c : Char) : Bool :=
  c.toNat ≤ 0x20 || c.toNat = 0x7F ||
  c ∈ ['%', '#', '/', ':', '<', '>', '?', '@', '[', '\\', ']', '^', '|']

/-- Whether a character is ASCII. -/
def isAscii (c : Char) : Bool := c.toNat < 128

/-- What a character beyond ASCII stands for, if it may stand in a domain name. -/
def fold? (c : Char) : Option (List Char) :=
  let n := c.toNat
  match (foldedRanges.find? n).bind fun r => r.value.targets? r.lo n with
  | some image => some (image.map Char.ofNat)
  | none =>
    if validRanges.contains n then some [c]
    else if ignoredRanges.contains n then some []
    else none

/-- A whole domain name with every character replaced by what it stands for. -/
def foldAll? (s : List Char) : Option (List Char) :=
  if s.all isAscii then some (s.map Char.toLower)
  else ((s.mapM fold?).map List.flatten).map composed

/-! ## Rules for one label -/

/-- The joining type of a character. -/
def joining (c : Char) : JoiningType :=
  match joiningTypes.find? c.toNat with
  | some r => r.value
  | none => .nonJoining

/-- Whether the nearest character that is not transparent joins in one of the ways `ways`. -/
def joinsBy (ways : List JoiningType) (s : List Char) : Bool :=
  match s.dropWhile fun c => joining c == .transparent with
  | c :: _ => joining c ∈ ways
  | [] => false

/-- Whether every joiner stands where it has an effect: after a virama, and for the one that
keeps letters apart also between letters that would join.  `before` is what stands before,
reversed. -/
def joinersOk (before : List Char) : List Char → Bool
  | [] => true
  | c :: rest =>
    let afterVirama := before.head?.any fun b => combiningClass b.toNat == 9
    let ok :=
      if c.toNat = 0x200C then
        afterVirama ||
          (joinsBy [.leftJoining, .dualJoining] before &&
            joinsBy [.rightJoining, .dualJoining] rest)
      else if c.toNat = 0x200D then afterVirama
      else true
    ok && joinersOk (c :: before) rest

/-- The bidirectional class of a character. -/
def bidi (c : Char) : BidiClass :=
  match bidiClasses.find? c.toNat with
  | some r => r.value
  | none => .left

/-- Whether a label holds a character that is written from right to left, as no ASCII one is. -/
def isRightToLeft (label : List Char) : Bool :=
  label.any fun c => !isAscii c && bidi c ∈ [.right, .arabicLetter, .arabicNumber]

/-- The class of the last character that is not a nonspacing mark. -/
def lastClass? (label : List Char) : Option BidiClass :=
  ((label.reverse.map bidi).dropWhile (· == .nonspacingMark)).head?

/-- Whether the directions of a label's characters go together. -/
def directionsOk (label : List Char) : Bool :=
  let classes := label.map bidi
  match classes.head? with
  | none => true
  | some .left =>
    classes.all (· ∈ [.left, .europeanNumber, .europeanSeparator, .commonSeparator,
      .europeanTerminator, .otherNeutral, .boundaryNeutral, .nonspacingMark]) &&
    (lastClass? label).any (· ∈ [.left, .europeanNumber])
  | some first =>
    (first == .right || first == .arabicLetter) &&
    classes.all (· ∈ [.right, .arabicLetter, .arabicNumber, .europeanNumber, .europeanSeparator,
      .commonSeparator, .europeanTerminator, .otherNeutral, .boundaryNeutral,
      .nonspacingMark]) &&
    (lastClass? label).any (· ∈ [.right, .arabicLetter, .europeanNumber, .arabicNumber]) &&
    !(classes.contains .europeanNumber && classes.contains .arabicNumber)

/-- Whether a folded label beyond ASCII may stand in a domain name. -/
def labelOk (label : List Char) : Bool :=
  !(label.head?.any fun c => markRanges.contains c.toNat) && joinersOk [] label

/-- What marks a label that is written by `Punycode`. -/
def mark : List Char := ['x', 'n', '-', '-']

/-- The characters that a folded label stands for.  A marked label must be the written form of
characters that are folded already, some of them beyond ASCII. -/
def characters? (label : List Char) : Option (List Char) :=
  match after? mark label with
  | some written =>
    match Punycode.decode? written with
    | some cs =>
      if !cs.all isAscii && foldAll? cs == some cs && labelOk cs then some cs else none
    | none => none
  | none => if label.all isAscii || labelOk label then some label else none

/-- The ASCII form of a label. -/
def toAscii (cs : List Char) : List Char :=
  if cs.all isAscii then cs else mark ++ Punycode.encode cs

/-! ## Whole names -/

/-- The ASCII form of a domain name, if it is one. -/
def ofChars? (s : List Char) : Option (List Char) := do
  let folded ← foldAll? s
  let labels ← (folded.splitOn '.').mapM characters?
  if labels.any fun l => l.any fun c => isAscii c && isForbidden c then none
  else if labels.any isRightToLeft && !labels.all directionsOk then none
  else some (['.'].intercalate (labels.map toAscii))

/-- The ASCII form of the domain name that some bytes spell, if they spell one. -/
def ofBytes? (bytes : List UInt8) : Option (List Char) := do
  let s ← (symbols bytes).mapM id
  ofChars? s

end CommandRelay.Url.Domain
