/-!
# Bytes that may not be text

Reading bytes as UTF-8 where some of them may belong to no character.  A piece of the reading is
either a character or a maximal part of one that is cut short or cannot continue.

## Main definitions

* `decodePieces` — all pieces of a byte list.
* `lossy` — the text with U+FFFD in place of each part that is no character.
* `symbols` — one place per character, and one empty place per byte that belongs to none.
-/

namespace CommandRelay.Text

/-- A character, or the number of bytes of a part that is none. -/
inductive Piece where
  | char (c : Char)
  | gap (bytes : Nat)
  deriving Repr, Inhabited

/-- Whether a byte continues a character. -/
def isContinuation (b : UInt8) : Bool := 0x80 ≤ b && b ≤ 0xBF

/-- The six bits that a continuation byte carries. -/
def continuationBits (b : UInt8) : Nat := b.toNat % 64

/-- The second bytes that may follow a leading byte, and how many bytes follow it in all. -/
def leadingByte? (b : UInt8) : Option (UInt8 × UInt8 × Nat) :=
  if 0xC2 ≤ b ∧ b ≤ 0xDF then some (0x80, 0xBF, 1)
  else if b = 0xE0 then some (0xA0, 0xBF, 2)
  else if b = 0xED then some (0x80, 0x9F, 2)
  else if 0xE1 ≤ b ∧ b ≤ 0xEF then some (0x80, 0xBF, 2)
  else if b = 0xF0 then some (0x90, 0xBF, 3)
  else if 0xF1 ≤ b ∧ b ≤ 0xF3 then some (0x80, 0xBF, 3)
  else if b = 0xF4 then some (0x80, 0x8F, 3)
  else none

/-- The first piece of the bytes `b :: rest`: its kind and how many bytes of `rest` it takes. -/
def firstPiece (b : UInt8) (rest : List UInt8) : Piece × Nat :=
  if b < 0x80 then (.char (Char.ofNat b.toNat), 0)
  else
    match leadingByte? b with
    | none => (.gap 1, 0)
    | some (lo, hi, more) =>
      match rest with
      | [] => (.gap 1, 0)
      | b1 :: rest1 =>
        if b1 < lo ∨ hi < b1 then (.gap 1, 0)
        else if more = 1 then
          (.char (Char.ofNat (b.toNat % 32 * 64 + continuationBits b1)), 1)
        else
          match rest1 with
          | [] => (.gap 2, 1)
          | b2 :: rest2 =>
            if !isContinuation b2 then (.gap 2, 1)
            else if more = 2 then
              (.char (Char.ofNat
                ((b.toNat % 16 * 64 + continuationBits b1) * 64 + continuationBits b2)), 2)
            else
              match rest2 with
              | [] => (.gap 3, 2)
              | b3 :: _ =>
                if !isContinuation b3 then (.gap 3, 2)
                else
                  (.char (Char.ofNat
                    (((b.toNat % 8 * 64 + continuationBits b1) * 64 + continuationBits b2) * 64 +
                      continuationBits b3)), 3)

/-- The bytes as characters and gaps, from left to right. -/
def decodePieces : List UInt8 → List Piece
  | [] => []
  | b :: rest =>
    let (piece, more) := firstPiece b rest
    piece :: decodePieces (rest.drop more)
termination_by bytes => bytes.length
decreasing_by simp only [List.length_drop, List.length_cons]; omega

/-- The text of the bytes, with U+FFFD for each gap. -/
def lossy (bytes : List UInt8) : String :=
  String.ofList ((decodePieces bytes).map fun
    | .char c => c
    | .gap _ => '\uFFFD')

/-- One place for each character, and one empty place for each byte of a gap. -/
def symbols (bytes : List UInt8) : List (Option Char) :=
  (decodePieces bytes).flatMap fun
    | .char c => [some c]
    | .gap n => List.replicate n none

/-- The bytes as text if they are UTF-8. -/
def ofBytes? (bytes : List UInt8) : Option String := String.fromUTF8? ⟨bytes.toArray⟩

/-- The UTF-8 bytes of a text. -/
def toBytes (s : String) : List UInt8 := s.toUTF8.data.toList

end CommandRelay.Text
