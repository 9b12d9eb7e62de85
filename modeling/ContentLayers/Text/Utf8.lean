import ContentLayers.Bytes

/-!
# Lossy UTF-8

Reading bytes as text where each maximal invalid run becomes one replacement character.
-/

namespace ContentLayers.Text

/-- The ranges in which the bytes after a lead byte must lie, or none when no character starts so.
-/
def continuations (lead : UInt8) : Option (List (UInt8 × UInt8)) :=
  let any : UInt8 × UInt8 := (0x80, 0xBF)
  if lead < 0x80 then some []
  else if lead < 0xC2 then none
  else if lead < 0xE0 then some [any]
  else if lead == 0xE0 then some [(0xA0, 0xBF), any]
  else if lead == 0xED then some [(0x80, 0x9F), any]
  else if lead < 0xF0 then some [any, any]
  else if lead == 0xF0 then some [(0x90, 0xBF), any, any]
  else if lead < 0xF4 then some [any, any, any]
  else if lead == 0xF4 then some [(0x80, 0x8F), any, any]
  else none

/-- The longest run of bytes that lie in the ranges one by one. -/
def inRanges : List (UInt8 × UInt8) → Bytes → Bytes
  | (lo, hi) :: ranges, b :: bs => if lo ≤ b && b ≤ hi then b :: inRanges ranges bs else []
  | _, _ => []

/-- The code point that a lead byte and its continuation bytes spell. -/
def codePoint (lead : UInt8) (tail : Bytes) : Nat :=
  let top := match tail.length with
    | 0 => lead.toNat
    | 1 => lead.toNat - 0xC0
    | 2 => lead.toNat - 0xE0
    | _ => lead.toNat - 0xF0
  tail.foldl (fun n b => n * 64 + b.toNat % 64) top

/-- The character at a lead byte, and how many of the following bytes belong to it. -/
def charAt (lead : UInt8) (rest : Bytes) : Char × Nat :=
  match continuations lead with
  | none => ('\uFFFD', 0)
  | some ranges =>
    let tail := inRanges ranges rest
    let whole := tail.length = ranges.length
    (if whole then Char.ofNat (codePoint lead tail) else '\uFFFD', tail.length)

/-- Decodes from the byte that follows `skip` bytes already consumed. -/
def lossyChars : Nat → Bytes → List Char
  | _, [] => []
  | skip + 1, _ :: bs => lossyChars skip bs
  | 0, b :: bs =>
    let (c, used) := charAt b bs
    c :: lossyChars used bs

def lossy (bs : Bytes) : String := .ofList (lossyChars 0 bs)

end ContentLayers.Text
