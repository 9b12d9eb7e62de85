import ContentLayers.MsgPack.Value

/-!
# Heads of MessagePack values

The marker of a value with everything of fixed width behind it: the whole of a scalar, and the
length of anything else. Writing takes the shortest form; reading takes every form.
-/

namespace ContentLayers.MsgPack

inductive Head where
  | nil
  | bool (b : Bool)
  | uint (n : UInt64)
  | int (i : Int64)
  | single (x : Binary32)
  | double (bits : UInt64)
  | str (size : Nat)
  | bin (size : Nat)
  | array (count : Nat)
  | map (count : Nat)
  | ext (type : UInt8) (size : Nat)
  deriving Repr, DecidableEq

namespace Head

/-- A marker and a big-endian number of `width` bytes. -/
def tagged (marker : UInt8) (width n : Nat) : Bytes := marker :: Bytes.ofNatBE width n

def write : Head → Bytes
  | .nil => [0xC0]
  | .bool b => [if b then 0xC3 else 0xC2]
  | .uint n =>
    let n := n.toNat
    if n < 0x80 then [UInt8.ofNat n]
    else if n < 0x100 then tagged 0xCC 1 n
    else if n < 0x10000 then tagged 0xCD 2 n
    else if n < 0x100000000 then tagged 0xCE 4 n
    else tagged 0xCF 8 n
  | .int i =>
    let i := i.toInt
    if -0x20 ≤ i && i < 0 then [UInt8.ofNat (i + 0x100).toNat]
    else if -0x80 ≤ i && i < 0x80 then tagged 0xD0 1 (i % 0x100).toNat
    else if -0x8000 ≤ i && i < 0x8000 then tagged 0xD1 2 (i % 0x10000).toNat
    else if -0x80000000 ≤ i && i < 0x80000000 then tagged 0xD2 4 (i % 0x100000000).toNat
    else tagged 0xD3 8 (i % 0x10000000000000000).toNat
  | .single x => tagged 0xCA 4 x.bits.toNat
  | .double bits => tagged 0xCB 8 bits.toNat
  | .str size =>
    if size < 32 then [UInt8.ofNat (0xA0 + size)]
    else if size < 0x100 then tagged 0xD9 1 size
    else if size < 0x10000 then tagged 0xDA 2 size
    else tagged 0xDB 4 size
  | .bin size =>
    if size < 0x100 then tagged 0xC4 1 size
    else if size < 0x10000 then tagged 0xC5 2 size
    else tagged 0xC6 4 size
  | .array count =>
    if count < 16 then [UInt8.ofNat (0x90 + count)]
    else if count < 0x10000 then tagged 0xDC 2 count
    else tagged 0xDD 4 count
  | .map count =>
    if count < 16 then [UInt8.ofNat (0x80 + count)]
    else if count < 0x10000 then tagged 0xDE 2 count
    else tagged 0xDF 4 count
  | .ext type size =>
    if size = 1 then [0xD4, type]
    else if size = 2 then [0xD5, type]
    else if size = 4 then [0xD6, type]
    else if size = 8 then [0xD7, type]
    else if size = 16 then [0xD8, type]
    else if size < 0x100 then tagged 0xC7 1 size ++ [type]
    else if size < 0x10000 then tagged 0xC8 2 size ++ [type]
    else tagged 0xC9 4 size ++ [type]

/-- Reads a number of `width` bytes and makes a head of it. -/
def number? (width : Nat) (make : Nat → Head) (bs : Bytes) : Option (Head × Bytes) :=
  (Bytes.split? width bs).map fun (digits, rest) => (make (Bytes.toNatBE digits), rest)

/-- The signed number with the bits of `n`, of which there are `8 * width`. -/
def signed (width n : Nat) : Head :=
  let wrap := 1 <<< (8 * width)
  .int (.ofInt (if 2 * n < wrap then n else n - (wrap : Int)))

/-- Puts the type byte that follows into a head that waits for it. -/
def typed? (size : Nat) : Bytes → Option (Head × Bytes)
  | [] => none
  | type :: rest => some (.ext type size, rest)

def sizedExt? (width : Nat) (bs : Bytes) : Option (Head × Bytes) :=
  (Bytes.split? width bs).bind fun (digits, rest) => typed? (Bytes.toNatBE digits) rest

def read? : Bytes → Option (Head × Bytes)
  | [] => none
  | marker :: rest =>
    let n := marker.toNat
    if n < 0x80 then some (.uint (.ofNat n), rest)
    else if n < 0x90 then some (.map (n - 0x80), rest)
    else if n < 0xA0 then some (.array (n - 0x90), rest)
    else if n < 0xC0 then some (.str (n - 0xA0), rest)
    else if 0xE0 ≤ n then some (.int (.ofInt (n - 0x100)), rest)
    else match n with
      | 0xC0 => some (.nil, rest)
      | 0xC2 => some (.bool false, rest)
      | 0xC3 => some (.bool true, rest)
      | 0xC4 => number? 1 .bin rest
      | 0xC5 => number? 2 .bin rest
      | 0xC6 => number? 4 .bin rest
      | 0xC7 => sizedExt? 1 rest
      | 0xC8 => sizedExt? 2 rest
      | 0xC9 => sizedExt? 4 rest
      | 0xCA => number? 4 (fun n => .single ⟨.ofNat n⟩) rest
      | 0xCB => number? 8 (fun n => .double (.ofNat n)) rest
      | 0xCC => number? 1 (fun n => .uint (.ofNat n)) rest
      | 0xCD => number? 2 (fun n => .uint (.ofNat n)) rest
      | 0xCE => number? 4 (fun n => .uint (.ofNat n)) rest
      | 0xCF => number? 8 (fun n => .uint (.ofNat n)) rest
      | 0xD0 => number? 1 (signed 1) rest
      | 0xD1 => number? 2 (signed 2) rest
      | 0xD2 => number? 4 (signed 4) rest
      | 0xD3 => number? 8 (signed 8) rest
      | 0xD4 => typed? 1 rest
      | 0xD5 => typed? 2 rest
      | 0xD6 => typed? 4 rest
      | 0xD7 => typed? 8 rest
      | 0xD8 => typed? 16 rest
      | 0xD9 => number? 1 .str rest
      | 0xDA => number? 2 .str rest
      | 0xDB => number? 4 .str rest
      | 0xDC => number? 2 .array rest
      | 0xDD => number? 4 .array rest
      | 0xDE => number? 2 .map rest
      | 0xDF => number? 4 .map rest
      | _ => none

end Head

end ContentLayers.MsgPack
