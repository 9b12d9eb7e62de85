import ContentLayers.MsgPack.Value

/-!
# Types with a MessagePack form

`read?` is as lenient as a feed may be: numbers of any wire form that fit, text as binary data, and
binary data as a list of bytes.
-/

namespace ContentLayers.MsgPack

class Payload (α : Type) where
  write : α → Value
  read? : Value → Option α

namespace Payload

instance : Payload Value := ⟨id, some⟩

instance : Payload String where
  write := .text
  read? v := v.bytes?.bind Bytes.text?

instance : Payload Bool where
  write := .bool
  read?
    | .bool b => some b
    | _ => none

/-- An integer type that covers `lo` to `hi`. -/
abbrev ofRange {α : Type} (lo hi : Int) (toInt : α → Int) (ofInt : Int → α) : Payload α where
  write a := .integer (toInt a)
  read? v := v.integer?.bind fun i => if lo ≤ i ∧ i ≤ hi then some (ofInt i) else none

instance : Payload UInt8 := ofRange 0 0xFF (·.toNat) (.ofNat ·.toNat)
instance : Payload UInt16 := ofRange 0 0xFFFF (·.toNat) (.ofNat ·.toNat)
instance : Payload UInt32 := ofRange 0 0xFFFFFFFF (·.toNat) (.ofNat ·.toNat)
instance : Payload UInt64 := ofRange 0 0xFFFFFFFFFFFFFFFF (·.toNat) (.ofNat ·.toNat)
instance : Payload Int16 := ofRange (-0x8000) 0x7FFF (·.toInt) .ofInt
instance : Payload Int32 := ofRange (-0x80000000) 0x7FFFFFFF (·.toInt) .ofInt

instance : Payload Binary32 where
  write := .single
  read?
    | .single x => some x
    | .double bits => some (.ofBinary64 bits)
    | v => v.integer?.map .ofInt

/-- The unsigned values of some bytes. -/
def ofBytes (bs : Bytes) : List Value := bs.map fun b => .uint (.ofNat b.toNat)

instance {α : Type} [Payload α] : Payload (List α) where
  write as := .array (as.map write)
  read?
    | .array items => items.mapM read?
    | .bin bs => (ofBytes bs).mapM read?
    | _ => none

/-- A pair is an array of exactly two, or the first two bytes of binary data. -/
instance {α : Type} [Payload α] : Payload (α × α) where
  write p := .array [write p.1, write p.2]
  read? v :=
    let pair (a b : Value) : Option (α × α) := (read? a).bind fun x => (read? b).map (x, ·)
    match v with
    | .array [a, b] => pair a b
    | .bin (a :: b :: _) => pair (.uint (.ofNat a.toNat)) (.uint (.ofNat b.toNat))
    | _ => none

/-- A finite choice, written as its position among the values. -/
abbrev numbered {α : Type} [DecidableEq α] (values : List α) : Payload α where
  write a := .integer (values.idxOf a)
  read? v := (read? v : Option UInt8).bind fun n => values[n.toNat]?

end Payload

/-- Bytes that are binary data and not a list of numbers. -/
structure Blob where
  bytes : Bytes
  deriving DecidableEq, Repr, Inhabited

instance : Payload Blob where
  write b := .bin b.bytes
  read?
    | .bin bs | .str bs => some ⟨bs⟩
    | .array items => (items.mapM Payload.read?).map Blob.mk
    | _ => none

end ContentLayers.MsgPack
