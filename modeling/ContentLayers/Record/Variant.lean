import ContentLayers.Record.Basic

/-!
# Variants

The loosely typed values of game settings and globals.
-/

namespace ContentLayers

open MsgPack

inductive Variant where
  | none
  | int (n : Int32)
  | float (x : Binary32)
  | text (s : String)
  deriving DecidableEq, Repr, Inhabited

namespace Variant

def float? : Variant → Option Binary32
  | .float x => some x
  | .int n => some (.ofInt n.toInt)
  | _ => Option.none

def int? : Variant → Option Int32
  | .int n => some n
  | .float x => some x.toInt32
  | _ => Option.none

def text? : Variant → Option String
  | .text s => some s
  | _ => Option.none

/-- Equality as numbers and text; a NaN differs even from itself. -/
def same : Variant → Variant → Bool
  | .float x, .float y => x.same y
  | .float _, _ | _, .float _ => false
  | v, w => v == w

def caseNames : List String := ["None", "Int", "Float", "String"]

def write : Variant → Value
  | .none => .text "None"
  | .int n => .map [(.text "Int", Payload.write n)]
  | .float x => .map [(.text "Float", Payload.write x)]
  | .text s => .map [(.text "String", Payload.write s)]

/-- A case is named, or numbered, and paired with its content; the empty case may stand alone. -/
def read? : Value → Option Variant
  | .map [(key, content)] =>
    match (Shape.address caseNames key).join, content with
    | some 0, .nil => some .none
    | some 1, v => (Payload.read? v).map .int
    | some 2, v => (Payload.read? v).map .float
    | some 3, v => (Payload.read? v).map .text
    | _, _ => Option.none
  | key => if (Shape.address caseNames key).join = some 0 then some .none else Option.none

instance : Payload Variant := ⟨write, read?⟩

end Variant

structure GameSetting where
  id : String
  value : Variant
  deriving DecidableEq, Repr, Inhabited

instance : Record GameSetting where
  shape :=
    { columns := [.optional "id" String, .optional "value" Variant]
      toRow r := (r.id, r.value, ())
      ofRow | (id, value, ()) => { id, value } }
  id := (·.id)

structure GlobalVariable where
  id : String
  value : Variant
  deriving DecidableEq, Repr, Inhabited

instance : Record GlobalVariable where
  shape :=
    { columns := [.optional "id" String, .optional "value" Variant]
      toRow r := (r.id, r.value, ())
      ofRow | (id, value, ()) => { id, value } }
  id := (·.id)

end ContentLayers
