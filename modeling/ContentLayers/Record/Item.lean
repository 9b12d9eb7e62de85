import ContentLayers.Record.Basic

/-!
# Items

What can be placed in the world and, the activators apart, carried away.
-/

namespace ContentLayers

open MsgPack

structure Activator where
  id : String
  name : String
  model : String
  script : String
  deriving DecidableEq, Repr, Inhabited

instance : Record Activator where
  shape :=
    { columns := [.optional "id" String, .optional "name" String, .optional "model" String,
        .optional "script" String]
      toRow r := (r.id, r.name, r.model, r.script, ())
      ofRow | (id, name, model, script, ()) => { id, name, model, script } }
  id := (·.id)

inductive ApparatusKind where
  | mortarPestle
  | alembic
  | calcinator
  | retort
  deriving DecidableEq, Repr, Inhabited

instance : Payload ApparatusKind := .numbered [.mortarPestle, .alembic, .calcinator, .retort]

structure Apparatus where
  id : String
  name : String
  model : String
  icon : String
  script : String
  kind : ApparatusKind
  quality : Binary32
  weight : Binary32
  value : Int32
  deriving DecidableEq, Repr, Inhabited

instance : Record Apparatus where
  shape :=
    { columns := [.optional "id" String, .optional "name" String, .optional "model" String,
        .optional "icon" String, .optional "script" String, .optional "kind" ApparatusKind,
        .optional "quality" Binary32, .optional "weight" Binary32, .optional "value" Int32]
      toRow r := (r.id, r.name, r.model, r.icon, r.script, r.kind, r.quality, r.weight, r.value, ())
      ofRow | (id, name, model, icon, script, kind, quality, weight, value, ()) =>
              { id, name, model, icon, script, kind, quality, weight, value } }
  id := (·.id)

structure Book where
  id : String
  name : String
  model : String
  icon : String
  text : String
  /-- The skill that the first reading raises. -/
  skill : Int32
  scroll : Bool
  weight : Binary32
  value : Int32
  deriving DecidableEq, Repr, Inhabited

instance : Record Book where
  shape :=
    { columns := [.optional "id" String, .optional "name" String, .optional "model" String,
        .optional "icon" String, .optional "text" String, .optional "skill" Int32,
        .optional "scroll" Bool, .optional "weight" Binary32, .optional "value" Int32]
      toRow r := (r.id, r.name, r.model, r.icon, r.text, r.skill, r.scroll, r.weight, r.value, ())
      ofRow | (id, name, model, icon, text, skill, scroll, weight, value, ()) =>
              { id, name, model, icon, text, skill, scroll, weight, value } }
  id := (·.id)

structure Miscellaneous where
  id : String
  name : String
  model : String
  icon : String
  isKey : Bool
  weight : Binary32
  value : Int32
  deriving DecidableEq, Repr, Inhabited

instance : Record Miscellaneous where
  shape :=
    { columns := [.optional "id" String, .optional "name" String, .optional "model" String,
        .optional "icon" String, .optional "is_key" Bool, .optional "weight" Binary32,
        .optional "value" Int32]
      toRow r := (r.id, r.name, r.model, r.icon, r.isKey, r.weight, r.value, ())
      ofRow | (id, name, model, icon, isKey, weight, value, ()) =>
              { id, name, model, icon, isKey, weight, value } }
  id := (·.id)

structure Weapon where
  id : String
  name : String
  model : String
  kind : Int16
  weight : Binary32
  value : Int32
  health : UInt16
  speed : Binary32
  reach : Binary32
  chop : UInt8 × UInt8
  slash : UInt8 × UInt8
  thrust : UInt8 × UInt8
  deriving DecidableEq, Repr, Inhabited

instance : Record Weapon where
  shape :=
    { columns := [.optional "id" String, .optional "name" String, .optional "model" String,
        .optional "kind" Int16, .optional "weight" Binary32, .optional "value" Int32,
        .optional "health" UInt16, .optional "speed" Binary32, .optional "reach" Binary32,
        .optional "chop" (UInt8 × UInt8), .optional "slash" (UInt8 × UInt8),
        .optional "thrust" (UInt8 × UInt8)]
      toRow r := (r.id, r.name, r.model, r.kind, r.weight, r.value, r.health, r.speed, r.reach,
        r.chop, r.slash, r.thrust, ())
      ofRow
        | (id, name, model, kind, weight, value, health, speed, reach, chop, slash, thrust, ()) =>
          { id, name, model, kind, weight, value, health, speed, reach, chop, slash, thrust } }
  id := (·.id)

end ContentLayers
