import ContentLayers.Record.Basic

/-!
# Actors

Creatures and characters, the classes of characters, and the spells they cast.
-/

namespace ContentLayers

open MsgPack

structure ActorClass where
  id : String
  name : String
  description : String
  attributes : Int32 × Int32
  specialization : Int32
  majorSkills : List Int32
  minorSkills : List Int32
  playable : Bool
  deriving DecidableEq, Repr, Inhabited

instance : Record ActorClass where
  shape :=
    { columns := [.optional "id" String, .optional "name" String, .optional "description" String,
        .optional "attributes" (Int32 × Int32), .optional "specialization" Int32,
        .optional "major_skills" (List Int32), .optional "minor_skills" (List Int32),
        .optional "playable" Bool]
      toRow r := (r.id, r.name, r.description, r.attributes, r.specialization, r.majorSkills,
        r.minorSkills, r.playable, ())
      ofRow | (id, name, description, attributes, specialization, majorSkills, minorSkills,
                playable, ()) =>
              { id, name, description, attributes, specialization, majorSkills, minorSkills,
                playable } }
  id := (·.id)

structure Creature where
  id : String
  name : String
  model : String
  script : String
  level : Int32
  health : Int32
  magicka : Int32
  fatigue : Int32
  gold : Int32
  deriving DecidableEq, Repr, Inhabited

instance : Record Creature where
  shape :=
    { columns := [.optional "id" String, .optional "name" String, .optional "model" String,
        .optional "script" String, .optional "level" Int32, .optional "health" Int32,
        .optional "magicka" Int32, .optional "fatigue" Int32, .optional "gold" Int32]
      toRow r := (r.id, r.name, r.model, r.script, r.level, r.health, r.magicka, r.fatigue, r.gold,
        ())
      ofRow | (id, name, model, script, level, health, magicka, fatigue, gold, ()) =>
              { id, name, model, script, level, health, magicka, fatigue, gold } }
  id := (·.id)

structure Npc where
  id : String
  name : String
  race : String
  /-- The id of an actor class; empty when there is none. -/
  profession : String
  faction : String
  head : String
  hair : String
  script : String
  level : Int16
  /-- Stats follow from class and level and are not stored. -/
  autocalc : Bool
  deriving DecidableEq, Repr, Inhabited

instance : Record Npc where
  shape :=
    { columns := [.optional "id" String, .optional "name" String, .optional "race" String,
        .optional "class" String, .optional "faction" String, .optional "head" String,
        .optional "hair" String, .optional "script" String, .optional "level" Int16,
        .optional "autocalc" Bool]
      toRow r := (r.id, r.name, r.race, r.profession, r.faction, r.head, r.hair, r.script, r.level,
        r.autocalc, ())
      ofRow | (id, name, race, profession, faction, head, hair, script, level, autocalc, ()) =>
              { id, name, race, profession, faction, head, hair, script, level, autocalc } }
  id := (·.id)

inductive SpellKind where
  | spell
  | ability
  | blight
  | disease
  | curse
  | power
  deriving DecidableEq, Repr, Inhabited

instance : Payload SpellKind := .numbered [.spell, .ability, .blight, .disease, .curse, .power]

structure SpellEffect where
  effect : Int16
  magnitudeMin : Int32
  magnitudeMax : Int32
  duration : Int32
  area : Int32
  deriving DecidableEq, Repr, Inhabited

def SpellEffect.shape : Shape SpellEffect where
  columns := [.optional "effect" Int16, .optional "magnitude_min" Int32,
    .optional "magnitude_max" Int32, .optional "duration" Int32, .optional "area" Int32]
  toRow e := (e.effect, e.magnitudeMin, e.magnitudeMax, e.duration, e.area, ())
  ofRow | (effect, magnitudeMin, magnitudeMax, duration, area, ()) =>
          { effect, magnitudeMin, magnitudeMax, duration, area }

instance : Payload SpellEffect := SpellEffect.shape.payload

structure Spell where
  id : String
  name : String
  kind : SpellKind
  cost : Int32
  effects : List SpellEffect
  deriving DecidableEq, Repr, Inhabited

instance : Record Spell where
  shape :=
    { columns := [.optional "id" String, .optional "name" String, .optional "kind" SpellKind,
        .optional "cost" Int32, .optional "effects" (List SpellEffect)]
      toRow r := (r.id, r.name, r.kind, r.cost, r.effects, ())
      ofRow | (id, name, kind, cost, effects, ()) => { id, name, kind, cost, effects } }
  id := (·.id)

end ContentLayers
