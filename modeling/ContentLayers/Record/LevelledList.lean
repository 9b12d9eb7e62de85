import ContentLayers.Record.Basic

/-!
# Levelled lists

Lists of ids from which one is drawn for an actor of some level.
-/

namespace ContentLayers

open MsgPack

structure LevelledEntry where
  id : String
  level : Int16
  deriving DecidableEq, Repr, Inhabited

def LevelledEntry.shape : Shape LevelledEntry where
  columns := [.optional "id" String, .optional "level" Int16]
  toRow e := (e.id, e.level, ())
  ofRow | (id, level, ()) => { id, level }

instance : Payload LevelledEntry := LevelledEntry.shape.payload

structure LevelledList where
  id : String
  flags : UInt32
  /-- The chance in percent that the list yields nothing. -/
  chanceNone : UInt8
  items : List LevelledEntry
  deriving DecidableEq, Repr, Inhabited

instance : Record LevelledList where
  shape :=
    { columns := [.optional "id" String, .optional "flags" UInt32, .optional "chance_none" UInt8,
        .optional "items" (List LevelledEntry)]
      toRow r := (r.id, r.flags, r.chanceNone, r.items, ())
      ofRow | (id, flags, chanceNone, items, ()) => { id, flags, chanceNone, items } }
  id := (·.id)

end ContentLayers
