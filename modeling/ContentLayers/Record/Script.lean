import ContentLayers.Record.Basic

/-!
# Scripts and sounds

Compiled scripts, the scripts that start with a game, and sound sources.
-/

namespace ContentLayers

open MsgPack

structure Script where
  id : String
  numShorts : UInt32
  numLongs : UInt32
  numFloats : UInt32
  bytecode : Blob
  text : String
  deriving DecidableEq, Repr, Inhabited

instance : Record Script where
  shape :=
    { columns := [.optional "id" String, .optional "num_shorts" UInt32,
        .optional "num_longs" UInt32, .optional "num_floats" UInt32, .optional "bytecode" Blob,
        .optional "text" String]
      toRow r := (r.id, r.numShorts, r.numLongs, r.numFloats, r.bytecode, r.text, ())
      ofRow | (id, numShorts, numLongs, numFloats, bytecode, text, ()) =>
              { id, numShorts, numLongs, numFloats, bytecode, text } }
  id := (·.id)

structure StartScript where
  id : String
  script : String
  deriving DecidableEq, Repr, Inhabited

instance : Record StartScript where
  shape :=
    { columns := [.optional "id" String, .optional "script" String]
      toRow r := (r.id, r.script, ())
      ofRow | (id, script, ()) => { id, script } }
  id := (·.id)

structure Sound where
  id : String
  sound : String
  volume : UInt8
  minRange : UInt8
  maxRange : UInt8
  deriving DecidableEq, Repr, Inhabited

instance : Record Sound where
  shape :=
    { columns := [.optional "id" String, .optional "sound" String, .optional "volume" UInt8,
        .optional "min_range" UInt8, .optional "max_range" UInt8]
      toRow r := (r.id, r.sound, r.volume, r.minRange, r.maxRange, ())
      ofRow | (id, sound, volume, minRange, maxRange, ()) =>
              { id, sound, volume, minRange, maxRange } }
  id := (·.id)

end ContentLayers
