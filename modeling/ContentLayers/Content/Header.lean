import ContentLayers.Record.Basic

/-!
# File headers

Who made a content file, and the files that it was made against.
-/

namespace ContentLayers

open MsgPack

structure Master where
  name : String
  size : UInt64
  deriving DecidableEq, Repr, Inhabited

def Master.shape : Shape Master where
  columns := [.required "name" String, .required "size" UInt64]
  toRow m := (m.name, m.size, ())
  ofRow | (name, size, ()) => { name, size }

instance : Payload Master := Master.shape.payload

structure FileHeader where
  author : String
  description : String
  masters : List Master
  deriving DecidableEq, Repr, Inhabited

def FileHeader.shape : Shape FileHeader where
  columns := [.required "author" String, .required "description" String,
    .optional "masters" (List Master)]
  toRow h := (h.author, h.description, h.masters, ())
  ofRow | (author, description, masters, ()) => { author, description, masters }

instance : Payload FileHeader := FileHeader.shape.payload

end ContentLayers
