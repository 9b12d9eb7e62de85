import ContentLayers.MsgPack.Shape

/-!
# Records

What every kind of record has: a shape, an id, and what it keeps of the record that it replaces.
-/

namespace ContentLayers

class Record (α : Type) where
  shape : MsgPack.Shape α
  id : α → String
  /-- The newer record, with what the older one hands on; for most kinds that is nothing. -/
  inherit : α → α → α := fun newer _ => newer

instance (priority := low) {α : Type} [Record α] : MsgPack.Payload α := Record.shape.payload

end ContentLayers
