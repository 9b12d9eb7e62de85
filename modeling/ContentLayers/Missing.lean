import ContentLayers.Kind

/-!
# Missing records

Ids that no record stands behind, in a look-up and inside a record.
-/

namespace ContentLayers

/-- A look-up of an id that no live record has. -/
structure NotFound where
  kind : Kind
  id : String
  deriving DecidableEq, Repr

def NotFound.message (e : NotFound) : String := s!"{e.kind.name} record '{e.id}' not found"

/-- A reference to an id that no record has. -/
structure Dangling where
  ownerKind : Kind
  owner : String
  target : String
  deriving DecidableEq, Repr

end ContentLayers
