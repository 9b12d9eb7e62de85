import ContentLayers.Feed

/-!
# Reading records

Takes the announced number of records off a byte string one at a time. An error comes again on every
further call, since it moves nothing.
-/

namespace ContentLayers

structure Reader where
  name : String
  /-- The bytes not read yet. -/
  rest : Bytes
  /-- The records still to come. -/
  left : Nat
  total : Nat
  deriving DecidableEq, Repr

namespace Reader

/-- The next record, if there is one, and the reader after the call. -/
def next (r : Reader) : Reader × Except StreamError (Option Chunk) :=
  match r.left with
  | 0 => (r, if r.rest.isEmpty then .ok none else .error (.trailingBytes r.rest.length))
  | left + 1 =>
    match Chunk.read r.rest with
    | .error e => (r, .error e)
    | .ok (c, rest) => ({ r with rest, left }, .ok (some c))

/-- Everything that the reader delivers from here on. -/
def feed (r : Reader) : Feed :=
  let (records, rest, failure) := Chunk.split r.left r.rest
  { name := r.name
    announced := some r.total
    records
    failure := match failure with
      | some e => some e
      | none => if rest.isEmpty then none else some (.trailingBytes rest.length) }

end Reader

end ContentLayers
