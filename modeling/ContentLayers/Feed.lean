import ContentLayers.Chunk.Basic

/-!
# Feeds

What loading consumes: the records of one content file in order, and how the file ends.
-/

namespace ContentLayers

structure Feed where
  /-- The name used in messages. -/
  name : String
  /-- The number of records announced ahead of them. -/
  announced : Option Nat
  records : List Chunk
  /-- The error met after the last record; none at a proper end. -/
  failure : Option StreamError
  deriving DecidableEq, Repr

namespace Feed

/-- Chunks framed one after the other until nothing is left, with no count ahead of them. -/
def ofStream (name : String) (bs : Bytes) : Feed :=
  let (records, _, failure) := Chunk.splitAll bs
  { name, announced := none, records, failure }

end Feed

/-- Records held in memory, read in order from a cursor. -/
structure Buffer where
  name : String
  records : Array Chunk
  cursor : Nat
  deriving DecidableEq, Repr

namespace Buffer

def empty (name : String) : Buffer := ⟨name, #[], 0⟩

def push (b : Buffer) (c : Chunk) : Buffer := { b with records := b.records.push c }

/-- Delivers the record at the cursor; past the last record the cursor stays. -/
def next (b : Buffer) : Buffer × Option Chunk :=
  match b.records[b.cursor]? with
  | none => (b, none)
  | some c => ({ b with cursor := b.cursor + 1 }, some c)

def rewind (b : Buffer) : Buffer := { b with cursor := 0 }

def feed (b : Buffer) : Feed where
  name := b.name
  announced := some b.records.size
  records := b.records.toList.drop b.cursor
  failure := none

end Buffer

end ContentLayers
