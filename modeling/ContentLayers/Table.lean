import ContentLayers.Record.Basic
import ContentLayers.Roster

/-!
# Tables

The merged records of one kind. A deleted id keeps its place, so that a later write brings it back
there.
-/

namespace ContentLayers

structure Slot (α : Type) where
  record : α
  live : Bool
  /-- The content file that wrote the record last. -/
  origin : Option Nat

structure Table (α : Type) where
  slots : Roster (Slot α)
  /-- The number of live slots. -/
  live : Nat

/-- What a write did to a table. -/
inductive Outcome where
  | inserted
  | replaced (previous : Option Nat)
  | revived
  /-- The id is deleted now; `existed` is false when nothing was written for it before. -/
  | tombstoned (existed : Bool)
  deriving DecidableEq, Repr

namespace Table

variable {α : Type}

def empty : Table α := ⟨.empty, 0⟩

instance : Inhabited (Table α) := ⟨empty⟩

def isEmpty (t : Table α) : Bool := t.live == 0

/-- The live records in the order of their first mention. -/
def records (t : Table α) : List α := (t.slots.toList.filter (·.live)).map (·.record)

def search (t : Table α) (id : String) : Option α :=
  ((t.slots.find? id).filter (·.live)).map (·.record)

def contains (t : Table α) (id : String) : Bool := (t.search id).isSome

/-- Whether the id was seen and is deleted now. -/
def isTombstoned (t : Table α) (id : String) : Bool := (t.slots.find? id).any (!·.live)

def origin? (t : Table α) (id : String) : Option Nat := (t.slots.find? id).bind (·.origin)

variable [Record α]

def ids (t : Table α) : List String := t.records.map Record.id

def upsert (t : Table α) (record : α) (deleted : Bool) (origin : Option Nat) : Table α × Outcome :=
  let id := Record.id record
  match t.slots.find? id with
  | none =>
    let slots := t.slots.put id ⟨record, !deleted, origin⟩
    if deleted then (⟨slots, t.live⟩, .tombstoned false) else (⟨slots, t.live + 1⟩, .inserted)
  | some old =>
    let slots := t.slots.put id ⟨Record.inherit record old.record, !deleted, origin⟩
    match old.live, deleted with
    | true, true => (⟨slots, t.live - 1⟩, .tombstoned true)
    | false, true => (⟨slots, t.live⟩, .tombstoned true)
    | true, false => (⟨slots, t.live⟩, .replaced old.origin)
    | false, false => (⟨slots, t.live + 1⟩, .revived)

end Table

end ContentLayers
