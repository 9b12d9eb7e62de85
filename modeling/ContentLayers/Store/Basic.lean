import ContentLayers.Chunk.Basic
import ContentLayers.Missing
import ContentLayers.Table
import ContentLayers.Text.Quoted

/-!
# The store

One table for each declared kind, in the order of declaration, and the indices derived from them.
-/

namespace ContentLayers

/-- The table of one kind. -/
structure Shelf where
  kind : Kind
  table : Table kind.Carrier

namespace Shelf

def new (kind : Kind) : Shelf := ⟨kind, .empty⟩

def live (s : Shelf) : Nat := s.table.live

def ids (s : Shelf) : List String := s.table.ids

def contains (s : Shelf) (id : String) : Bool := s.table.contains id

/-- Decodes and writes a record; also gives its id. -/
def load (s : Shelf) (c : Chunk) (file : Nat) : Shelf × Except StreamError (String × Outcome) :=
  match (decodePayload c.payload : Except StreamError s.kind.Carrier) with
  | .error e => (s, .error e)
  | .ok record =>
    let (table, outcome) := s.table.upsert record c.isDeleted (some file)
    (⟨s.kind, table⟩, .ok (Record.id record, outcome))

/-- The table, when the shelf is of the kind. -/
def table? (s : Shelf) (kind : Kind) : Option (Table kind.Carrier) :=
  if h : s.kind = kind then some (h ▸ s.table) else none

end Shelf

structure Indices where
  /-- The live ids of each kind in order, ASCII case apart. -/
  sorted : List (Kind × List String)
  /-- The kind that owns each folded id. -/
  owners : Std.ExtTreeMap String Kind
  /-- The value of each setting, by folded name. -/
  settings : Std.ExtTreeMap String Variant
  dangling : List Dangling

structure Store where
  shelves : List Shelf
  indices : Indices
  /-- Whether the indices still describe the tables. -/
  current : Bool

/-- A kind used against its declaration. -/
inductive Misuse where
  | reserved
  | taken (tag : Tag) (holder : Kind)
  | undeclared (kind : Kind)
  deriving DecidableEq, Repr

def Misuse.message : Misuse → String
  | .reserved => s!"{Kind.infoTag} is reserved for dialogue infos"
  | .taken tag holder => s!"record tag {tag} is already declared by {holder.name}"
  | .undeclared kind => s!"record kind {kind.name} ({kind.tag}) is not declared in this store"

namespace Indices

def empty : Indices := ⟨[], ∅, ∅, []⟩

/-- The ids of the kind with a tag. -/
def sortedIds (i : Indices) (tag : Tag) : List String :=
  ((i.sorted.find? (·.1.tag == tag)).map (·.2)).getD []

end Indices

namespace Store

/-- A store with the built-in kinds declared. -/
def new : Store := ⟨Kind.builtins.map Shelf.new, .empty, false⟩

instance : Inhabited Store := ⟨new⟩

def needsSetUp (s : Store) : Bool := !s.current

def shelf? (s : Store) (tag : Tag) : Option Shelf := s.shelves.find? (·.kind.tag == tag)

/-- The table of a kind, if that kind is the one declared with its tag. -/
def table? (s : Store) (kind : Kind) : Option (Table kind.Carrier) :=
  (s.shelf? kind.tag).bind (·.table? kind)

/-- The table of a kind; empty when the kind is not declared. -/
def table (s : Store) (kind : Kind) : Table kind.Carrier := (s.table? kind).getD .empty

/-- Puts a shelf in the place of the shelf with its tag. -/
def setShelf (s : Store) (shelf : Shelf) : Store :=
  { s with shelves := s.shelves.map fun old =>
      if old.kind.tag == shelf.kind.tag then shelf else old }

/-- Adds a table for a kind. Declaring a kind again changes nothing; a second kind with its tag is
refused. -/
def declare (s : Store) (kind : Kind) : Store × Except Misuse Unit :=
  if kind.tag = Kind.infoTag then (s, .error .reserved)
  else match s.shelf? kind.tag with
    | some shelf =>
      (s, if shelf.kind = kind then .ok () else .error (.taken kind.tag shelf.kind))
    | none => ({ s with shelves := s.shelves ++ [.new kind], current := false }, .ok ())

/-- The table of a kind that must be declared. -/
def get (s : Store) (kind : Kind) : Except Misuse (Table kind.Carrier) :=
  match s.table? kind with
  | some table => .ok table
  | none => .error (.undeclared kind)

/-- Changes the table of a kind that must be declared. The indices are stale from then on, and also
when the kind is refused. -/
def modify {β : Type} (s : Store) (kind : Kind)
    (change : Table kind.Carrier → Table kind.Carrier × β) : Store × Except Misuse β :=
  let stale := { s with current := false }
  match s.table? kind with
  | some table =>
    let (table, result) := change table
    (stale.setShelf ⟨kind, table⟩, .ok result)
  | none => (stale, .error (.undeclared kind))

/-- The live ids of the kind with a tag. -/
def idsOf (s : Store) (tag : Tag) : List String := ((s.shelf? tag).map Shelf.ids).getD []

/-- The first referenceable kind that holds a live record with the id. -/
def scan (s : Store) (id : String) : Option Kind :=
  (s.shelves.find? fun shelf => shelf.kind.referenceable && shelf.contains id).map (·.kind)

/-- The referenceable kind that owns a live id. -/
def find (s : Store) (id : String) : Option Kind :=
  if s.current then s.indices.owners[fold id]? else s.scan id

/-- The value of a game setting when the indices were last derived. -/
def setting (s : Store) (name : String) : Option Variant := s.indices.settings[fold name]?

def inspectShelf (shelf : Shelf) : String :=
  s!"KindSummary \x7b tag: {shelf.kind.tag.inspect}, kind: {Text.quoted shelf.kind.name}, " ++
    s!"live: {shelf.live} \x7d"

/-- The store as one line: its kinds with their counts, and whether the indices are current. -/
def inspect (s : Store) : String :=
  let kinds := String.intercalate ", " (s.shelves.map inspectShelf)
  s!"RecordStore \x7b kinds: [{kinds}], indices_current: {s.current} \x7d"

end Store

end ContentLayers
