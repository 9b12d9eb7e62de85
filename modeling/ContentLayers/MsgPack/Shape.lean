import ContentLayers.MsgPack.Payload

/-!
# Shapes

A shape lists the columns of a structure. Written, it is a map from column names in order; read, it
is such a map in any order, or an array of the cells.
-/

namespace ContentLayers.MsgPack

structure Column where
  name : String
  Cell : Type
  payload : Payload Cell
  /-- What an absent cell stands for; a required column has none. -/
  fallback : Option Cell

namespace Column

def optional (name : String) (α : Type) [p : Payload α] [Inhabited α] : Column :=
  ⟨name, α, p, some default⟩

def required (name : String) (α : Type) [p : Payload α] : Column := ⟨name, α, p, none⟩

end Column

@[reducible] def Row : List Column → Type
  | [] => Unit
  | c :: cs => c.Cell × Row cs

namespace Row

def write : (cs : List Column) → Row cs → List (Value × Value)
  | [], _ => []
  | c :: cs, (cell, row) => (.text c.name, c.payload.write cell) :: write cs row

/-- Reads the cells one by one; a cell that is not there takes its column's fallback. -/
def read? : (cs : List Column) → List (Option Value) → Option (Row cs)
  | [], _ => some ()
  | c :: cs, cells =>
    let cell := match cells.head?.join with
      | some v => c.payload.read? v
      | none => c.fallback
    cell.bind fun cell => (read? cs cells.tail).map (cell, ·)

end Row

structure Shape (α : Type) where
  columns : List Column
  toRow : α → Row columns
  ofRow : Row columns → α

namespace Shape

/-- The column a map key addresses, if any, by name or by position. The outer option is none for a
key of a type that no structure has. -/
def address (names : List String) : Value → Option (Option Nat)
  | .str bs | .bin bs => some (names.findIdx? fun name => Bytes.ofText name == bs)
  | .uint n => some (if n.toNat < names.length then some n.toNat else none)
  | _ => none

/-- The cell that the addressed pairs give to a column, which may be addressed once. -/
def cellAt (addressed : List (Option Nat × Value)) (i : Nat) : Option (Option Value) :=
  match addressed.filter (·.1 == some i) with
  | [] => some none
  | [cell] => some (some cell.2)
  | _ => none

def cells? (names : List String) : Value → Option (List (Option Value))
  | .map pairs =>
    (pairs.mapM fun pair => (address names pair.1).map (·, pair.2)).bind fun addressed =>
      (List.range names.length).mapM (cellAt addressed)
  | .array items => if items.length ≤ names.length then some (items.map some) else none
  | .bin bs => some ((Payload.ofBytes (bs.take names.length)).map some)
  | _ => none

variable {α : Type}

def names (s : Shape α) : List String := s.columns.map (·.name)

def write (s : Shape α) (a : α) : Value := .map (Row.write s.columns (s.toRow a))

def read? (s : Shape α) (v : Value) : Option α :=
  (cells? s.names v).bind fun cells => (Row.read? s.columns cells).map s.ofRow

abbrev payload (s : Shape α) : Payload α := ⟨s.write, s.read?⟩

end Shape

end ContentLayers.MsgPack
