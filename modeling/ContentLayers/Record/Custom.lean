import ContentLayers.Chunk.Tag
import ContentLayers.Record.Basic

/-!
# Custom kinds

Kinds of record that are declared by describing them: an id and any number of further cells, all of
them required. Some of the cells may stay when a record is replaced.
-/

namespace ContentLayers

open MsgPack

inductive CellType where
  | text
  | bool
  | uint8
  | uint16
  | uint32
  | uint64
  | int16
  | int32
  | single
  deriving DecidableEq, Repr

/-- A required column with cells of the type. -/
def CellType.column (name : String) : CellType → Column
  | .text => .required name String
  | .bool => .required name Bool
  | .uint8 => .required name UInt8
  | .uint16 => .required name UInt16
  | .uint32 => .required name UInt32
  | .uint64 => .required name UInt64
  | .int16 => .required name Int16
  | .int32 => .required name Int32
  | .single => .required name Binary32

structure CustomCell where
  name : String
  type : CellType
  /-- Whether a record hands the cell on to the one that replaces it. -/
  handedOn : Bool
  deriving DecidableEq, Repr

def CustomCell.column (cell : CustomCell) : Column := cell.type.column cell.name

structure CustomKind where
  /-- The number of the type of its records. Two kinds are different types even where they have
  everything else in common. -/
  type : Nat
  tag : Tag
  name : String
  referenceable : Bool
  cells : List CustomCell
  deriving DecidableEq, Repr

def CustomKind.columns (k : CustomKind) : List Column := k.cells.map CustomCell.column

/-- The cells of a newer record, but for those that the older one hands on. -/
def CustomCell.inherit : (cells : List CustomCell) → Row (cells.map column) →
    Row (cells.map column) → Row (cells.map column)
  | [], _, _ => ()
  | cell :: cells, (newer, later), (older, earlier) =>
    (if cell.handedOn then older else newer, inherit cells later earlier)

structure CustomRecord (k : CustomKind) where
  id : String
  cells : Row k.columns

instance (k : CustomKind) : Record (CustomRecord k) where
  shape :=
    { columns := .required "id" String :: k.columns
      toRow r := (r.id, r.cells)
      ofRow | (id, cells) => { id, cells } }
  id := (·.id)
  inherit newer older :=
    { newer with cells := CustomCell.inherit k.cells newer.cells older.cells }

end ContentLayers
