import ContentLayers.Text.Utf8

/-!
# Record tags

Four bytes that name a kind of record, shorter names padded with NUL.
-/

namespace ContentLayers

structure Tag where
  first : UInt8
  second : UInt8
  third : UInt8
  fourth : UInt8
  deriving DecidableEq, Repr, Inhabited

namespace Tag

def null : Tag := ⟨0, 0, 0, 0⟩

def ascii (a b c d : Char) : Tag := ⟨a.toUInt8, b.toUInt8, c.toUInt8, d.toUInt8⟩

/-- The first four bytes, padded with NUL. -/
def ofBytes (bs : Bytes) : Tag := ⟨bs.getD 0 0, bs.getD 1 0, bs.getD 2 0, bs.getD 3 0⟩

def bytes (t : Tag) : Bytes := [t.first, t.second, t.third, t.fourth]

/-- The tag as text without its padding, if anything is left. -/
def text? (t : Tag) : Option String :=
  let named := (t.bytes.reverse.dropWhile (· == 0)).reverse
  if named.isEmpty then none else some (Text.lossy named)

instance : ToString Tag := ⟨fun t => t.text?.getD "----"⟩

/-- How a tag is shown inside a dump of values. -/
def inspect (t : Tag) : String := s!"RecordTag({t})"

@[simp] theorem ofBytes_bytes (t : Tag) : ofBytes t.bytes = t := rfl

@[simp] theorem length_bytes (t : Tag) : t.bytes.length = 4 := rfl

end Tag

end ContentLayers
