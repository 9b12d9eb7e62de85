import ContentLayers.Chunk.Basic
import ContentLayers.Content.Header

/-!
# Writing content files

A content file is a preamble of sixteen bytes (magic, version, record count, header length), the
header, and the records in their frames.
-/

namespace ContentLayers

namespace Content

def magic : Bytes := [0x45, 0x53, 0x4D, 0x43]

def version : Nat := 1

def preambleSize : Nat := 16

def preamble (count headerSize : Nat) : Bytes :=
  magic ++ Bytes.ofNatLE 4 version ++ Bytes.ofNatLE 4 count ++ Bytes.ofNatLE 4 headerSize

end Content

/-- A content file in the making. -/
structure Draft where
  header : FileHeader
  records : Array Chunk
  deriving DecidableEq, Repr

namespace Draft

def new (header : FileHeader) : Draft := ⟨header, #[]⟩

/-- Adds a record at the end, unless it is too long for its frame. -/
def push (d : Draft) (c : Chunk) : Except StreamError Draft :=
  c.encode.map fun _ => { d with records := d.records.push c }

def pushAll (d : Draft) (cs : List Chunk) : Except StreamError Draft := cs.foldlM push d

/-- The number of records as the preamble holds it. -/
def count (d : Draft) : UInt32 := .ofNat d.records.size

/-- The records in their frames. -/
def frames (d : Draft) : Bytes := d.records.toList.flatMap Chunk.frame

/-- The finished file, unless its header is too long for the preamble. -/
def bytes? (d : Draft) : Option Bytes :=
  let header := encodePayload d.header
  if header.length < 0x100000000 then
    some (Content.preamble d.count.toNat header.length ++ header ++ d.frames)
  else none

end Draft

end ContentLayers
