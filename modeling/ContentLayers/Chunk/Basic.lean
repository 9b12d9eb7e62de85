import ContentLayers.Chunk.Tag
import ContentLayers.MsgPack.Codec
import ContentLayers.MsgPack.Payload

/-!
# Chunks

A record in its frame: tag, flags and payload length in twelve little-endian bytes, then the
payload. `Chunk.split` cuts a byte string into frames; the frames it finds and the rest make up its
input.
-/

namespace ContentLayers

inductive StreamError where
  | truncatedHeader
  | truncatedPayload (expected : UInt32) (actual : Nat)
  | payloadTooLarge (size : Nat)
  | trailingBytes (count : Nat)
  | payloadDecode
  deriving DecidableEq, Repr

def StreamError.message : StreamError → String
  | .truncatedHeader => "chunk header smaller than 12 bytes"
  | .truncatedPayload expected actual =>
    s!"chunk payload truncated: header declared {expected} bytes but only {actual} remain"
  | .payloadTooLarge size => s!"payload of {size} bytes does not fit a chunk"
  | .trailingBytes count => s!"{count} bytes follow the last declared record"
  | .payloadDecode => "payload decode error"

/-- Reads a payload of a known type. -/
def decodePayload {α : Type} [MsgPack.Payload α] (bs : Bytes) : Except StreamError α :=
  match (MsgPack.Value.decode? bs).bind MsgPack.Payload.read? with
  | some a => .ok a
  | none => .error .payloadDecode

def encodePayload {α : Type} [MsgPack.Payload α] (a : α) : Bytes := (MsgPack.Payload.write a).encode

structure ChunkHeader where
  tag : Tag
  flags : UInt32
  length : UInt32
  deriving DecidableEq, Repr

namespace ChunkHeader

def size : Nat := 12

def encode (h : ChunkHeader) : Bytes :=
  h.tag.bytes ++ Bytes.ofNatLE 4 h.flags.toNat ++ Bytes.ofNatLE 4 h.length.toNat

/-- The header at the front and what follows it. -/
def read (bs : Bytes) : Except StreamError (ChunkHeader × Bytes) :=
  match Bytes.split? size bs with
  | none => .error .truncatedHeader
  | some (front, rest) =>
    .ok (⟨.ofBytes (front.take 4), .ofNat (Bytes.toNatLE ((front.drop 4).take 4)),
      .ofNat (Bytes.toNatLE (front.drop 8))⟩, rest)

end ChunkHeader

structure Chunk where
  tag : Tag
  flags : UInt32
  payload : Bytes
  deriving DecidableEq, Repr

namespace Chunk

def deletedFlag : UInt32 := 0x20

/-- Set on a record that must not be skipped. -/
def requiredFlag : UInt32 := 0x01

def isDeleted (c : Chunk) : Bool := c.flags &&& deletedFlag != 0

def isRequired (c : Chunk) : Bool := c.flags &&& requiredFlag != 0

/-- The flags of a record that is deleted, or of one that is not. -/
def flagsFor (deleted : Bool) : UInt32 := if deleted then deletedFlag else 0

/-- The bytes of a chunk. The header holds the length of the payload modulo 2^32. -/
def frame (c : Chunk) : Bytes :=
  (ChunkHeader.mk c.tag c.flags (.ofNat c.payload.length)).encode ++ c.payload

/-- The bytes of a chunk whose length the header can hold. -/
def encode (c : Chunk) : Except StreamError Bytes :=
  if c.payload.length < 0x100000000 then .ok c.frame else .error (.payloadTooLarge c.payload.length)

/-- The chunk at the front and what follows it. -/
def read (bs : Bytes) : Except StreamError (Chunk × Bytes) :=
  match ChunkHeader.read bs with
  | .error e => .error e
  | .ok (header, body) =>
    match Bytes.split? header.length.toNat body with
    | none => .error (.truncatedPayload header.length body.length)
    | some (payload, rest) => .ok (⟨header.tag, header.flags, payload⟩, rest)

/-- Chunks from the front, up to `limit` of them or to the first error, and what is left unread. -/
def split : Nat → Bytes → List Chunk × Bytes × Option StreamError
  | 0, bs => ([], bs, none)
  | limit + 1, bs =>
    match read bs with
    | .error e => ([], bs, some e)
    | .ok (c, rest) =>
      let (chunks, left) := split limit rest
      (c :: chunks, left)

/-- Chunks until nothing is left. A chunk is never empty, so the length of the input is limit
enough, and running out of input is no error. -/
def splitAll (bs : Bytes) : List Chunk × Bytes × Option StreamError :=
  let (chunks, rest, failure) := split bs.length bs
  (chunks, rest, if rest.isEmpty then none else failure)

end Chunk

end ContentLayers
