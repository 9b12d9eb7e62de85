import ContentLayers.MsgPack.Head

/-!
# Encoding and decoding MessagePack

Decoding takes the first value of its input and leaves the rest. Arrays, maps and extensions may
nest `maxNesting` deep.
-/

namespace ContentLayers.MsgPack

def maxNesting : Nat := 1023

namespace Value

mutual

def encode : Value → Bytes
  | .nil => Head.nil.write
  | .bool b => (Head.bool b).write
  | .uint n => (Head.uint n).write
  | .int i => (Head.int i).write
  | .single x => (Head.single x).write
  | .double bits => (Head.double bits).write
  | .str bs => (Head.str bs.length).write ++ bs
  | .bin bs => (Head.bin bs.length).write ++ bs
  | .array items => (Head.array items.length).write ++ encodeItems items
  | .map pairs => (Head.map pairs.length).write ++ encodePairs pairs
  | .ext type bs => (Head.ext type bs.length).write ++ bs

def encodeItems : List Value → Bytes
  | [] => []
  | v :: vs => encode v ++ encodeItems vs

def encodePairs : List (Value × Value) → Bytes
  | [] => []
  | (k, v) :: kvs => encode k ++ (encode v ++ encodePairs kvs)

end

/-- Runs a step `n` times, each on what the one before left over; `done` holds earlier results,
latest first. -/
def times {α : Type} (step : Bytes → Option (α × Bytes)) :
    Nat → List α → Bytes → Option (List α × Bytes)
  | 0, done, bs => some (done.reverse, bs)
  | n + 1, done, bs =>
    match step bs with
    | none => none
    | some (a, rest) => times step n (a :: done) rest

/-- Two values in a row. -/
def both {α : Type} (step : Bytes → Option (α × Bytes)) (bs : Bytes) :
    Option ((α × α) × Bytes) :=
  match step bs with
  | none => none
  | some (k, rest) => (step rest).map fun (v, rest) => ((k, v), rest)

/-- Reads one value whose arrays, maps and extensions nest at most `levels` deep. -/
def read? : Nat → Bytes → Option (Value × Bytes)
  | levels, bs =>
    match Head.read? bs with
    | none => none
    | some (head, rest) =>
      match head, levels with
      | .nil, _ => some (.nil, rest)
      | .bool b, _ => some (.bool b, rest)
      | .uint n, _ => some (.uint n, rest)
      | .int i, _ => some (.int i, rest)
      | .single x, _ => some (.single x, rest)
      | .double bits, _ => some (.double bits, rest)
      | .str size, _ => (Bytes.split? size rest).map fun (bs, rest) => (.str bs, rest)
      | .bin size, _ => (Bytes.split? size rest).map fun (bs, rest) => (.bin bs, rest)
      | .array count, levels + 1 =>
        (times (read? levels) count [] rest).map fun (items, rest) => (.array items, rest)
      | .map count, levels + 1 =>
        (times (both (read? levels)) count [] rest).map fun (pairs, rest) => (.map pairs, rest)
      | .ext type size, _ + 1 =>
        (Bytes.split? size rest).map fun (bs, rest) => (.ext type bs, rest)
      | .array _, 0 | .map _, 0 | .ext _ _, 0 => none

/-- The first value of a byte string; what follows it is not looked at. -/
def decode? (bs : Bytes) : Option Value := (read? maxNesting bs).map (·.1)

end Value

end ContentLayers.MsgPack
