import ContentLayers.Content.Draft
import ContentLayers.Content.Reader

/-!
# Content files

The parts of a content file, found by its preamble. The records are not looked at before they are
read.
-/

namespace ContentLayers

/-- Why bytes are no content file. -/
inductive PreambleError where
  | tooSmall
  | noSignature
  | unsupportedVersion (version : Nat)
  | truncatedHeader
  | undecodableHeader (cause : StreamError)
  deriving DecidableEq, Repr

def PreambleError.chain : PreambleError → List String
  | .tooSmall => ["content file is too small to contain a preamble"]
  | .noSignature => ["content file missing ESMC signature"]
  | .unsupportedVersion version => [s!"unsupported content format version {version}"]
  | .truncatedHeader => ["content file truncated before end of header"]
  | .undecodableHeader cause => ["decoding file header", cause.message]

structure ContentFile where
  path : String
  /-- The name used in messages. -/
  name : String
  header : FileHeader
  count : Nat
  /-- The bytes behind the header. -/
  records : Bytes
  deriving DecidableEq, Repr

namespace ContentFile

def parse (path name : String) (bs : Bytes) : Except PreambleError ContentFile :=
  match Bytes.split? Content.preambleSize bs with
  | none => .error .tooSmall
  | some (preamble, body) =>
    let field (i : Nat) := Bytes.toNatLE ((preamble.drop (4 * i)).take 4)
    if preamble.take 4 ≠ Content.magic then .error .noSignature
    else if field 1 ≠ Content.version then .error (.unsupportedVersion (field 1))
    else match Bytes.split? (field 3) body with
      | none => .error .truncatedHeader
      | some (header, records) =>
        match (decodePayload header : Except StreamError FileHeader) with
        | .error e => .error (.undecodableHeader e)
        | .ok header => .ok { path, name, header, count := field 2, records }

/-- A reader that stands before the first record. -/
def reader (f : ContentFile) : Reader := ⟨f.name, f.records, f.count, f.count⟩

def feed (f : ContentFile) : Feed := f.reader.feed

end ContentFile

end ContentLayers
