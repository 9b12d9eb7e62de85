import ContentLayers.Content.File
import ContentLayers.Text.Folding

/-!
# Listings

A line for each record of a content file.
-/

namespace ContentLayers

namespace Listing

def padLeft (width : Nat) (fill : Char) (s : String) : String :=
  .ofList (List.replicate (width - s.length) fill) ++ s

def padRight (width : Nat) (s : String) : String :=
  s ++ .ofList (List.replicate (width - s.length) ' ')

def markers (c : Chunk) : String :=
  (if c.isDeleted then "D" else "") ++ (if c.isRequired then "R" else "")

def recordLine (number : Nat) (c : Chunk) : String :=
  let flags := "0x" ++ padLeft 4 '0' (.ofList (Nat.toDigits 16 c.flags.toNat))
  String.intercalate " " [padLeft 6 ' ' (toString number), padRight 4 (toString c.tag), flags,
    padRight 2 (markers c), padLeft 8 ' ' (toString c.payload.length)]

def headLines (f : ContentFile) : List String :=
  s!"{f.count} records in {f.path}" ::
    (if f.header.author.isEmpty then [] else [s!"author: {f.header.author}"]) ++
    (if f.header.description.isEmpty then [] else [s!"description: {f.header.description}"]) ++
    f.header.masters.map fun m => s!"master: {m.name} ({m.size} bytes)"

/-- Whether a record is listed; without a filter every record is. -/
def isListed (filter : Option String) (c : Chunk) : Bool :=
  filter.all fun tag => sameFolded (toString c.tag) tag

/-- The lines of numbered records. -/
def recordLines (filter : Option String) : Nat → List Chunk → List String
  | _, [] => []
  | number, c :: cs =>
    let rest := recordLines filter (number + 1) cs
    if isListed filter c then recordLine number c :: rest else rest

end Listing

/-- An unreadable record, and how many records came before it. -/
structure ListingError where
  position : Nat
  cause : StreamError
  deriving DecidableEq, Repr

def ListingError.chain (e : ListingError) : List String :=
  [s!"reading record {e.position}", e.cause.message]

namespace ContentFile

/-- The lines up to the first unreadable record, and that record. -/
def listing (f : ContentFile) (filter : Option String) : List String × Option ListingError :=
  let feed := f.feed
  (Listing.headLines f ++ Listing.recordLines filter 1 feed.records,
    feed.failure.map fun cause => ⟨feed.records.length, cause⟩)

end ContentFile

end ContentLayers
