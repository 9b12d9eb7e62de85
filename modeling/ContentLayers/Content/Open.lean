import ContentLayers.Content.File
import ContentLayers.Files.Basic
import ContentLayers.Files.Path

/-!
# Opening and saving content files
-/

namespace ContentLayers

inductive OpenError where
  | missing (path : String)
  | directory (path : String)
  | unparsable (path : String) (cause : PreambleError)
  deriving DecidableEq, Repr

def OpenError.chain : OpenError → List String
  | .missing path => [s!"opening content file at {path}", systemFault]
  | .directory path => [s!"memory-mapping content file {path}", systemFault]
  | .unparsable path cause => s!"parsing content file {path}" :: cause.chain

/-- Why a file could not be saved. -/
inductive SaveError where
  | noDirectory (path : String)
  | unwritten (path : String)
  deriving DecidableEq, Repr

def SaveError.chain : SaveError → List String
  | .noDirectory path => [s!"creating directory {path}", systemFault]
  | .unwritten path => [s!"writing {path}", systemFault]

variable {m : Type → Type} [Monad m] [Files m]

namespace ContentFile

def openAt (path : String) : m (Except OpenError ContentFile) := do
  match ← Files.read path with
  | .missing => pure (.error (.missing path))
  | .directory => pure (.error (.directory path))
  | .file contents =>
    let name := (Path.fileName? path).getD path
    pure ((parse path name contents).mapError (.unparsable path))

end ContentFile

/-- Writes a file into a directory that must be there. -/
def save (path : String) (contents : Bytes) : m (Except SaveError Unit) := do
  if ← Files.write path contents then pure (.ok ()) else pure (.error (.unwritten path))

/-- Writes a file and makes the directories above it. -/
def saveDeep (path : String) (contents : Bytes) : m (Except SaveError Unit) := do
  match (Path.parent? path).filter (!·.isEmpty) with
  | none => save path contents
  | some above =>
    if ← Files.createDirectories above then save path contents
    else pure (.error (.noDirectory above))

end ContentLayers
