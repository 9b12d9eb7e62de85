import ContentLayers.Files.Basic
import ContentLayers.Files.Path
import ContentLayers.Text.Folding

/-!
# Data directories

Content files are looked up by name in a list of directories; the first directory that has an entry
of the name wins.
-/

namespace ContentLayers

structure Directories where
  paths : List String
  foldCase : Bool
  deriving DecidableEq, Repr

namespace Directories

/-- Whether an entry's name is the name asked for. -/
def isMatch (d : Directories) (name asked : String) : Bool :=
  if d.foldCase then sameFolded name asked else name == asked

def notFound (file : String) : String := s!"file {file} not found"

variable {m : Type → Type} [Monad m] [Files m]

/-- Keeps the directories that exist. -/
def filterExisting (d : Directories) : m Directories := do
  let paths ← d.paths.filterM fun path => Files.isDirectory path
  pure { d with paths }

def lookupIn (d : Directories) (file : String) : List String → m (Option String)
  | [] => pure none
  | path :: paths => do
    let entries ← Files.entries? path
    match (entries.getD []).find? fun entry => d.isMatch entry.name file with
    | some entry => pure (some (Path.join path entry.name))
    | none => d.lookupIn file paths

/-- The path of the first entry with the name; directories count as entries. -/
def lookup? (d : Directories) (file : String) : m (Option String) := d.lookupIn file d.paths

/-- The plain files with an extension in any case, sorted by name within each directory. -/
def withExtension (d : Directories) (extension : String) : m (List String) := do
  let found ← d.paths.mapM fun path => do
    let entries ← Files.entries? path
    let names := ((entries.getD []).filter (·.isFile)).map (·.name)
    let wanted := names.filter fun name =>
      (Path.extension? name).any fun e => sameFolded e extension
    pure ((wanted.mergeSort fun a b => decide (a ≤ b)).map (Path.join path))
  pure found.flatten

end Directories

end ContentLayers
