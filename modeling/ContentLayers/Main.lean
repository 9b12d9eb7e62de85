import ContentLayers.Command.Programs

/-!
# The command line

`inspect ARGS…` and `catalogue ARGS…` run the two programs on the real file system.
-/

namespace ContentLayers

/-- Runs an action, with a value to go on with when the system refuses. -/
def orElse {α : Type} (fallback : α) (action : IO α) : IO α := do
  match ← action.toBaseIO with
  | .ok a => pure a
  | .error _ => pure fallback

instance : Files IO where
  isDirectory path := orElse false do (← IO.FS.realPath path).isDir
  entries? path := orElse none do
    let found ← (← IO.FS.realPath path).readDir
    some <$> found.toList.mapM fun e => do
      let data ← orElse none (some <$> e.path.metadata)
      pure ⟨e.fileName, data.any (·.type == .file)⟩
  read path := orElse .missing do
    if ← (← IO.FS.realPath path).isDir then pure .directory
    else
      let contents ← IO.FS.readBinFile path
      pure (.file contents.toList)
  createDirectories path := orElse false do
    IO.FS.createDirAll path
    pure true
  write path contents := orElse false do
    IO.FS.writeBinFile path ⟨contents.toArray⟩
    pure true

/-- Only errors are shown. -/
instance : Journal IO where
  note n := if n.level = .error then IO.eprintln n.line else pure ()

/-- The messages of a failure, the causes numbered when there are several. -/
def describeFailure (chain : List String) : String :=
  let causes := match chain.tail with
    | [cause] => [s!"    {cause}"]
    | causes => causes.zipIdx.map fun (cause, i) => s!"    {i}: {cause}"
  let first := "Error: " ++ chain.headD ""
  if causes.isEmpty then first
  else String.intercalate "\n" (first :: "" :: "Caused by:" :: causes)

def program? : String → Option (List String → IO Run)
  | "inspect" => some Inspect.run
  | "catalogue" => some Catalogue.run
  | _ => none

end ContentLayers

open ContentLayers

def main (args : List String) : IO UInt32 := do
  match args with
  | name :: args =>
    match program? name with
    | some program =>
      let run ← program args
      IO.print run.output
      match run.ending with
      | .failure chain => IO.eprintln (describeFailure chain)
      | .misuse => IO.eprintln "wrong arguments; see --help"
      | .success => pure ()
      pure run.ending.code
    | none =>
      IO.eprintln "usage: inspect ARGS | catalogue ARGS"
      pure 2
  | [] =>
    IO.eprintln "usage: inspect ARGS | catalogue ARGS"
    pure 2
