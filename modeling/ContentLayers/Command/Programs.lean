import ContentLayers.Command.Arguments
import ContentLayers.Installation
import ContentLayers.Report.Diagnostics
import ContentLayers.Report.Listing

/-!
# The programs

`inspect` loads content files and reports what the merged store holds; `catalogue` lists the
records of one content file. What a program does is its output, and the reason when it fails.
-/

namespace ContentLayers

/-- How a program ended. -/
inductive Ending where
  | success
  /-- The messages from the outermost to the cause. -/
  | failure (chain : List String)
  /-- The arguments were wrong. -/
  | misuse
  deriving DecidableEq, Repr

def Ending.code : Ending → UInt32
  | .success => 0
  | .failure _ => 1
  | .misuse => 2

structure Run where
  output : String
  ending : Ending
  deriving DecidableEq, Repr

namespace Run

def help (usage : String) : Run := ⟨usage, .success⟩

def misuse : Run := ⟨"", .misuse⟩

end Run

variable {m : Type → Type} [Monad m] [Files m] [Journal m]

namespace Inspect

def usage : Usage where
  options := [⟨"config", .path, false⟩, ⟨"data", .path, true⟩, ⟨"content", .text, true⟩,
    ⟨"fold-case", .truth, false⟩, ⟨"verbose", .flag, false⟩, ⟨"diagnostics-json", .path, false⟩,
    ⟨"dialogue-report", .path, false⟩]
  operands := 0

def helpText : String := unlines [
  "Load content files in order and report the merged record store",
  "",
  "Options:",
  "      --config <FILE>            configuration with data=, data-local= and content= lines",
  "      --data <DIR>               additional data directory",
  "      --content <FILE>           additional content file",
  "      --fold-case <true|false>   match content file names case-insensitively",
  "      --verbose                  list every record id",
  "      --diagnostics-json <FILE>  write per-kind counts and ids as JSON",
  "      --dialogue-report <FILE>   write the info ids of each topic as JSON",
  "  -h, --help                     print help",
  "  -V, --version                  print version"]

/-- The configuration that a file and further arguments make up. -/
def config (path : Option String) (data content : List String) :
    m (Except ConfigError Config) := do
  match path with
  | none => pure (.ok (Config.empty.extend data content))
  | some path => return (← Config.ofFile path).map (·.extend data content)

/-- Writes a report where it is asked for, and says so. -/
def saveReport (path : Option String) (label : String) (report : Json) :
    m (Except SaveError (List String)) := do
  match path with
  | none => pure (.ok [])
  | some path =>
    return (← saveDeep path (.ofText report.render)).map fun _ => [s!"{label} written to {path}"]

def execute (g : Given) : m Run := do
  match ← config (g.value? "config") (g.values "data") (g.values "content") with
  | .error e => pure ⟨"", .failure e.chain⟩
  | .ok config =>
    let directories ← config.dataDirectories
    let content := config.contentFiles
    if directories.isEmpty then
      pure ⟨"", .failure ["no existing data directories configured; pass --config or --data"]⟩
    else if content.isEmpty then
      pure ⟨"", .failure ["no content files configured; pass --config or --content"]⟩
    else
      let foldCase := (g.value? "fold-case").getD "true" == "true"
      match ← (Directories.mk directories foldCase).install content with
      | .error e => pure ⟨"", .failure e.chain⟩
      | .ok (store, report) =>
        let diagnostics := store.diagnostics report
        let summary := diagnostics.summary (g.has "verbose")
        match ← saveReport (g.value? "diagnostics-json") "Diagnostics" diagnostics.json with
        | .error e => pure ⟨unlines summary, .failure e.chain⟩
        | .ok saved =>
          let topics := Json.array (store.topicReports.map (·.json))
          match ← saveReport (g.value? "dialogue-report") "Dialogue merge report" topics with
          | .error e => pure ⟨unlines (summary ++ saved), .failure e.chain⟩
          | .ok alsoSaved => pure ⟨unlines (summary ++ saved ++ alsoSaved), .success⟩

def run (args : List String) : m Run :=
  match usage.parse args with
  | .help => pure (.help helpText)
  | .version => pure (.help (unlines ["inspect 0.1.0"]))
  | .misuse => pure .misuse
  | .run given => execute given

end Inspect

namespace Catalogue

def usage : Usage where
  options := [⟨"tag", .text, false⟩]
  operands := 1

def helpText : String := unlines [
  "List the records stored in a content file",
  "",
  "Arguments:",
  "  <FILE>           content file to list",
  "",
  "Options:",
  "      --tag <TAG>  only list records with this tag",
  "  -h, --help       print help",
  "  -V, --version    print version"]

def execute (path : String) (tag : Option String) : m Run := do
  match ← ContentFile.openAt path with
  | .error e => pure ⟨"", .failure e.chain⟩
  | .ok file =>
    let (lines, failure) := file.listing tag
    pure ⟨unlines lines, match failure with
      | none => .success
      | some e => .failure e.chain⟩

def run (args : List String) : m Run :=
  match usage.parse args with
  | .help => pure (.help helpText)
  | .version => pure (.help (unlines ["catalogue 0.1.0"]))
  | .misuse => pure .misuse
  | .run given => execute (given.operands.headD "") (given.value? "tag")

end Catalogue

end ContentLayers
