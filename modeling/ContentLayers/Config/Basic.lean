import ContentLayers.Config.Line
import ContentLayers.Files.Basic
import ContentLayers.Files.Path
import ContentLayers.Text.Folding

/-!
# Configurations

Which directories hold content files, and which content files to load in which order.
-/

namespace ContentLayers

structure Config where
  data : List String
  dataLocal : Option String
  content : List String
  deriving DecidableEq, Repr, Inhabited

/-- The first line that cannot be read, counted from one. -/
structure SyntaxError where
  line : Nat
  cause : LineError
  deriving DecidableEq, Repr

def SyntaxError.chain (e : SyntaxError) : List String :=
  match e.cause with
  | .malformed text => [s!"line {e.line}: expected key=value, found {Text.quoted text}"]
  | .escapeAtEnd value => [s!"line {e.line}", s!"escape at end of quoted path {value}"]
  | .unterminated value => [s!"line {e.line}", s!"unterminated quoted path {value}"]

inductive ConfigError where
  | unreadable (path : String)
  | unparsable (path : String) (cause : SyntaxError)
  deriving DecidableEq, Repr

def ConfigError.chain : ConfigError → List String
  | .unreadable path => [s!"reading config {path}", systemFault]
  | .unparsable path cause => s!"parsing config {path}" :: cause.chain

namespace Config

def empty : Config := ⟨[], none, []⟩

/-- Takes up one setting. An empty local directory sets nothing. -/
def add (c : Config) : Setting → Config
  | .data path => { c with data := c.data ++ [path] }
  | .dataLocal path => if path.isEmpty then c else { c with dataLocal := some path }
  | .content name => { c with content := c.content ++ [name] }
  | .other _ => c

/-- The settings of numbered lines, up to the first line that cannot be read. -/
def settings : Nat → List (List Char) → List Setting × Option SyntaxError
  | _, [] => ([], none)
  | number, line :: lines =>
    if isIgnored line then settings (number + 1) lines
    else match setting line with
      | .error cause => ([], some ⟨number, cause⟩)
      | .ok s =>
        let (rest, failure) := settings (number + 1) lines
        (s :: rest, failure)

/-- The keys that were read and mean nothing here. -/
def ignoredKeys (settings : List Setting) : List Notice :=
  settings.filterMap fun
    | .other key => some (.ignoredKey key)
    | _ => none

/-- Reads a configuration, with notices of the keys that it ignores. -/
def parse (text : String) : List Notice × Except SyntaxError Config :=
  let (settings, failure) := settings 1 (lines text)
  (ignoredKeys settings, match failure with
    | some e => .error e
    | none => .ok (settings.foldl add empty))

/-- Takes relative directories relative to a base. -/
def resolveAgainst (base : String) (c : Config) : Config :=
  { c with data := c.data.map (Path.join base), dataLocal := c.dataLocal.map (Path.join base) }

/-- Appends directories and content files after the configuration's own. -/
def extend (c : Config) (data content : List String) : Config :=
  { c with data := c.data ++ data, content := c.content ++ content }

def isScriptManifest (name : String) : Bool :=
  ".omwscripts".toList.isSuffixOf (fold name).toList

/-- The content files to load. Script manifests hold no records. -/
def contentFiles (c : Config) : List String := c.content.filter (!isScriptManifest ·)

variable {m : Type → Type} [Monad m] [Files m] [Journal m]

def ofFile (path : String) : m (Except ConfigError Config) := do
  match ← Files.read path with
  | .missing | .directory => pure (.error (.unreadable path))
  | .file contents =>
    match Bytes.text? contents with
    | none => pure (.error (.unreadable path))
    | some text =>
      let (notices, result) := parse text
      Journal.noteAll notices
      match result with
      | .error e => pure (.error (.unparsable path e))
      | .ok config =>
        pure (.ok (match Path.parent? path with
          | some base => config.resolveAgainst base
          | none => config))

/-- The directories that exist, in the order given. -/
def existing : List String → m (List String)
  | [] => pure []
  | path :: paths => do
    if ← Files.isDirectory path then
      let rest ← existing paths
      pure (path :: rest)
    else
      Journal.note (.missingDirectory path)
      existing paths

/-- The directories to search, the local one last. -/
def dataDirectories (c : Config) : m (List String) := existing (c.data ++ c.dataLocal.toList)

end Config

end ContentLayers
