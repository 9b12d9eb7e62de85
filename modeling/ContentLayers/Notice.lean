import ContentLayers.Failure
import ContentLayers.FileStats
import ContentLayers.Missing

/-!
# Notices

What happens while content is loaded and used, as data: the notices that are worth a line in a log,
and the events of a load.
-/

namespace ContentLayers

inductive Level where
  | error
  | warn
  | info
  | debug
  deriving DecidableEq, Repr

def Level.name : Level → String
  | .error => "ERROR"
  | .warn => "WARN"
  | .info => "INFO"
  | .debug => "DEBUG"

inductive Notice where
  | overridden (tag : Tag) (id file : String) (previous : Nat)
  | skipped (tag : Tag) (position : Nat) (file : String)
  | loaded (stats : FileStats)
  | aborted (error : LoadError)
  | finished (files : Nat)
  | ambiguous (id : String) (owner kind : Kind)
  | dangling (reference : Dangling)
  | indexed (ids settings dangling : Nat)
  | listTooDeep (list : String)
  | missingItem (item list : String)
  | reading (file : String)
  | allRead (file : String) (done total : Nat)
  | ignoredKey (key : String)
  | missingDirectory (path : String)
  | masters (file : String) (names : List String)

namespace Notice

def level : Notice → Level
  | .aborted _ => .error
  | .ambiguous .. | .dangling _ | .listTooDeep _ | .missingItem .. => .warn
  | .loaded _ | .finished _ | .indexed .. | .reading _ => .info
  | .overridden .. | .skipped .. | .allRead .. | .ignoredKey _ | .missingDirectory _
  | .masters .. => .debug

def message : Notice → String
  | .overridden tag id file previous =>
    s!"{tag} '{id}' from {file} overrides content file #{previous}"
  | .skipped tag position file => s!"skipping unsupported {tag} record #{position} in {file}"
  | .loaded stats =>
    s!"loaded {stats.name} (#{stats.index}): {stats.loaded} records, {stats.deleted} deleted, " ++
      s!"{stats.infos} infos, {stats.skipped} skipped, {stats.totalOverrides} overrides"
  | .aborted error =>
    s!"aborting load at {error.file} (content file #{error.index}): {error.cause.message}"
  | .finished files => s!"load session finished with {files} content files"
  | .ambiguous id owner kind =>
    s!"id '{id}' is defined as both {owner.name} and {kind.name}; lookups resolve to {owner.name}"
  | .dangling ⟨kind, owner, target⟩ =>
    s!"{kind.name} '{owner}' references missing record '{target}'"
  | .indexed ids settings missing =>
    s!"store set up: {ids} referenceable ids, {settings} settings, {missing} dangling references"
  | .listTooDeep list => s!"levelled list '{list}' nests deeper than 32 lists; giving up"
  | .missingItem item list => s!"ignoring nonexistent item '{item}' in levelled list '{list}'"
  | .reading file => s!"reading {file}"
  | .allRead file done total => s!"{file}: {done} of {total} records"
  | .ignoredKey key => s!"ignoring config key {key}"
  | .missingDirectory path => s!"skipping missing data directory {path}"
  | .masters file names =>
    let list := String.intercalate ", " names
    s!"{file} depends on {list}"

def line (n : Notice) : String := s!"{n.level.name} {n.message}"

end Notice

/-- What loading reports while it runs: its progress through a file, and notices. -/
inductive Event where
  /-- A file is opened. -/
  | label (file : String)
  /-- The file announces a number of records. -/
  | range (total : Nat)
  /-- One more record is applied. -/
  | applied
  | notice (n : Notice)

end ContentLayers
