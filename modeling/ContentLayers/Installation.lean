import ContentLayers.Config.Basic
import ContentLayers.Content.Open
import ContentLayers.Directories
import ContentLayers.Store.Session

/-!
# Installations

Loading an ordered list of content files from data directories into a new store.
-/

namespace ContentLayers

/-- How far the file in hand is read. -/
structure Progress where
  file : String
  total : Nat
  done : Nat
  deriving DecidableEq, Repr

namespace Progress

def step (p : Progress) : Event → Progress × List Notice
  | .label file => (⟨file, 0, 0⟩, [.reading file])
  | .range total => ({ p with total }, [])
  | .applied =>
    let p := { p with done := p.done + 1 }
    (p, if 0 < p.total && p.done == p.total then [.allRead p.file p.done p.total] else [])
  | .notice n => (p, [n])

/-- The log of some events, notices of the progress among them. -/
def log : Progress → List Event → List Notice
  | _, [] => []
  | p, e :: es =>
    let (p, notices) := p.step e
    notices ++ log p es

end Progress

/-- The log of a load from its first event on. -/
def logOf (events : List Event) : List Notice := (Progress.mk "" 0 0).log events

inductive InstallError where
  | notLocated (file : String)
  | unopened (cause : OpenError)
  | aborted (file : String) (cause : LoadError)
  deriving DecidableEq, Repr

def InstallError.chain : InstallError → List String
  | .notLocated file => [s!"locating content file {file}", Directories.notFound file]
  | .unopened cause => cause.chain
  | .aborted file cause => s!"aborting content load at {file}" :: cause.chain

variable {m : Type → Type} [Monad m] [Files m] [Journal m]

namespace Directories

/-- The content file with a name. -/
def openNamed (d : Directories) (name : String) : m (Except InstallError ContentFile) := do
  match ← d.lookup? name with
  | none => pure (.error (.notLocated name))
  | some path => return (← ContentFile.openAt path).mapError .unopened

def applyFiles (d : Directories) : List String → Session → m (Except InstallError Session)
  | [], session => pure (.ok session)
  | name :: names, session => do
    match ← d.openNamed name with
    | .error e => pure (.error e)
    | .ok file =>
      unless file.header.masters.isEmpty do
        Journal.note (.masters name (file.header.masters.map (·.name)))
      let applied := session.apply file.feed
      Journal.noteAll (logOf applied.events)
      match applied.result with
      | .error e => pure (.error (.aborted name e))
      | .ok _ => d.applyFiles names applied.session

/-- Loads content files in order and derives the indices. -/
def install (d : Directories) (content : List String) :
    m (Except InstallError (Store × LoadReport)) := do
  match ← d.applyFiles content (.start .new) with
  | .error e => pure (.error e)
  | .ok session =>
    Journal.noteAll session.finishNotices
    pure (.ok session.finish)

end Directories

end ContentLayers
