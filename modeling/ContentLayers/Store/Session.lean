import ContentLayers.Store.Indices
import ContentLayers.Store.Load

/-!
# Load sessions

Content files applied in order, each with the next index. A file that fails uses up its index.
-/

namespace ContentLayers

structure Session where
  store : Store
  nextIndex : Nat
  /-- The files applied successfully, in order. -/
  files : Array FileStats

/-- What a finished session did, file by file. -/
structure LoadReport where
  files : List FileStats

def LoadReport.totalLoaded (r : LoadReport) : Nat := r.files.foldl (fun n file => n + file.loaded) 0

namespace Session

def start (store : Store) : Session := ⟨store, 0, #[]⟩

/-- A session after one step, with what the step reported. -/
structure Applied (α : Type) where
  session : Session
  events : List Event
  result : Except LoadError α

def apply (s : Session) (feed : Feed) : Applied FileStats :=
  let index := s.nextIndex
  let loaded := s.store.load feed index
  let next := { s with store := loaded.store, nextIndex := index + 1 }
  match loaded.result with
  | .ok stats => ⟨{ next with files := s.files.push stats }, loaded.events, .ok stats⟩
  | .error cause =>
    let error : LoadError := ⟨index, feed.name, cause⟩
    ⟨next, loaded.events ++ [.notice (.aborted error)], .error error⟩

/-- Applies feeds up to the first that fails. -/
def applyAll : Session → List Feed → Applied Unit
  | s, [] => ⟨s, [], .ok ()⟩
  | s, feed :: feeds =>
    let step := s.apply feed
    match step.result with
    | .error e => ⟨step.session, step.events, .error e⟩
    | .ok _ =>
      let rest := applyAll step.session feeds
      { rest with events := step.events ++ rest.events }

/-- Ends the session: the store with its indices derived, and the report. -/
def finish (s : Session) : Store × LoadReport := (s.store.setUp, ⟨s.files.toList⟩)

def finishNotices (s : Session) : List Notice :=
  s.store.setUpNotices ++ [.finished s.files.size]

end Session

end ContentLayers
