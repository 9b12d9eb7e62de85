import ContentLayers.Feed
import ContentLayers.Notice
import ContentLayers.Store.Basic

/-!
# Loading a feed

Records are applied one by one, each wholly or not at all. The first error ends the load and leaves
the store with the records before it.
-/

namespace ContentLayers

/-- A load that is over. -/
structure Loaded (σ : Type) where
  store : σ
  events : List Event
  result : Except FormatError FileStats

/-- A file in the course of being loaded. -/
structure Loading (σ : Type) where
  store : σ
  /-- The topic that infos belong to. -/
  active : Option String
  /-- The number of records applied. -/
  position : Nat
  stats : FileStats
  /-- What was reported so far, latest first. -/
  events : List Event

namespace Loading

section Progress

variable {σ : Type}

/-- Moves past a record, with what there is to report about it. -/
def advance (l : Loading σ) (notices : List Notice) : Loading σ :=
  { l with
    position := l.position + 1
    events := .applied :: notices.reverse.map .notice ++ l.events }

def decode {α : Type} [MsgPack.Payload α] (l : Loading σ) (c : Chunk) : Except FormatError α :=
  (decodePayload c.payload).mapError fun e => .decode c.tag l.position e

/-- The notice of a record that overrides another file's. -/
def overrideNotice (l : Loading σ) (c : Chunk) (id : String) : Outcome → List Notice
  | .replaced (some previous) =>
    if previous = l.stats.index then [] else [.overridden c.tag id l.stats.name previous]
  | _ => []

/-- Moves past a record of no declared kind. -/
def skip (l : Loading σ) (c : Chunk) : Loading σ :=
  { l with stats := { l.stats with skipped := l.stats.skipped + 1 } }.advance
    [.skipped c.tag l.position l.stats.name]

/-- How a load ends that came to a failure or to none. -/
def ended (l : Loading σ) (name : String) (announced : Option Nat) :
    Option FormatError → Loaded σ
  | some e => ⟨l.store, opening ++ l.events.reverse, .error e⟩
  | none => ⟨l.store, opening ++ l.events.reverse ++ [.notice (.loaded l.stats)], .ok l.stats⟩
where
  opening := Event.label name :: announced.toList.map .range

end Progress

def start (store : Store) (name : String) (index : Nat) : Loading Store where
  store := { store with current := false }
  active := none
  position := 0
  stats := .new name index
  events := []

def applyTopic (l : Loading Store) (c : Chunk) (topic : Topic) : Loading Store :=
  let (topics, active, outcome) :=
    (l.store.table .dialogue).openTopic topic c.isDeleted (some l.stats.index)
  { l with
    store := l.store.setShelf ⟨.dialogue, topics⟩
    active
    stats := l.stats.countWrite outcome }

def applyInfo (l : Loading Store) (c : Chunk) (info : Info) :
    Loading Store × Option FormatError :=
  match (l.store.table .dialogue).mergeInfo l.active info c.isDeleted with
  | none => (l, some (.orphanInfo info.id l.position))
  | some (topics, merge) =>
    ({ l with
      store := l.store.setShelf ⟨.dialogue, topics⟩
      stats := l.stats.countInfo merge }.advance [], none)

/-- Applies a record of the kind of a shelf, which is put back whatever comes of it. -/
def applyRecord (l : Loading Store) (c : Chunk) (shelf : Shelf) :
    Loading Store × Option FormatError :=
  let (shelf, answer) := shelf.load c l.stats.index
  let l := { l with store := l.store.setShelf shelf }
  match answer with
  | .error e => (l, some (.decode c.tag l.position e))
  | .ok (id, outcome) =>
    ({ l with stats := l.stats.countWrite outcome }.advance (l.overrideNotice c id outcome), none)

/-- Applies a record, unless it is refused. -/
def apply (l : Loading Store) (c : Chunk) : Loading Store × Option FormatError :=
  if c.tag = Kind.dialogue.tag then
    match (l.decode c : Except FormatError Topic) with
    | .error e => (l, some e)
    | .ok topic => ((l.applyTopic c topic).advance [], none)
  else if c.tag = Kind.infoTag then
    match (l.decode c : Except FormatError Info) with
    | .error e => (l, some e)
    | .ok info => l.applyInfo c info
  else match l.store.shelf? c.tag with
    | some shelf => l.applyRecord c shelf
    | none =>
      if c.isRequired then (l, some (.unsupportedRequired c.tag l.position))
      else (l.skip c, none)

/-- Applies records up to the first that is refused. -/
def run : Loading Store → List Chunk → Loading Store × Option FormatError
  | l, [] => (l, none)
  | l, c :: cs =>
    match l.apply c with
    | (next, none) => next.run cs
    | (left, some e) => (left, some e)

end Loading

/-- Applies a feed as the content file with an index in the load order. -/
def Store.load (s : Store) (feed : Feed) (index : Nat) : Loaded Store :=
  let (l, failure) := (Loading.start s feed.name index).run feed.records
  l.ended feed.name feed.announced (failure.or (feed.failure.map .stream))

end ContentLayers
