import ContentLayers.Content.Reader
import ContentLayers.Proofs.CurrentIndices
import ContentLayers.Proofs.Faults
import ContentLayers.Report.Diagnostics
import ContentLayers.Store.Levelled

/-!
# The registry of kinds

A store in two parts: an order of tags, and a table for each tag that is asked for by kind. Nothing
but the calls keeps the parts together, and what they take for granted is checked.
-/

namespace ContentLayers

deriving instance Hashable for Tag

instance : EquivBEq Tag := inferInstance

instance : LawfulHashable Tag := inferInstance

/-- A store in two parts, next to the indices derived from them. -/
structure Registry where
  /-- The tags in the order of their declaration. -/
  order : List Tag
  shelves : Std.ExtHashMap Tag Shelf
  indices : Indices
  current : Bool

namespace Registry

/-- Registries are equal when they have equal orders and find the same under each tag. -/
theorem ext_getElem? {r r' : Registry} (order : r.order = r'.order)
    (shelves : ∀ tag : Tag, r.shelves[tag]? = r'.shelves[tag]?) (indices : r.indices = r'.indices)
    (current : r.current = r'.current) : r = r' := by
  obtain ⟨_, _, _, _⟩ := r
  obtain ⟨_, _, _, _⟩ := r'
  obtain rfl := Std.ExtHashMap.ext_getElem? shelves
  obtain rfl := order
  obtain rfl := indices
  obtain rfl := current
  rfl

def empty : Registry := ⟨[], ∅, .empty, false⟩

def declare (r : Registry) (kind : Kind) : Registry × Except Misuse Unit :=
  if kind.tag = Kind.infoTag then (r, .error .reserved)
  else match r.shelves[kind.tag]? with
    | some shelf =>
      (r, if shelf.kind = kind then .ok () else .error (.taken kind.tag shelf.kind))
    | none =>
      ({ r with
        order := r.order ++ [kind.tag]
        shelves := r.shelves.insert kind.tag (.new kind)
        current := false }, .ok ())

/-- Declares kinds one after the other, up to the first that is refused. -/
def declareAll : Registry → List Kind → Registry × Except Misuse Unit
  | r, [] => (r, .ok ())
  | r, kind :: kinds =>
    match r.declare kind with
    | (next, .ok ()) => next.declareAll kinds
    | (left, .error e) => (left, .error e)

/-- A registry with the built-in kinds declared. -/
def new : Registry × Except Misuse Unit := empty.declareAll Kind.builtins

/-- The table of a kind, if the table under its tag is of that kind. -/
def table? (r : Registry) (kind : Kind) : Option (Table kind.Carrier) :=
  r.shelves[kind.tag]?.bind (·.table? kind)

def get (r : Registry) (kind : Kind) : Except Misuse (Table kind.Carrier) :=
  match r.table? kind with
  | some table => .ok table
  | none => .error (.undeclared kind)

/-- Asks for a table to write to. The indices are stale from then on, even when the kind is
refused. -/
def getMut (r : Registry) (kind : Kind) : Registry × Except Misuse (Table kind.Carrier) :=
  let stale := { r with current := false }
  (stale, stale.get kind)

def tryGet (r : Registry) (kind : Kind) : Except Fault (Table kind.Carrier) :=
  (r.get kind).mapError .misuse

def put (r : Registry) (shelf : Shelf) : Registry :=
  { r with shelves := r.shelves.insert shelf.kind.tag shelf }

/-- The shelves in the order of the tags. A tag without a shelf is passed over. -/
def inOrder (r : Registry) : List Shelf := r.order.filterMap (r.shelves[·]?)

def idsOf (r : Registry) (tag : Tag) : List String := (r.shelves[tag]?.map Shelf.ids).getD []

def diagnostics (r : Registry) (report : LoadReport) : Diagnostics where
  files := report.files
  kinds := r.inOrder.map fun shelf =>
    ⟨shelf.kind.tag, shelf.kind.name, shelf.live, r.idsOf shelf.kind.tag⟩
  dangling := r.indices.dangling

end Registry

namespace Loading

def tryApplyRecord (l : Loading Registry) (c : Chunk) (shelf : Shelf) :
    Except Fault (Loading Registry × Option FormatError) := do
  let (shelf, answer) ← shelf.tryLoad c l.stats.index
  let l := { l with store := l.store.put shelf }
  match answer with
  | .error e => return (l, some (.decode c.tag l.position e))
  | .ok (id, outcome) =>
    return ({ l with stats := l.stats.countWrite outcome }.advance
      (l.overrideNotice c id outcome), none)

def tryApply (l : Loading Registry) (c : Chunk) :
    Except Fault (Loading Registry × Option FormatError) :=
  if c.tag = Kind.dialogue.tag then
    match (l.decode c : Except FormatError Topic) with
    | .error e => .ok (l, some e)
    | .ok topic => do
      let topics ← l.store.tryGet .dialogue
      let (topics, outcome) ← topics.tryUpsert topic c.isDeleted (some l.stats.index)
      return ({ l with
        store := l.store.put ⟨.dialogue, topics⟩
        active := some topic.id
        stats := l.stats.countWrite outcome }.advance [], none)
  else if c.tag = Kind.infoTag then
    match (l.decode c : Except FormatError Info) with
    | .error e => .ok (l, some e)
    | .ok info => do
      let topics ← l.store.tryGet .dialogue
      match ← topics.tryMergeInfo l.active info c.isDeleted with
      | none => return (l, some (.orphanInfo info.id l.position))
      | some (topics, merge) =>
        return ({ l with
          store := l.store.put ⟨.dialogue, topics⟩
          stats := l.stats.countInfo merge }.advance [], none)
  else match l.store.shelves[c.tag]? with
    | some shelf => l.tryApplyRecord c shelf
    | none =>
      if c.isRequired then .ok (l, some (.unsupportedRequired c.tag l.position))
      else .ok (l.skip c, none)

def tryRun : Loading Registry → List Chunk → Except Fault (Loading Registry × Option FormatError)
  | l, [] => .ok (l, none)
  | l, c :: cs => do
    match ← l.tryApply c with
    | (next, none) => next.tryRun cs
    | (left, some e) => return (left, some e)

/-- Reads the announced number of records and applies each before the next is read. -/
def tryStream : Loading Registry → (left : Nat) → Bytes →
    Except Fault (Loading Registry × Option FormatError)
  | l, 0, bs =>
    .ok (l, if bs.isEmpty then none else some (.stream (.trailingBytes bs.length)))
  | l, left + 1, bs => do
    match ← Chunk.tryRead bs with
    | .error e => return (l, some (.stream e))
    | .ok (c, rest) =>
      match ← l.tryApply c with
      | (next, none) => next.tryStream left rest
      | (stopped, some e) => return (stopped, some e)

end Loading

namespace Registry

def start (r : Registry) (name : String) (index : Nat) : Loading Registry :=
  ⟨{ r with current := false }, none, 0, .new name index, []⟩

def tryLoad (r : Registry) (feed : Feed) (index : Nat) : Except Fault (Loaded Registry) := do
  let (l, failure) ← (r.start feed.name index).tryRun feed.records
  return l.ended feed.name feed.announced (failure.or (feed.failure.map .stream))

/-- Loads the bytes that a reader has left. -/
def tryLoadFrom (r : Registry) (reader : Reader) (index : Nat) :
    Except Fault (Loaded Registry) := do
  let (l, failure) ← (r.start reader.name index).tryStream reader.left reader.rest
  return l.ended reader.name (some reader.total) failure

def trySetUp (r : Registry) : Except Fault Registry := do
  let owners := Indices.ownersOf r.inOrder
  let settings ← r.tryGet .gameSetting
  let items ← r.tryGet .itemList
  let creatures ← r.tryGet .creatureList
  let classes ← r.tryGet .actorClass
  let npcs ← r.tryGet .npc
  let withoutClass ← Indices.tryDanglingClasses npcs classes
  let scripts ← r.tryGet .script
  let starts ← r.tryGet .startScript
  let withoutScript ← Indices.tryDanglingScripts starts scripts
  return { r with
    indices :=
      { sorted := r.inOrder.map Indices.sortedOf
        owners
        settings := Indices.settingsOf settings
        dangling := Indices.danglingItems owners .itemList items ++
          Indices.danglingItems owners .creatureList creatures ++ withoutClass ++ withoutScript }
    current := true }

def tryFind (r : Registry) (id : String) : Except Fault (Option Kind) :=
  if r.current then .ok r.indices.owners[fold id]? else Shelf.tryScan r.inOrder id

/-- The list that an id names. -/
def tryNested (r : Registry) (id : String) : Except Fault (Option (LevelledList × ListRole)) := do
  let items ← r.tryGet .itemList
  match ← items.trySearch id with
  | some list => return some (list, .items)
  | none =>
    let creatures ← r.tryGet .creatureList
    let found ← creatures.trySearch id
    return found.map (·, .creatures)

/-- The eligible entries that are known, or those that are not. -/
def tryEligible (r : Registry) (list : LevelledList) (role : ListRole) (level : Int)
    (known : Bool) : Except Fault (List LevelledEntry) :=
  Fault.tryFilter (fun entry => (r.tryFind entry.id).map (·.isSome == known))
    (list.levelEligible role level)

variable {σ : Type}

def tryDrawWithin (r : Registry) (dice : Dice σ) (level : Int) :
    (depth : Nat) → LevelledList → ListRole → σ → Except Fault (Drawn × σ)
  | 0, list, _, state => .ok (⟨none, [.listTooDeep list.id]⟩, state)
  | depth + 1, list, role, state =>
    let (roll, state) := dice.percent state
    if roll.val < list.chanceNone.toNat then .ok (⟨none, []⟩, state)
    else do
      let unknown ← r.tryEligible list role level false
      let missing := unknown.map fun entry => .missingItem entry.id list.id
      match ← r.tryEligible list role level true with
      | [] => return (⟨none, missing⟩, state)
      | first :: others =>
        let (i, state) := dice.pick others.length state
        let chosen := (first :: others).get i
        match ← r.tryNested chosen.id with
        | some (list, role) =>
          let (drawn, state) ← tryDrawWithin r dice level depth list role state
          return (⟨drawn.pick, missing ++ drawn.notices⟩, state)
        | none => return (⟨some chosen.id, missing⟩, state)

def tryDraw (r : Registry) (dice : Dice σ) (list : LevelledList) (role : ListRole) (level : Int)
    (state : σ) : Except Fault (Drawn × σ) :=
  r.tryDrawWithin dice level maxListDepth list role state

/-- The registry after a call. A call that is refused may leave the indices stale, and changes
nothing else. -/
def tryCall (r : Registry) : Call → Except Fault Registry
  | .declare kind => .ok (r.declare kind).1
  | .modify kind log _ =>
    match r.getMut kind with
    | (stale, .ok table) => do
      let table ← table.tryReplay log
      return stale.put ⟨kind, table⟩
    | (stale, .error _) => .ok stale
  | .load feed index => do
    let loaded ← r.tryLoad feed index
    return loaded.store
  | .setUp => r.trySetUp

/-- The registry after calls one after the other. -/
def tryCalls (calls : List Call) : Except Fault Registry := do
  let (r, declared) := new
  declared.mapError .misuse
  calls.foldlM tryCall r

end Registry

/-- The two parts of a store. -/
def Store.registry (s : Store) : Registry where
  order := s.tags
  shelves := .ofList (s.shelves.map fun shelf => (shelf.kind.tag, shelf))
  indices := s.indices
  current := s.current

/-- A load into the two parts of its store. -/
def Loading.registry (l : Loading Store) : Loading Registry := { l with store := l.store.registry }

def Loaded.registry (l : Loaded Store) : Loaded Registry := { l with store := l.store.registry }

end ContentLayers
