import ContentLayers.Notice
import ContentLayers.Store.Basic

/-!
# Deriving the indices

Sorted ids, owners of ids, settings over their defaults, and dangling references, all computed from
the tables alone.
-/

namespace ContentLayers

/-- Folded ids come in order, and ids that differ only in case in the order of their text. -/
def idLE (a b : String) : Bool := ((compare (fold a) (fold b)).then (compare a b)).isLE

/-- The game settings that hold while no content file sets them. -/
def defaultSettings : List (String × Variant) := [
  ("fDiseaseXferChance", .float ⟨0x3F800000⟩),
  ("fFatigueBase", .float ⟨0x3FA00000⟩),
  ("fFatigueMult", .float ⟨0x3F000000⟩),
  ("fJumpMoveBase", .float ⟨0x3F000000⟩),
  ("fJumpMoveMult", .float ⟨0x3F000000⟩),
  ("iLevelupTotal", .int 10),
  ("iMaxActivateDist", .int 192),
  ("iMaxInfoDist", .int 192),
  ("sDefaultCellname", .text "Wilderness"),
  ("sMagicEffects", .text "Magic Effects")]

namespace Indices

/-- Field by field, the settings as numbers and text. -/
def same (i j : Indices) : Bool :=
  i.sorted == j.sorted && i.owners.toList == j.owners.toList && i.dangling == j.dangling &&
    i.settings.toList.length == j.settings.toList.length &&
    (i.settings.toList.zip j.settings.toList).all fun (s, t) => s.1 == t.1 && s.2.same t.2

def sortedOf (shelf : Shelf) : Kind × List String := (shelf.kind, shelf.ids.mergeSort idLE)

/-- Every live id of a referenceable kind, with its kind. -/
def claims (shelves : List Shelf) : List (String × Kind) :=
  (shelves.filter (·.kind.referenceable)).flatMap fun shelf => shelf.ids.map (·, shelf.kind)

/-- An id belongs to the first kind that claims it. -/
def ownersOf (shelves : List Shelf) : Std.ExtTreeMap String Kind :=
  (claims shelves).foldl (fun owners (id, kind) => owners.insertIfNew (fold id) kind) ∅

def ambiguities (shelves : List Shelf) (owners : Std.ExtTreeMap String Kind) : List Notice :=
  (claims shelves).filterMap fun (id, kind) =>
    match owners[fold id]? with
    | some owner => if owner = kind then none else some (.ambiguous id owner kind)
    | none => none

def settingsOf (settings : Table GameSetting) : Std.ExtTreeMap String Variant :=
  settings.records.foldl (fun m s => m.insert (fold s.id) s.value)
    (defaultSettings.foldl (fun m (name, value) => m.insert (fold name) value) ∅)

def danglingItems (owners : Std.ExtTreeMap String Kind) (kind : Kind) (lists : Table LevelledList) :
    List Dangling :=
  lists.records.flatMap fun list =>
    (list.items.filter fun item => !owners.contains (fold item.id)).map fun item =>
      ⟨kind, list.id, item.id⟩

def danglingClasses (npcs : Table Npc) (classes : Table ActorClass) : List Dangling :=
  (npcs.records.filter fun npc => npc.profession != "" && !classes.contains npc.profession).map
    fun npc => ⟨.npc, npc.id, npc.profession⟩

def danglingScripts (starts : Table StartScript) (scripts : Table Script) : List Dangling :=
  (starts.records.filter fun start => !scripts.contains start.script).map
    fun start => ⟨.startScript, start.id, start.script⟩

end Indices

namespace Store

def danglingOf (s : Store) (owners : Std.ExtTreeMap String Kind) : List Dangling :=
  Indices.danglingItems owners .itemList (s.table .itemList) ++
    Indices.danglingItems owners .creatureList (s.table .creatureList) ++
    Indices.danglingClasses (s.table .npc) (s.table .actorClass) ++
    Indices.danglingScripts (s.table .startScript) (s.table .script)

/-- The indices that describe the tables. -/
def derive (s : Store) : Indices :=
  let owners := Indices.ownersOf s.shelves
  { sorted := s.shelves.map Indices.sortedOf
    owners
    settings := Indices.settingsOf (s.table .gameSetting)
    dangling := s.danglingOf owners }

/-- Derives the indices anew. The tables stay as they are. -/
def setUp (s : Store) : Store := { s with indices := s.derive, current := true }

/-- What deriving the indices has to say about the tables. -/
def setUpNotices (s : Store) : List Notice :=
  let indices := s.derive
  Indices.ambiguities s.shelves indices.owners ++ indices.dangling.map .dangling ++
    [.indexed indices.owners.size indices.settings.size indices.dangling.length]

end Store

end ContentLayers
