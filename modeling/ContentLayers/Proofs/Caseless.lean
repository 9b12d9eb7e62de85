import ContentLayers.Dialogue
import ContentLayers.Kind
import ContentLayers.Proofs.Roster
import ContentLayers.Proofs.Topic

/-!
# Records without case

A record with its id and its references folded. Tables are written alike whether the records are
folded before or after.
-/

namespace ContentLayers

namespace Roster

variable {α β : Type}

/-- The roster with every entry changed, under the same ids. -/
def map (f : α → β) (r : Roster α) : Roster β := ⟨r.entries.map f, r.index⟩

variable (f : α → β) (r : Roster α) (id : String)

@[simp] theorem toList_map : (r.map f).toList = r.toList.map f := by
  simp [map, toList]

@[simp] theorem map_empty : (empty : Roster α).map f = empty := by
  simp [map, empty]

@[simp] theorem find?_map : (r.map f).find? id = (r.find? id).map f := by
  simp only [map, find?]
  cases r.index[fold id]? <;> simp

@[simp] theorem put_fold (a : α) : r.put (fold id) a = r.put id a := by
  simp [put]

theorem put_map (a : α) : (r.map f).put id (f a) = (r.put id a).map f := by
  simp only [map, put]
  cases r.index[fold id]? <;> simp

end Roster

/-- Folds the id of a record, and possibly references. What it hands on is folded too. -/
structure Record.Folds {α : Type} [Record α] (f : α → α) : Prop where
  id : ∀ a, Record.id (f a) = fold (Record.id a)
  inherit : ∀ newer older, f (Record.inherit newer older) = Record.inherit (f newer) (f older)

def Slot.map {α β : Type} (f : α → β) (slot : Slot α) : Slot β :=
  ⟨f slot.record, slot.live, slot.origin⟩

namespace Table

variable {α β : Type}

/-- The table with every record changed, in the same slots. -/
def map (f : α → β) (t : Table α) : Table β := ⟨t.slots.map (Slot.map f), t.live⟩

@[simp] theorem map_empty (f : α → β) : (empty : Table α).map f = empty := by
  simp [map, empty]

@[simp] theorem slots_map (f : α → β) (t : Table α) :
    (t.map f).slots = t.slots.map (Slot.map f) := rfl

theorem search_map (f : α → β) (t : Table α) (id : String) :
    (t.map f).search id = (t.search id).map f := by
  cases found : t.slots.find? id with
  | none => simp [search, found]
  | some slot => cases live : slot.live <;> simp [search, found, Slot.map, Option.filter_some, live]

@[simp] theorem search_fold (t : Table α) (id : String) : t.search (fold id) = t.search id := by
  simp [search]

@[simp] theorem contains_fold (t : Table α) (id : String) :
    t.contains (fold id) = t.contains id := by
  simp [contains]

@[simp] theorem contains_map (f : α → β) (t : Table α) (id : String) :
    (t.map f).contains id = t.contains id := by
  simp [contains, search_map]

theorem records_map (f : α → β) (t : Table α) : (t.map f).records = t.records.map f := by
  simp only [records, slots_map, Roster.toList_map, List.filter_map, List.map_map]
  rfl

variable [Record α] {f : α → α}

theorem ids_map (folds : Record.Folds f) (t : Table α) : (t.map f).ids = t.ids.map fold := by
  simp [ids, records_map, folds.id]

/-- Folded before or after, a record is written to the same slot, with the same outcome. -/
theorem upsert_map (folds : Record.Folds f) (t : Table α) (record : α) (deleted : Bool)
    (origin : Option Nat) :
    (t.map f).upsert (f record) deleted origin =
      ((t.upsert record deleted origin).1.map f, (t.upsert record deleted origin).2) := by
  have placed (slot : Slot α) :
      (t.slots.map (Slot.map f)).put (Record.id record) (Slot.map f slot) =
        (t.slots.put (Record.id record) slot).map (Slot.map f) := t.slots.put_map _ _ slot
  have slot (r : α) : Slot.map f ⟨r, !deleted, origin⟩ = ⟨f r, !deleted, origin⟩ := rfl
  simp only [upsert, map, folds.id, Roster.find?_fold, Roster.put_fold, Roster.find?_map]
  cases found : t.slots.find? (Record.id record) with
  | none =>
    simp only [Option.map_none, ← slot, placed]
    cases deleted <;> rfl
  | some old =>
    have kept : (Slot.map f old).record = f old.record := rfl
    have live : (Slot.map f old).live = old.live := rfl
    have wrote : (Slot.map f old).origin = old.origin := rfl
    simp only [Option.map_some, kept, live, wrote, ← folds.inherit, ← slot, placed]
    cases old.live <;> cases deleted <;> rfl

end Table

def Info.caseless (info : Info) : Info := { info with id := fold info.id }

def InfoSlot.caseless (slot : InfoSlot) : InfoSlot := { slot with info := slot.info.caseless }

namespace Topic

/-- The topic with its id and the ids of its infos folded. -/
def caseless (t : Topic) : Topic := ⟨fold t.id, t.kind, t.slots.map InfoSlot.caseless⟩

theorem infos_caseless (t : Topic) : t.caseless.infos = t.infos.map Info.caseless := by
  simp only [infos, caseless, Roster.toList_map, List.filter_map, List.map_map]
  rfl

theorem merge_caseless (t : Topic) (info : Info) (deleted : Bool) :
    t.caseless.merge info.caseless deleted =
      ((t.merge info deleted).1.caseless, (t.merge info deleted).2) := by
  have id : info.caseless.id = fold info.id := rfl
  have placed (slot : InfoSlot) : (t.slots.map InfoSlot.caseless).put info.id slot.caseless =
      (t.slots.put info.id slot).map InfoSlot.caseless := t.slots.put_map _ _ slot
  have written : InfoSlot.caseless ⟨info, true⟩ = ⟨info.caseless, true⟩ := rfl
  simp only [merge, caseless, id, Roster.find?_fold, Roster.put_fold, Roster.find?_map]
  cases t.slots.find? info.id with
  | none => cases deleted <;> simp [← written, placed]
  | some slot =>
    have marked : { slot.caseless with live := false } =
      InfoSlot.caseless { slot with live := false } := rfl
    cases deleted <;> simp [← written, marked, placed]

theorem folds_caseless : Record.Folds caseless := ⟨fun _ => rfl, fun _ _ => rfl⟩

end Topic

theorem Table.mergeInfo_map (topics : Table Topic) (active : Option String) (info : Info)
    (deleted : Bool) :
    (topics.map Topic.caseless).mergeInfo (active.map fold) info.caseless deleted =
      (topics.mergeInfo active info deleted).map fun (topics, merge) =>
        (topics.map Topic.caseless, merge) := by
  cases active with
  | none => rfl
  | some id =>
    simp only [mergeInfo, Option.map_some, Option.bind_some, slots_map, Roster.find?_fold,
      Roster.find?_map, Roster.put_fold]
    cases topics.slots.find? id with
    | none => rfl
    | some slot =>
      have record : (Slot.map Topic.caseless slot).record = slot.record.caseless := rfl
      simp only [Option.map_some, record, Topic.merge_caseless]
      have placed := topics.slots.put_map (Slot.map Topic.caseless) id
        { slot with record := (slot.record.merge info deleted).1 }
      simp only [map, ← placed]
      rfl

def LevelledEntry.caseless (entry : LevelledEntry) : LevelledEntry :=
  { entry with id := fold entry.id }

def LevelledList.caseless (list : LevelledList) : LevelledList :=
  { list with id := fold list.id, items := list.items.map LevelledEntry.caseless }

namespace Kind

/-- A record with its id folded, and the ids that it refers to: entries of levelled lists, the class
of an npc, and the script that starts. -/
def caseless : (kind : Kind) → kind.Carrier → kind.Carrier
  | activator, r => { r with id := fold r.id }
  | apparatus, r => { r with id := fold r.id }
  | book, r => { r with id := fold r.id }
  | actorClass, r => { r with id := fold r.id }
  | creature, r => { r with id := fold r.id }
  | dialogue, topic => topic.caseless
  | gameSetting, r => { r with id := fold r.id }
  | globalVariable, r => { r with id := fold r.id }
  | itemList, list => list.caseless
  | creatureList, list => list.caseless
  | miscellaneous, r => { r with id := fold r.id }
  | npc, r => { r with id := fold r.id, profession := fold r.profession }
  | script, r => { r with id := fold r.id }
  | sound, r => { r with id := fold r.id }
  | spell, r => { r with id := fold r.id }
  | startScript, r => { r with id := fold r.id, script := fold r.script }
  | weapon, r => { r with id := fold r.id }
  | custom _, r => { r with id := fold r.id }

theorem folds_caseless (kind : Kind) : Record.Folds kind.caseless := by
  cases kind <;> exact ⟨fun _ => rfl, fun _ _ => rfl⟩

end Kind

end ContentLayers
