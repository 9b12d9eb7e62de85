import ContentLayers.Proofs.FailedLoad
import ContentLayers.Proofs.RegistryRuns

/-!
# Positions

The indices of tables and of topics have exactly the positions of what is there, in every store
that calls make of a new one. So no position is out of bounds, and an info that follows a header
finds its topic.
-/

namespace ContentLayers

/-- The index has the position of each entry under its folded id, and nothing else. -/
structure Roster.Exact {α : Type} (idOf : α → String) (r : Roster α) : Prop where
  index : ∀ key position, r.index[key]? = some position ↔
    ∃ bound : position < r.entries.size, fold (idOf r.entries[position]) = key
  distinct : (r.toList.map fun a => fold (idOf a)).Nodup
  find : ∀ id, r.tryFind id = .ok (r.find? id)
  put : ∀ id a, r.tryPut id a = .ok (r.put id a)

theorem Roster.Valid.exact {α : Type} {idOf : α → String} {r : Roster α} (h : r.Valid idOf) :
    r.Exact idOf where
  index key position := by
    rw [h key position]
    constructor
    · rintro ⟨a, held, same⟩
      obtain ⟨bound, rfl⟩ := Array.getElem?_eq_some_iff.mp held
      exact ⟨bound, same⟩
    · rintro ⟨bound, same⟩
      exact ⟨r.entries[position], Array.getElem?_eq_getElem bound, same⟩
  distinct := h.nodup_keys
  find := h.tryFind_eq
  put := h.tryPut_eq

/-- The index is exact and the live slots are counted, so a deletion never counts below zero. -/
structure Table.Exact {α : Type} [Record α] (t : Table α) : Prop where
  slots : t.slots.Exact slotId
  live : t.live = t.slots.toList.countP (·.live)
  upsert : ∀ record deleted origin,
    t.tryUpsert record deleted origin = .ok (t.upsert record deleted origin)

theorem Table.Valid.exact {α : Type} [Record α] {t : Table α} (h : t.Valid) : t.Exact where
  slots := h.slots.exact
  live := h.live
  upsert := h.tryUpsert_eq

/-- The index of the infos is exact, those of deleted infos included. -/
structure Topic.Exact (t : Topic) : Prop where
  slots : t.slots.Exact infoId
  merge : ∀ info deleted, t.tryMerge info deleted = .ok (t.merge info deleted)

theorem Topic.Built.exact {t : Topic} (h : t.Built) : t.Exact where
  slots := h.valid.exact
  merge := h.tryMerge_eq

/-- All indices of a store are exact, in the tables and in the topics that have a slot. -/
structure Store.Exact (s : Store) : Prop where
  tables : ∀ shelf ∈ s.shelves, shelf.table.Exact
  topics : ∀ slot ∈ (s.table .dialogue).slots.toList, slot.record.Exact
  infos : ∀ active info deleted, (s.table .dialogue).tryMergeInfo active info deleted =
    .ok ((s.table .dialogue).mergeInfo active info deleted)

theorem Store.Sound.exact {s : Store} (h : s.Sound) : s.Exact where
  tables shelf mem := (h.tables shelf mem).valid.exact
  topics slot mem := Topic.Built.exact ((h.table .dialogue).holds slot mem)
  infos := (h.table .dialogue).tryMergeInfo_eq

/-! ## Headers and their infos -/

/-- What is found stays to be found, whatever is put. -/
theorem Roster.Valid.isSome_find?_put {α : Type} {idOf : α → String} {r : Roster α} {id q : String}
    {a : α} (h : r.Valid idOf) (same : fold (idOf a) = fold id) (held : (r.find? q).isSome = true) :
    ((r.put id a).find? q).isSome = true := by
  rw [h.find?_put same]
  split
  · rfl
  · exact held

/-- A table of topics, with the topic that is active in one of the files that are merged into it. -/
structure Merging where
  topics : Table Topic
  active : Option String

namespace Merging

/-- The header of a topic in the file. -/
def header (m : Merging) (topic : Topic) (deleted : Bool) (origin : Option Nat) : Merging :=
  let (topics, active, _) := m.topics.openTopic topic deleted origin
  ⟨topics, active⟩

/-- What goes on before the file ends: a header or an info, in the file or in others that are merged
at the same time, or a write past all of them. -/
inductive Step (m : Merging) : Merging → Prop
  | header (topic : Topic) (built : topic.Built) (deleted : Bool) (origin : Option Nat) :
      Step m (m.header topic deleted origin)
  | info (active : Option String) (info : Info) (deleted : Bool) (topics : Table Topic)
      (merge : InfoMerge) (merged : m.topics.mergeInfo active info deleted = some (topics, merge)) :
      Step m { m with topics }
  | write (w : Write Topic) (built : w.record.Built) :
      Step m { m with topics := (m.topics.write w).1 }

/-- The table is sound and the active topic has a slot in it. -/
structure Sound (m : Merging) : Prop where
  topics : Kind.dialogue.Sound m.topics
  active : ∃ id, m.active = some id ∧ (m.topics.slots.find? id).isSome = true

variable {m next : Merging}

/-- A header gives its topic a slot, also when it deletes the topic. -/
theorem sound_header (h : Kind.dialogue.Sound m.topics) {topic : Topic} (built : topic.Built)
    (deleted : Bool) (origin : Option Nat) : (m.header topic deleted origin).Sound := by
  let w : Write Topic := ⟨topic, deleted, origin⟩
  have written : (m.header topic deleted origin).topics = (m.topics.write w).1 := rfl
  refine ⟨?_, topic.id, rfl, ?_⟩
  · rw [written]
    exact h.write built
  · rw [written, h.valid.find?_write (Kind.keepsId .dialogue)]
    simp [w, Record.id]

/-- No step takes a slot away. -/
theorem Step.sound (step : Step m next) (h : m.Sound) : next.Sound := by
  obtain ⟨id, named, held⟩ := h.active
  cases step with
  | header topic built deleted origin => exact sound_header h.topics built deleted origin
  | info active info deleted topics merge merged =>
    refine ⟨h.topics.mergeInfo merged, id, named, ?_⟩
    obtain ⟨other, slot, _, found, changed, _⟩ := Table.mergeInfo_eq_some.mp merged
    have same := h.topics.valid.slotId_mergedSlot found info deleted
    rw [changed]
    exact h.topics.valid.slots.isSome_find?_put same held
  | write w built =>
    refine ⟨h.topics.write built, id, named, ?_⟩
    have same := congrArg fold (m.topics.slotId_settled (w := w) (Kind.keepsId .dialogue))
    rw [Table.slots_write]
    exact h.topics.valid.slots.isSome_find?_put same held

theorem sound_of_steps (steps : Relation.ReflTransGen Step m next) (h : m.Sound) : next.Sound := by
  induction steps with
  | refl => exact h
  | tail _ step ih => exact step.sound ih

theorem Sound.mergeInfo (h : m.Sound) (info : Info) (deleted : Bool) :
    ∃ topics merge, m.topics.mergeInfo m.active info deleted = some (topics, merge) ∧
      m.topics.tryMergeInfo m.active info deleted = .ok (some (topics, merge)) := by
  obtain ⟨id, named, held⟩ := h.active
  obtain ⟨slot, found⟩ := Option.isSome_iff_exists.mp held
  have merged : m.topics.mergeInfo m.active info deleted = some (_, _) :=
    Table.mergeInfo_eq_some.mpr ⟨id, slot, named, found, rfl, rfl⟩
  exact ⟨_, _, merged, by rw [h.topics.tryMergeInfo_eq, merged]⟩

end Merging

namespace Store

/-- A load meets an info without a topic before the first header alone. -/
theorem Sound.headless_of_orphan {s : Store} (h : s.Sound) {feed : Feed} {index n : Nat}
    {id : String} (failed : (s.load feed index).result = .error (.orphanInfo id n)) :
    ∀ c ∈ feed.records.take n, c.tag ≠ Kind.dialogue.tag := by
  have stops := h.stopsAt failed
  obtain ⟨_, _, _, stream⟩ | ⟨c, _, rejected⟩ := stops.cause
  · cases stream
  · generalize early : feed.records.take (s.load feed index).applied = earlier at rejected
    cases rejected with
    | orphan _ _ _ headless =>
      rw [← early, List.length_take_of_le stops.bound, early]
      exact headless

/-- **Every position holds.** Whatever is called, each index has exactly the positions of the
entries under their folded ids, and the live records are counted. So no call meets a position out
of bounds or a count below zero, and an info after a header finds its topic as long as the file
goes on. -/
theorem positions_hold (calls : List Call) :
    let s := Store.new.callAll calls
    s.Exact ∧ Registry.tryCalls calls = .ok s.registry ∧
      (∀ (m : Merging) (topic : Topic) (deleted : Bool) (origin : Option Nat) (later : Merging),
        m.topics = s.table .dialogue → topic.Built →
        Relation.ReflTransGen Merging.Step (m.header topic deleted origin) later →
        ∀ info deleted, ∃ topics merge,
          later.topics.mergeInfo later.active info deleted = some (topics, merge) ∧
          later.topics.tryMergeInfo later.active info deleted = .ok (some (topics, merge))) ∧
      ∀ feed index id n, (s.load feed index).result = .error (.orphanInfo id n) →
        ∀ c ∈ feed.records.take n, c.tag ≠ Kind.dialogue.tag := by
  intro s
  have reachable : s.Reachable := Reachable.new.callAll calls
  have h : s.Sound := reachable.sound
  refine ⟨h.exact, tryCalls_eq calls, ?_, fun feed index id n => h.headless_of_orphan⟩
  intro m topic deleted origin later here built steps
  have topics : Kind.dialogue.Sound m.topics := here ▸ h.table .dialogue
  have opened := Merging.sound_header topics built deleted origin
  exact (Merging.sound_of_steps steps opened).mergeInfo

end Store

end ContentLayers
