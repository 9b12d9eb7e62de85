import ContentLayers.Proofs.Store
import ContentLayers.Proofs.Topic
import ContentLayers.Store.Load

/-!
# Steps of a load

A record is applied in one of four ways, or refused for one of five reasons. A load applies records
from the front of its feed, all of them or those before the first that is refused.
-/

namespace ContentLayers

theorem Kind.infoTag_ne_dialogue : Kind.infoTag ≠ Kind.dialogue.tag := by decide

namespace Table

variable {topics next : Table Topic} {active : Option String} {info : Info} {deleted : Bool}
  {merge : InfoMerge}

/-- The slot of a topic with one more info merged. -/
def mergedSlot (slot : Slot Topic) (info : Info) (deleted : Bool) : Slot Topic :=
  { slot with record := (slot.record.merge info deleted).1 }

/-- Infos go where the active topic has its slot. -/
theorem mergeInfo_eq_some :
    topics.mergeInfo active info deleted = some (next, merge) ↔
      ∃ id slot, active = some id ∧ topics.slots.find? id = some slot ∧
        next = { topics with slots := topics.slots.put id (mergedSlot slot info deleted) } ∧
        merge = (slot.record.merge info deleted).2 := by
  simp only [mergeInfo, Option.bind_eq_some_iff, Option.map_eq_some_iff, Prod.mk.injEq]
  constructor
  · rintro ⟨id, named, slot, found, changed, merged⟩
    exact ⟨id, slot, named, found, changed.symm, merged.symm⟩
  · rintro ⟨id, slot, named, found, changed, merged⟩
    exact ⟨id, named, slot, found, changed.symm, merged.symm⟩

theorem Valid.slotId_mergedSlot (h : topics.Valid) {id : String} {slot : Slot Topic}
    (found : topics.slots.find? id = some slot) (info : Info) (deleted : Bool) :
    fold (slotId (mergedSlot slot info deleted)) = fold id := by
  rw [← (h.slots.find?_eq_some.mp found).2]
  simp [slotId, mergedSlot, Record.id]

end Table

namespace FileStats

@[simp] theorem index_countWrite (stats : FileStats) (outcome : Outcome) :
    (stats.countWrite outcome).index = stats.index := by
  cases outcome with
  | replaced previous =>
    cases previous with
    | none => rfl
    | some previous =>
      simp only [countWrite, countOverride]
      split <;> rfl
  | inserted => rfl
  | revived => rfl
  | tombstoned _ => rfl

@[simp] theorem index_countInfo (stats : FileStats) (merge : InfoMerge) :
    (stats.countInfo merge).index = stats.index := by
  cases merge <;> rfl

end FileStats

/-- Whether the event is the progress by one record. -/
def Event.isApplied : Event → Bool
  | .applied => true
  | .label _ | .range _ | .notice _ => false

/-- The number of records that a load applied, as its events tell. -/
def Loaded.applied {σ : Type} (loaded : Loaded σ) : Nat := loaded.events.countP (·.isApplied)

namespace Loading

section Ending

variable {σ : Type} (l : Loading σ) (name : String) (announced : Option Nat)

@[simp] theorem store_ended (failure : Option FormatError) :
    (l.ended name announced failure).store = l.store := by
  cases failure <;> rfl

@[simp] theorem result_ended_none : (l.ended name announced none).result = .ok l.stats := rfl

@[simp] theorem result_ended_some (e : FormatError) :
    (l.ended name announced (some e)).result = .error e := rfl

end Ending

/-- The write of a decoded record. -/
def writeOf {α : Type} (l : Loading Store) (c : Chunk) (record : α) : Write α :=
  ⟨record, c.isDeleted, some l.stats.index⟩

/-- The ways to apply a record. -/
inductive Step (l : Loading Store) (c : Chunk) : Loading Store → Prop
  | topic (topic : Topic) (named : c.tag = Kind.dialogue.tag)
      (decoded : decodePayload c.payload = .ok topic) : Step l c ((l.applyTopic c topic).advance [])
  | info (info : Info) (topics : Table Topic) (merge : InfoMerge) (named : c.tag = Kind.infoTag)
      (decoded : decodePayload c.payload = .ok info)
      (merged : (l.store.table .dialogue).mergeInfo l.active info c.isDeleted =
        some (topics, merge)) :
      Step l c ({ l with
        store := l.store.setShelf ⟨.dialogue, topics⟩
        stats := l.stats.countInfo merge }.advance [])
  | record (kind : Kind) (table : Table kind.Carrier) (record : kind.Carrier)
      (other : c.tag ≠ Kind.dialogue.tag) (noInfo : c.tag ≠ Kind.infoTag)
      (found : l.store.shelf? c.tag = some ⟨kind, table⟩)
      (decoded : decodePayload c.payload = .ok record) :
      Step l c ({ l with
        store := l.store.setShelf ⟨kind, (table.write (l.writeOf c record)).1⟩
        stats := l.stats.countWrite (table.write (l.writeOf c record)).2 }.advance
          (l.overrideNotice c (Record.id record) (table.write (l.writeOf c record)).2))
  | skipped (other : c.tag ≠ Kind.dialogue.tag) (noInfo : c.tag ≠ Kind.infoTag)
      (unknown : l.store.shelf? c.tag = none) (optional : c.isRequired = false) :
      Step l c ({ l with stats := { l.stats with skipped := l.stats.skipped + 1 } }.advance
        [.skipped c.tag l.position l.stats.name])

/-- The reasons to refuse a record. -/
inductive Refusal (l : Loading Store) (c : Chunk) : FormatError → Prop
  | topic (cause : StreamError) (named : c.tag = Kind.dialogue.tag)
      (undecodable : (decodePayload c.payload : Except StreamError Topic) = .error cause) :
      Refusal l c (.decode c.tag l.position cause)
  | info (cause : StreamError) (named : c.tag = Kind.infoTag)
      (undecodable : (decodePayload c.payload : Except StreamError Info) = .error cause) :
      Refusal l c (.decode c.tag l.position cause)
  | orphan (info : Info) (named : c.tag = Kind.infoTag)
      (decoded : decodePayload c.payload = .ok info)
      (orphan : (l.store.table .dialogue).mergeInfo l.active info c.isDeleted = none) :
      Refusal l c (.orphanInfo info.id l.position)
  | record (kind : Kind) (table : Table kind.Carrier) (cause : StreamError)
      (found : l.store.shelf? c.tag = some ⟨kind, table⟩)
      (undecodable : (decodePayload c.payload : Except StreamError kind.Carrier) = .error cause) :
      Refusal l c (.decode c.tag l.position cause)
  | unsupported (noInfo : c.tag ≠ Kind.infoTag) (unknown : l.store.shelf? c.tag = none)
      (required : c.isRequired = true) : Refusal l c (.unsupportedRequired c.tag l.position)

variable {l m next : Loading Store} {c : Chunk} {e : FormatError}

theorem applyInfo_spec (named : c.tag = Kind.infoTag) {info : Info}
    (decoded : decodePayload c.payload = .ok info) :
    match l.applyInfo c info with
    | (next, none) => Step l c next
    | (_, some e) => Refusal l c e := by
  rw [applyInfo]
  cases merged : (l.store.table .dialogue).mergeInfo l.active info c.isDeleted with
  | none => exact .orphan info named decoded merged
  | some result => exact .info info result.1 result.2 named decoded merged

theorem applyRecord_spec {shelf : Shelf} (other : c.tag ≠ Kind.dialogue.tag)
    (noInfo : c.tag ≠ Kind.infoTag) (found : l.store.shelf? c.tag = some shelf) :
    match l.applyRecord c shelf with
    | (next, none) => Step l c next
    | (_, some e) => Refusal l c e := by
  obtain ⟨kind, table⟩ := shelf
  rw [applyRecord, Shelf.load]
  cases decoded : (decodePayload c.payload : Except StreamError kind.Carrier) with
  | error cause => exact .record kind table cause found decoded
  | ok record => exact .record kind table record other noInfo found decoded

theorem apply_spec (l : Loading Store) (c : Chunk) :
    match l.apply c with
    | (next, none) => Step l c next
    | (_, some e) => Refusal l c e := by
  by_cases topic : c.tag = Kind.dialogue.tag
  · rw [apply, if_pos topic, decode]
    cases decoded : (decodePayload c.payload : Except StreamError Topic) with
    | error cause => exact .topic cause topic decoded
    | ok header => exact .topic header topic decoded
  by_cases info : c.tag = Kind.infoTag
  · rw [apply, if_neg topic, if_pos info, decode]
    cases decoded : (decodePayload c.payload : Except StreamError Info) with
    | error cause => exact .info cause info decoded
    | ok line => exact applyInfo_spec info decoded
  rw [apply, if_neg topic, if_neg info]
  cases found : l.store.shelf? c.tag with
  | some shelf => exact applyRecord_spec topic info found
  | none =>
    cases required : c.isRequired with
    | true => exact .unsupported info found required
    | false => exact .skipped topic info found required

theorem Step.of_apply (h : l.apply c = (next, none)) : Step l c next := by
  have spec := apply_spec l c
  rwa [h] at spec

theorem Refusal.of_apply (h : (l.apply c).2 = some e) : Refusal l c e := by
  have spec := apply_spec l c
  generalize l.apply c = reached at h spec
  obtain ⟨left, failure⟩ := reached
  subst h
  exact spec

/-- A record that is refused leaves no trace. -/
theorem apply_refused (distinct : l.store.tags.Nodup) (refused : (l.apply c).2 = some e) :
    l.apply c = (l, some e) := by
  refine Prod.ext ?_ refused
  by_cases topic : c.tag = Kind.dialogue.tag
  · rw [apply, if_pos topic] at refused ⊢
    cases decoded : (l.decode c : Except FormatError Topic) with
    | error cause => rfl
    | ok header => simp [decoded] at refused
  by_cases info : c.tag = Kind.infoTag
  · rw [apply, if_neg topic, if_pos info] at refused ⊢
    cases decoded : (l.decode c : Except FormatError Info) with
    | error cause => rfl
    | ok line =>
      simp only [decoded, applyInfo] at refused ⊢
      cases merged : (l.store.table .dialogue).mergeInfo l.active line c.isDeleted with
      | none => rfl
      | some result => simp [merged] at refused
  rw [apply, if_neg topic, if_neg info] at refused ⊢
  cases found : l.store.shelf? c.tag with
  | some shelf =>
    simp only [found, applyRecord, Shelf.load] at refused ⊢
    cases decoded : (decodePayload c.payload : Except StreamError shelf.kind.Carrier) with
    | error cause =>
      have kept : l.store.setShelf shelf = l.store := Store.setShelf_self distinct found
      simp only [kept]
    | ok record => simp [decoded] at refused
  | none =>
    cases required : c.isRequired with
    | true => simp
    | false => simp [found, required] at refused

/-- A step keeps the index of the file and counts its record. -/
theorem Step.counts (h : Step l c next) :
    next.stats.index = l.stats.index ∧ next.position = l.position + 1 ∧
      next.events.countP (·.isApplied) = l.events.countP (·.isApplied) + 1 := by
  cases h <;> simp [applyTopic, advance, Event.isApplied, Nat.add_comm]

/-- What a record does to the topics and to the active one. -/
inductive TopicStep (l : Loading Store) (c : Chunk) (next : Loading Store) : Prop
  | header (topic : Topic) (named : c.tag = Kind.dialogue.tag)
      (decoded : decodePayload c.payload = .ok topic) (opened : next.active = some topic.id)
      (written : next.store.table .dialogue =
        ((l.store.table .dialogue).write (l.writeOf c topic)).1)
  | info (info : Info) (merge : InfoMerge) (named : c.tag = Kind.infoTag)
      (decoded : decodePayload c.payload = .ok info) (kept : next.active = l.active)
      (merged : (l.store.table .dialogue).mergeInfo l.active info c.isDeleted =
        some (next.store.table .dialogue, merge))
  | other (other : c.tag ≠ Kind.dialogue.tag) (noInfo : c.tag ≠ Kind.infoTag)
      (kept : next.active = l.active)
      (same : next.store.table .dialogue = l.store.table .dialogue)

theorem Step.topics (h : Step l c next) (declared : (l.store.table? .dialogue).isSome = true) :
    TopicStep l c next := by
  cases h with
  | topic topic named decoded =>
    exact .header topic named decoded rfl (Store.table_setShelf declared)
  | info info topics merge named decoded merged =>
    have placed : (l.store.setShelf ⟨.dialogue, topics⟩).table .dialogue = topics :=
      Store.table_setShelf declared
    refine .info info merge named decoded rfl (merged.trans ?_)
    exact congrArg (fun table => some (table, merge)) placed.symm
  | record kind table record other noInfo found decoded =>
    have named : kind.tag = c.tag := (Store.shelf?_eq_some found).2
    have apart : kind ≠ .dialogue := by
      rintro rfl
      exact other named.symm
    exact .other other noInfo rfl
      (Store.table_setShelf_of_ne (Store.isSome_table?_of_shelf? found) apart)
  | skipped other noInfo => exact .other other noInfo rfl rfl

/-- A step keeps the kinds in their places. -/
theorem Step.tags (h : Step l c next) : next.store.tags = l.store.tags := by
  cases h with
  | topic => exact Store.tags_setShelf _ _
  | info => exact Store.tags_setShelf _ _
  | record => exact Store.tags_setShelf _ _
  | skipped => rfl

/-- Records applied one after the other. -/
inductive Applies (l : Loading Store) : List Chunk → Loading Store → Prop
  | nil : Applies l [] l
  | concat {records : List Chunk} {m next : Loading Store} {c : Chunk}
      (earlier : Applies l records m) (step : m.apply c = (next, none)) :
      Applies l (records ++ [c]) next

variable {records : List Chunk}

theorem Applies.counts (h : Applies l records m) :
    m.stats.index = l.stats.index ∧ m.position = l.position + records.length ∧
      m.events.countP (·.isApplied) = l.events.countP (·.isApplied) + records.length := by
  induction h with
  | nil => simp
  | concat _ step ih =>
    obtain ⟨index, position, applied⟩ := ih
    obtain ⟨index', position', applied'⟩ := (Step.of_apply step).counts
    refine ⟨index'.trans index, ?_, ?_⟩
    · rw [position', position, List.length_append, List.length_singleton, Nat.add_assoc]
    · rw [applied', applied, List.length_append, List.length_singleton, Nat.add_assoc]

theorem Applies.run_append (h : Applies l records m) (rest : List Chunk) :
    l.run (records ++ rest) = m.run rest := by
  induction h generalizing rest with
  | nil => rfl
  | concat _ step ih =>
    rw [List.append_assoc, ih, List.singleton_append, run, step]

theorem Applies.run (h : Applies l records m) : l.run records = (m, none) := by
  have whole := h.run_append []
  rwa [List.append_nil] at whole

theorem Applies.head {first : Chunk} (step : l.apply first = (m, none))
    (h : Applies m records next) : Applies l (first :: records) next := by
  induction h with
  | nil => exact .concat .nil step
  | concat _ last ih => exact .concat ih last

/-- Each record is applied after those before it. -/
theorem Applies.step {i : Nat} (h : Applies l records m) (held : records[i]? = some c) :
    ∃ before after, Applies l (records.take i) before ∧ before.apply c = (after, none) := by
  induction h with
  | nil => simp at held
  | @concat records m next d earlier step ih =>
    by_cases inside : i < records.length
    · rw [List.getElem?_append_left inside] at held
      rw [List.take_append_of_le_length (Nat.le_of_lt inside)]
      exact ih held
    · rw [List.getElem?_append_right (Nat.le_of_not_lt inside), List.getElem?_singleton] at held
      split at held
      · rename_i last
        have whole : i = records.length := by omega
        rw [whole, List.take_left, ← Option.some.inj held]
        exact ⟨m, next, earlier, step⟩
      · cases held

theorem Applies.tags (h : Applies l records m) : m.store.tags = l.store.tags := by
  induction h with
  | nil => rfl
  | concat _ step ih => rw [(Step.of_apply step).tags, ih]

/-- A run applies all records, or those before one that it refuses. -/
theorem run_cases (distinct : l.store.tags.Nodup) (records : List Chunk) :
    ((l.run records).2 = none ∧ Applies l records (l.run records).1) ∨
      ∃ done c rest e, records = done ++ c :: rest ∧ Applies l done (l.run records).1 ∧
        ((l.run records).1.apply c).2 = some e ∧ (l.run records).2 = some e := by
  induction records generalizing l with
  | nil => exact Or.inl ⟨rfl, .nil⟩
  | cons c cs ih =>
    rw [run]
    cases step : l.apply c with
    | mk next failure =>
      cases failure with
      | some e =>
        have refused : (l.apply c).2 = some e := congrArg (·.2) step
        obtain rfl : next = l := congrArg (·.1) (step.symm.trans (apply_refused distinct refused))
        exact Or.inr ⟨[], c, cs, e, rfl, .nil, refused, rfl⟩
      | none =>
        have distinct' : next.store.tags.Nodup := (Step.of_apply step).tags ▸ distinct
        obtain ⟨whole, applied⟩ | ⟨done, c', rest, e, split, applied, refused, failure⟩ :=
          ih distinct'
        · exact Or.inl ⟨whole, applied.head step⟩
        · exact Or.inr ⟨c :: done, c', rest, e, by rw [split, List.cons_append],
            applied.head step, refused, failure⟩

end Loading

namespace Store

open Loading

theorem applied_load (s : Store) (feed : Feed) (index : Nat) :
    (s.load feed index).applied =
      ((start s feed.name index).run feed.records).1.events.countP (·.isApplied) := by
  simp only [load, Loaded.applied]
  generalize (start s feed.name index).run feed.records = reached
  obtain ⟨m, failure⟩ := reached
  cases failure.or (feed.failure.map .stream) <;> cases feed.announced <;>
    simp [ended, ended.opening, Event.isApplied]

/-- A load applies records from the front, and either all of them or those before a refusal. -/
theorem load_spec {s : Store} (distinct : s.tags.Nodup) (feed : Feed) (index : Nat) :
    ∃ m, Applies (start s feed.name index) (feed.records.take (s.load feed index).applied) m ∧
      (s.load feed index).store = m.store ∧
      (((s.load feed index).applied = feed.records.length ∧
        (s.load feed index).result =
          match feed.failure with
          | none => .ok m.stats
          | some cause => .error (.stream cause)) ∨
        ∃ c e, feed.records[(s.load feed index).applied]? = some c ∧ (m.apply c).2 = some e ∧
          (s.load feed index).result = .error e) := by
  have applied := applied_load s feed index
  obtain ⟨finished, whole⟩ | ⟨done, c, rest, e, split, part, refused, failure⟩ :=
    run_cases (l := start s feed.name index) distinct feed.records
  · rw [whole.counts.2.2] at applied
    have all : (s.load feed index).applied = feed.records.length := by
      simpa [start] using applied
    refine ⟨_, by rwa [all, List.take_length], ?_, Or.inl ⟨all, ?_⟩⟩
    · simp only [load, finished]
      cases feed.failure <;> rfl
    · simp only [load, finished]
      cases feed.failure <;> rfl
  · rw [part.counts.2.2] at applied
    have count : (s.load feed index).applied = done.length := by
      simpa [start] using applied
    have front : feed.records.take done.length = done := by simp [split]
    refine ⟨_, ?_, ?_, Or.inr ⟨c, e, ?_, refused, ?_⟩⟩
    · rwa [count, front]
    · simp [load, failure]
    · simp [count, split]
    · simp [load, failure]

/-- A load that succeeds applies all records. -/
theorem applies_of_ok {s : Store} (distinct : s.tags.Nodup) {feed : Feed} {index : Nat}
    {stats : FileStats} (loaded : (s.load feed index).result = .ok stats) :
    ∃ m, Applies (start s feed.name index) feed.records m ∧ m.stats = stats ∧
      (s.load feed index).applied = feed.records.length := by
  obtain ⟨m, applied, _, ⟨all, result⟩ | ⟨_, e, _, _, failed⟩⟩ :=
    load_spec distinct feed index
  · rw [all, List.take_length] at applied
    refine ⟨m, applied, ?_, all⟩
    rw [loaded] at result
    cases ending : feed.failure with
    | none => simpa [ending] using result.symm
    | some cause => simp [ending] at result
  · rw [loaded] at failed
    cases failed

end Store

end ContentLayers
