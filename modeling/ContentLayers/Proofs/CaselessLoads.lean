import ContentLayers.Proofs.CaselessStore
import ContentLayers.Proofs.Effects
import ContentLayers.Proofs.TopicHistory

/-!
# Loads without case

Files whose records differ only in the case of ids and references are loaded alike.
-/

namespace ContentLayers

/-- A payload is decoded in both byte strings or in none, to the same value through a view. -/
theorem decodePayload_cases {α β : Type} [MsgPack.Payload α] {view : α → β} {bs cs : Bytes}
    (same : (decodePayload bs : Except StreamError α).toOption.map view =
      (decodePayload cs : Except StreamError α).toOption.map view) :
    ((decodePayload bs : Except StreamError α) = .error .payloadDecode ∧
        (decodePayload cs : Except StreamError α) = .error .payloadDecode) ∨
      ∃ a b : α, decodePayload bs = .ok a ∧ decodePayload cs = .ok b ∧ view a = view b := by
  have only (ds : Bytes) {e : StreamError}
      (failed : (decodePayload ds : Except StreamError α) = .error e) : e = .payloadDecode := by
    simp only [decodePayload] at failed
    split at failed
    · cases failed
    · exact (Except.error.inj failed).symm
  cases first : (decodePayload bs : Except StreamError α) with
  | error e =>
    cases second : (decodePayload cs : Except StreamError α) with
    | error e' => exact Or.inl ⟨by rw [only bs first], by rw [only cs second]⟩
    | ok b => simp [first, second, Except.toOption] at same
  | ok a =>
    cases second : (decodePayload cs : Except StreamError α) with
    | error e => simp [first, second, Except.toOption] at same
    | ok b => exact Or.inr ⟨a, b, rfl, rfl, by simpa [first, second, Except.toOption] using same⟩

/-- Two records differ only in case: to a store with the kinds, both cannot be decoded, or both are
the same record when folded. Nothing is asked of records of other kinds. -/
structure Chunk.SameUpToCase (kinds : List Kind) (c d : Chunk) : Prop where
  tag : c.tag = d.tag
  flags : c.flags = d.flags
  record : ∀ kind ∈ kinds, kind.tag = c.tag →
    (decodePayload c.payload : Except StreamError kind.Carrier).toOption.map kind.caseless =
      (decodePayload d.payload : Except StreamError kind.Carrier).toOption.map kind.caseless
  info : c.tag = Kind.infoTag →
    (decodePayload c.payload : Except StreamError Info).toOption.map Info.caseless =
      (decodePayload d.payload : Except StreamError Info).toOption.map Info.caseless

/-- Two files differ only in their names and in the case of their records. -/
structure Feed.SameUpToCase (kinds : List Kind) (f g : Feed) : Prop where
  records : List.Forall₂ (Chunk.SameUpToCase kinds) f.records g.records
  failure : f.failure = g.failure

/-- The counts of a file without its name. -/
def FileStats.nameless (s : FileStats) : FileStats := { s with name := "" }

theorem FileStats.nameless_countWrite (s : FileStats) (outcome : Outcome) :
    (s.countWrite outcome).nameless = s.nameless.countWrite outcome := by
  rw [countWrite_eq_add, countWrite_eq_add]
  rfl

theorem FileStats.nameless_countInfo (s : FileStats) (merge : InfoMerge) :
    (s.countInfo merge).nameless = s.nameless.countInfo merge := by
  cases merge <;> rfl

def FormatError.caseless : FormatError → FormatError
  | .orphanInfo info position => .orphanInfo (fold info) position
  | .stream cause => .stream cause
  | .decode tag position cause => .decode tag position cause
  | .unsupportedRequired tag position => .unsupportedRequired tag position

namespace Loading

/-- A load without case, and without what it reports. -/
def caseless (l : Loading Store) : Loading Store where
  store := l.store.caseless
  active := l.active.map fold
  position := l.position
  stats := l.stats.nameless
  events := []

theorem caseless_congr {l m : Loading Store} (store : l.store.caseless = m.store.caseless)
    (active : l.active.map fold = m.active.map fold) (position : l.position = m.position)
    (stats : l.stats.nameless = m.stats.nameless) : l.caseless = m.caseless := by
  simp only [caseless, store, active, position, stats]

/-- What a load comes to, and why it stops there, without case. -/
def caselessly (reached : Loading Store × Option FormatError) :
    Loading Store × Option FormatError :=
  (reached.1.caseless, reached.2.map FormatError.caseless)

theorem caseless_advance (l : Loading Store) (notices : List Notice) :
    (l.advance notices).caseless = { l.caseless with position := l.position + 1 } := rfl

theorem caseless_applyTopic (l : Loading Store) (c : Chunk) (topic : Topic) :
    (l.applyTopic c topic).caseless = l.caseless.applyTopic c topic.caseless := by
  have table : l.store.caseless.table .dialogue = (l.store.table .dialogue).map Topic.caseless :=
    l.store.table_caseless .dialogue
  have written := Table.upsert_map Topic.folds_caseless (l.store.table .dialogue) topic c.isDeleted
    (some l.stats.index)
  have index : l.stats.nameless.index = l.stats.index := rfl
  simp only [applyTopic, caseless, Table.openTopic, table, index, written, Store.setShelf_caseless,
    FileStats.nameless_countWrite]
  rfl

theorem applyInfo_congr_caseless {l m : Loading Store} {c d : Chunk} {a b : Info}
    (same : l.caseless = m.caseless) (deleted : d.isDeleted = c.isDeleted)
    (info : a.caseless = b.caseless) :
    caselessly (l.applyInfo c a) = caselessly (m.applyInfo d b) := by
  have store : l.store.caseless = m.store.caseless := congrArg (·.store) same
  have active : l.active.map fold = m.active.map fold := congrArg (·.active) same
  have position : l.position = m.position := congrArg (·.position) same
  have stats : l.stats.nameless = m.stats.nameless := congrArg (·.stats) same
  have tables : (l.store.table .dialogue).map Topic.caseless =
      (m.store.table .dialogue).map Topic.caseless := by
    have table (s : Store) : s.caseless.table .dialogue = (s.table .dialogue).map Topic.caseless :=
      s.table_caseless .dialogue
    rw [← table, ← table, store]
  have first := Table.mergeInfo_map (l.store.table .dialogue) l.active a c.isDeleted
  have second := Table.mergeInfo_map (m.store.table .dialogue) m.active b d.isDeleted
  rw [tables, active, info, ← deleted, second] at first
  rw [applyInfo, applyInfo]
  cases merged : (l.store.table .dialogue).mergeInfo l.active a c.isDeleted with
  | none =>
    rw [deleted, merged, Option.map_none, Option.map_eq_none_iff] at first
    rw [deleted, first]
    have named : fold a.id = fold b.id := congrArg (·.id) info
    simp [caselessly, same, named, position, FormatError.caseless]
  | some result =>
    rw [deleted, merged, Option.map_some] at first
    obtain ⟨result', merged', alike⟩ := Option.map_eq_some_iff.mp first
    obtain ⟨topics, merge⟩ := result
    obtain ⟨topics', merge'⟩ := result'
    obtain ⟨topics, rfl⟩ := Prod.mk.inj alike
    rw [deleted, merged']
    refine Prod.ext (caseless_congr ?_ active (congrArg (· + 1) position) ?_) rfl
    · show Store.caseless (Store.setShelf _ _) = Store.caseless (Store.setShelf _ _)
      have shelf : Shelf.caseless ⟨.dialogue, topics'⟩ = Shelf.caseless ⟨.dialogue, _⟩ :=
        congrArg (Shelf.mk .dialogue) topics
      rw [Store.setShelf_caseless, Store.setShelf_caseless, store, shelf]
    · show FileStats.nameless (FileStats.countInfo _ _) =
        FileStats.nameless (FileStats.countInfo _ _)
      rw [FileStats.nameless_countInfo, FileStats.nameless_countInfo, stats]

end Loading

/-- The kinds are all that a store declares, the topics among them. -/
structure Store.Meets (s : Store) (kinds : List Kind) : Prop where
  topics : Kind.dialogue ∈ kinds
  shelves : ∀ shelf ∈ s.shelves, shelf.kind ∈ kinds

namespace Chunk.SameUpToCase

variable {kinds : List Kind} {c d : Chunk}

theorem isDeleted (same : Chunk.SameUpToCase kinds c d) : d.isDeleted = c.isDeleted := by
  rw [Chunk.isDeleted, ← same.flags]
  rfl

theorem isRequired (same : Chunk.SameUpToCase kinds c d) : d.isRequired = c.isRequired := by
  rw [Chunk.isRequired, ← same.flags]
  rfl

end Chunk.SameUpToCase

namespace Loading

variable {kinds : List Kind} {l m : Loading Store} {c d : Chunk}

theorem apply_topic_congr (topics : Kind.dialogue ∈ kinds) (same : l.caseless = m.caseless)
    (alike : Chunk.SameUpToCase kinds c d) (named : c.tag = Kind.dialogue.tag) :
    caselessly (l.apply c) = caselessly (m.apply d) := by
  have position : l.position = m.position := congrArg (·.position) same
  have named' : d.tag = Kind.dialogue.tag := alike.tag.symm.trans named
  have decoded : (decodePayload c.payload : Except StreamError Topic).toOption.map Topic.caseless =
      (decodePayload d.payload : Except StreamError Topic).toOption.map Topic.caseless :=
    alike.record .dialogue topics named.symm
  rw [apply, apply, if_pos named, if_pos named', decode, decode]
  obtain ⟨first, second⟩ | ⟨a, b, first, second, topic⟩ := decodePayload_cases decoded
  · simp only [first, second, alike.tag, position, Except.mapError]
    exact Prod.ext same rfl
  · have written : (l.applyTopic c a).caseless = (m.applyTopic d b).caseless := by
      rw [caseless_applyTopic, caseless_applyTopic, same, topic]
      simp only [applyTopic, alike.isDeleted]
    have counted : (l.applyTopic c a).position = (m.applyTopic d b).position := position
    simp only [first, second, Except.mapError, caselessly, caseless_advance, written, counted]

theorem apply_info_congr (same : l.caseless = m.caseless) (alike : Chunk.SameUpToCase kinds c d)
    (named : c.tag = Kind.infoTag) : caselessly (l.apply c) = caselessly (m.apply d) := by
  have position : l.position = m.position := congrArg (·.position) same
  have named' : d.tag = Kind.infoTag := alike.tag.symm.trans named
  have apart : c.tag ≠ Kind.dialogue.tag := named ▸ Kind.infoTag_ne_dialogue
  have apart' : d.tag ≠ Kind.dialogue.tag := named' ▸ Kind.infoTag_ne_dialogue
  rw [apply, apply, if_neg apart, if_neg apart', if_pos named, if_pos named', decode, decode]
  obtain ⟨first, second⟩ | ⟨a, b, first, second, info⟩ := decodePayload_cases (alike.info named)
  · simp only [first, second, alike.tag, position, Except.mapError]
    exact Prod.ext same rfl
  · simp only [first, second, Except.mapError]
    exact applyInfo_congr_caseless same alike.isDeleted info

theorem apply_record_congr (meets : l.store.Meets kinds) (same : l.caseless = m.caseless)
    (alike : Chunk.SameUpToCase kinds c d) (other : c.tag ≠ Kind.dialogue.tag)
    (noInfo : c.tag ≠ Kind.infoTag) : caselessly (l.apply c) = caselessly (m.apply d) := by
  have position : l.position = m.position := congrArg (·.position) same
  have stats : l.stats.nameless = m.stats.nameless := congrArg (·.stats) same
  have index : l.stats.index = m.stats.index := congrArg (·.stats.index) same
  have store : l.store.caseless = m.store.caseless := congrArg (·.store) same
  have active : l.active.map fold = m.active.map fold := congrArg (·.active) same
  have shelves : (l.store.shelf? c.tag).map Shelf.caseless =
      (m.store.shelf? c.tag).map Shelf.caseless := by
    rw [← Store.shelf?_caseless, ← Store.shelf?_caseless, store]
  have placed {a b : Shelf} (shelf : a.caseless = b.caseless) :
      (l.store.setShelf a).caseless = (m.store.setShelf b).caseless := by
    rw [Store.setShelf_caseless, Store.setShelf_caseless, store, shelf]
  rw [apply, apply, ← alike.tag, if_neg other, if_neg other, if_neg noInfo, if_neg noInfo]
  cases found : l.store.shelf? c.tag with
  | none =>
    have found' : m.store.shelf? c.tag = none := by simpa [found] using shelves.symm
    simp only [found', alike.isRequired, position]
    cases c.isRequired with
    | true => exact Prod.ext same rfl
    | false =>
      have skipped := congrArg (fun s : FileStats => { s with skipped := s.skipped + 1 }) stats
      exact Prod.ext (caseless_congr store active (congrArg (· + 1) position) skipped) rfl
  | some shelf =>
    obtain ⟨kind, table⟩ := shelf
    rw [found] at shelves
    obtain ⟨⟨kind', table'⟩, found', shelf⟩ := Option.map_eq_some_iff.mp shelves.symm
    have shelf := shelf
    simp only [Shelf.caseless, Shelf.mk.injEq] at shelf
    obtain ⟨rfl, slots⟩ := shelf
    have tables : table'.map kind'.caseless = table.map kind'.caseless := eq_of_heq slots
    have held : Shelf.caseless ⟨kind', table⟩ = Shelf.caseless ⟨kind', table'⟩ :=
      congrArg (Shelf.mk kind') tables.symm
    obtain ⟨listed, named⟩ := Store.shelf?_eq_some found
    simp only [found', applyRecord, Shelf.load]
    obtain ⟨first, second⟩ | ⟨a, b, first, second, record⟩ :=
      decodePayload_cases (alike.record kind' (meets.shelves _ listed) named)
    · simp only [first, second, position, alike.tag]
      exact Prod.ext (caseless_congr (placed held) active rfl stats) rfl
    · have written := Table.upsert_map kind'.folds_caseless table a c.isDeleted (some l.stats.index)
      have written' := Table.upsert_map kind'.folds_caseless table' b c.isDeleted
        (some l.stats.index)
      rw [tables, ← record, written, Prod.mk.injEq] at written'
      obtain ⟨slots, outcome⟩ := written'
      have shelf : Shelf.caseless ⟨kind', (table.upsert a c.isDeleted (some l.stats.index)).1⟩ =
          Shelf.caseless ⟨kind', (table'.upsert b c.isDeleted (some l.stats.index)).1⟩ :=
        congrArg (Shelf.mk kind') slots
      simp only [first, second, alike.isDeleted, ← index]
      refine Prod.ext (caseless_congr (placed shelf) active (congrArg (· + 1) position) ?_) rfl
      show FileStats.nameless (FileStats.countWrite _ _) =
        FileStats.nameless (FileStats.countWrite _ _)
      rw [FileStats.nameless_countWrite, FileStats.nameless_countWrite, stats, outcome]

/-- A record and one that differs only in case come to the same. -/
theorem apply_congr_caseless (meets : l.store.Meets kinds) (same : l.caseless = m.caseless)
    (alike : Chunk.SameUpToCase kinds c d) : caselessly (l.apply c) = caselessly (m.apply d) := by
  by_cases topic : c.tag = Kind.dialogue.tag
  · exact apply_topic_congr meets.topics same alike topic
  by_cases info : c.tag = Kind.infoTag
  · exact apply_info_congr same alike info
  exact apply_record_congr meets same alike topic info

theorem meets_apply {next : Loading Store} (meets : l.store.Meets kinds)
    (step : l.apply c = (next, none)) : next.store.Meets kinds := by
  have replaced {kind : Kind} {table : Table kind.Carrier} (known : kind ∈ kinds) :
      (l.store.setShelf ⟨kind, table⟩).Meets kinds := by
    refine ⟨meets.topics, fun shelf mem => ?_⟩
    obtain rfl | old := Store.mem_setShelf mem
    · exact known
    · exact meets.shelves shelf old
  cases Step.of_apply step with
  | topic => exact replaced meets.topics
  | info => exact replaced meets.topics
  | record kind _ _ _ _ found =>
    have known : kind ∈ kinds := meets.shelves _ (Store.shelf?_eq_some found).1
    exact replaced known
  | skipped => exact ⟨meets.topics, meets.shelves⟩

theorem Applies.meets {records : List Chunk} (meets : l.store.Meets kinds)
    (applied : Applies l records m) : m.store.Meets kinds := by
  induction applied with
  | nil => exact meets
  | concat _ step ih => exact meets_apply ih step

/-- Records that differ only in case are applied alike, up to the same one. -/
theorem run_congr_caseless {xs ys : List Chunk} (meets : l.store.Meets kinds)
    (same : l.caseless = m.caseless) (alike : List.Forall₂ (Chunk.SameUpToCase kinds) xs ys) :
    caselessly (l.run xs) = caselessly (m.run ys) := by
  induction alike generalizing l m with
  | nil => exact Prod.ext same rfl
  | cons first _ ih =>
    have reached := apply_congr_caseless meets same first
    rw [run, run]
    cases step : l.apply _ with
    | mk n failure =>
      cases step' : m.apply _ with
      | mk k failure' =>
        rw [step, step'] at reached
        obtain ⟨ended, failed⟩ := Prod.mk.inj reached
        cases failure with
        | none =>
          obtain rfl : failure' = none := by simpa using failed.symm
          exact ih (meets_apply meets step) ended
        | some e =>
          obtain ⟨e', rfl, _⟩ := Option.map_eq_some_iff.mp failed.symm
          exact reached

end Loading

namespace Store

/-- The counts of a load, or its error, without case and without the name of the file. -/
def outcome (result : Except FormatError FileStats) : Except FormatError FileStats :=
  (result.map FileStats.nameless).mapError FormatError.caseless

open Loading

variable {kinds : List Kind} {s t : Store}

theorem Meets.load (meets : s.Meets kinds) (h : s.Sound) (feed : Feed) (index : Nat) :
    (s.load feed index).store.Meets kinds := by
  obtain ⟨m, applied, store, _⟩ := load_spec h.distinct feed index
  have began : (start s feed.name index).store.Meets kinds := ⟨meets.topics, meets.shelves⟩
  rw [store]
  exact applied.meets began

/-- Files that differ only in case are loaded alike, into stores that do. -/
theorem load_congr_caseless (meets : s.Meets kinds) (same : s.caseless = t.caseless)
    {f g : Feed} (alike : f.SameUpToCase kinds g) (index : Nat) :
    (s.load f index).store.caseless = (t.load g index).store.caseless ∧
      outcome (s.load f index).result = outcome (t.load g index).result := by
  have began : (start s f.name index).caseless = (start t g.name index).caseless := by
    have store : ({ s with current := false } : Store).caseless =
        ({ t with current := false } : Store).caseless :=
      congrArg (fun u : Store => { u with current := false }) same
    exact caseless_congr store rfl rfl rfl
  have began' : (start s f.name index).store.Meets kinds := ⟨meets.topics, meets.shelves⟩
  have reached := run_congr_caseless began' began alike.records
  rw [load, load]
  cases ran : (start s f.name index).run f.records with
  | mk l failure =>
    cases ran' : (start t g.name index).run g.records with
    | mk m failure' =>
      rw [ran, ran'] at reached
      obtain ⟨ended, failed⟩ := Prod.mk.inj reached
      have store : l.store.caseless = m.store.caseless := congrArg (·.store) ended
      have stats : l.stats.nameless = m.stats.nameless := congrArg (·.stats) ended
      simp only [store_ended]
      refine ⟨store, ?_⟩
      cases failure with
      | none =>
        obtain rfl : failure' = none := by simpa using failed.symm
        rw [alike.failure]
        cases g.failure with
        | none => exact congrArg Except.ok stats
        | some cause => rfl
      | some e =>
        obtain ⟨e', rfl, cause⟩ := Option.map_eq_some_iff.mp failed.symm
        exact congrArg Except.error cause.symm

/-- Two files of the same place in the load order that differ only in case. -/
def SameFiles (kinds : List Kind) (f g : Feed × Nat) : Prop :=
  f.1.SameUpToCase kinds g.1 ∧ f.2 = g.2

theorem loadAll_congr_caseless {files others : List (Feed × Nat)} (h : s.Sound)
    (meets : s.Meets kinds) (same : s.caseless = t.caseless)
    (alike : List.Forall₂ (SameFiles kinds) files others) :
    (s.loadAll files).caseless = (t.loadAll others).caseless ∧
      (s.resultsAll files).map outcome = (t.resultsAll others).map outcome := by
  induction alike generalizing s t with
  | nil => exact ⟨same, rfl⟩
  | @cons f g _ _ first _ ih =>
    obtain ⟨feed, index⟩ := f
    obtain ⟨other, index'⟩ := g
    obtain ⟨first, rfl⟩ := first
    obtain ⟨store, result⟩ := load_congr_caseless meets same first index
    obtain ⟨final, results⟩ := ih (h.load feed index) (meets.load h feed index) store
    exact ⟨final, by rw [resultsAll, resultsAll, List.map_cons, List.map_cons, result, results]⟩

end Store

end ContentLayers
