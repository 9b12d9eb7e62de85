import ContentLayers.Proofs.Loading
import ContentLayers.Proofs.Topic
import ContentLayers.Store.Indices

/-!
# Reachable stores

The stores that declarations, writes, loads and derived indices make of a new one. Their built-in
kinds stay declared, no two kinds share a tag, and every table is valid.
-/

namespace ContentLayers

namespace Kind

/-- What a record must be to be written: a topic is built of infos. -/
def Holds : (kind : Kind) → kind.Carrier → Prop
  | .dialogue, topic => topic.Built
  | _, _ => True

theorem keepsId (kind : Kind) : Record.KeepsId kind.Carrier := by
  cases kind <;> exact fun _ _ => rfl

theorem Holds.inherit {kind : Kind} {newer older : kind.Carrier} (hn : kind.Holds newer)
    (ho : kind.Holds older) : kind.Holds (Record.inherit newer older) := by
  cases kind with
  | dialogue => exact Topic.Built.retitle ho newer.id newer.kind
  | _ => exact trivial

end Kind

/-- A decoded topic has no infos. -/
theorem decodePayload_topic {bs : Bytes} {topic : Topic} (decoded : decodePayload bs = .ok topic) :
    ∃ id kind, topic = .new id kind := by
  simp only [decodePayload] at decoded
  split at decoded
  · rename_i read
    obtain ⟨value, _, read⟩ := Option.bind_eq_some_iff.mp read
    obtain ⟨cells, _, read⟩ := Option.bind_eq_some_iff.mp read
    obtain ⟨row, _, made⟩ := Option.map_eq_some_iff.mp read
    exact ⟨row.1, row.2.1, (Except.ok.inj decoded).symm.trans made.symm⟩
  · cases decoded

namespace Kind

theorem holds_decoded {kind : Kind} {bs : Bytes} {record : kind.Carrier}
    (decoded : decodePayload bs = .ok record) : kind.Holds record := by
  cases kind with
  | dialogue =>
    obtain ⟨id, kind, rfl⟩ := decodePayload_topic decoded
    exact Topic.Built.new id kind
  | _ => exact trivial

/-- A valid table of records that may be written. -/
structure Sound (kind : Kind) (t : Table kind.Carrier) : Prop where
  valid : t.Valid
  holds : ∀ slot ∈ t.slots.toList, kind.Holds slot.record

variable {kind : Kind} {t : Table kind.Carrier} {w : Write kind.Carrier}

theorem sound_empty (kind : Kind) : kind.Sound .empty := ⟨Table.valid_empty, by simp [Table.empty]⟩

theorem Sound.settled (h : kind.Sound t) (holds : kind.Holds w.record) :
    kind.Holds (t.settled w).record := by
  obtain ⟨_, fresh⟩ | ⟨old, found, taken⟩ := Table.settled_cases t w
  · rwa [fresh]
  · rw [taken]
    exact holds.inherit (h.holds old (h.valid.slots.find?_eq_some.mp found).1)

theorem Sound.write (h : kind.Sound t) (holds : kind.Holds w.record) :
    kind.Sound (t.write w).1 := by
  refine ⟨h.valid.write kind.keepsId, fun slot mem => ?_⟩
  rw [Table.slots_write] at mem
  obtain rfl | old := h.valid.slots.mem_put mem
  · exact h.settled holds
  · exact h.holds slot old

theorem Sound.replay (h : kind.Sound t) {log : List (Write kind.Carrier)}
    (holds : ∀ w ∈ log, kind.Holds w.record) : kind.Sound (t.replay log).1 := by
  induction log generalizing t with
  | nil => exact h
  | cons w ws ih =>
    have first := h.write (holds w List.mem_cons_self)
    exact ih first fun v mem => holds v (List.mem_cons_of_mem _ mem)

/-- Merging an info into a topic leaves its slot in place, with the topic's id. -/
theorem Sound.mergeInfo {topics next : Table Topic} {active : Option String} {info : Info}
    {deleted : Bool} {merge : InfoMerge} (h : dialogue.Sound topics)
    (merged : topics.mergeInfo active info deleted = some (next, merge)) : dialogue.Sound next := by
  obtain ⟨id, slot, _, found, rfl, _⟩ := Table.mergeInfo_eq_some.mp merged
  obtain ⟨mem, _⟩ := h.valid.slots.find?_eq_some.mp found
  refine ⟨h.valid.change found (h.valid.slotId_mergedSlot found info deleted) rfl, ?_⟩
  intro changed held
  obtain rfl | old := h.valid.slots.mem_put held
  · exact Topic.Built.merge (h.holds slot mem) info deleted
  · exact h.holds changed old

end Kind

namespace Store

/-- The kinds that are declared. -/
def kinds (s : Store) : List Kind := s.shelves.map (·.kind)

/-- The stores that the operations make of a new one. -/
inductive Reachable : Store → Prop
  | new : Reachable .new
  | declare {s : Store} (h : Reachable s) (kind : Kind) : Reachable (s.declare kind).1
  | modify {s : Store} (h : Reachable s) (kind : Kind) (log : List (Write kind.Carrier))
      (holds : ∀ w ∈ log, kind.Holds w.record) :
      Reachable (s.modify kind fun table => table.replay log).1
  | load {s : Store} (h : Reachable s) (feed : Feed) (index : Nat) :
      Reachable (s.load feed index).store
  | setUp {s : Store} (h : Reachable s) : Reachable s.setUp

/-- The built-in kinds are declared, tags are distinct, and every table is sound. -/
structure Sound (s : Store) : Prop where
  builtin : ∀ kind ∈ Kind.builtins, (s.table? kind).isSome = true
  unreserved : Kind.infoTag ∉ s.tags
  distinct : s.tags.Nodup
  tables : ∀ shelf ∈ s.shelves, shelf.kind.Sound shelf.table

theorem sound_new : Store.new.Sound where
  builtin := by decide
  unreserved := by decide
  distinct := by decide
  tables := by
    intro shelf mem
    obtain ⟨kind, _, rfl⟩ := List.mem_map.mp mem
    exact kind.sound_empty

variable {s t : Store} {kind : Kind}

/-- Only the shelves count. -/
theorem Sound.of_shelves (h : s.Sound) (same : t.shelves = s.shelves) : t.Sound := by
  obtain ⟨shelves, indices, current⟩ := t
  subst same
  exact ⟨h.builtin, h.unreserved, h.distinct, h.tables⟩

theorem Sound.setShelf (h : s.Sound) {table : Table kind.Carrier}
    (declared : (s.table? kind).isSome = true) (sound : kind.Sound table) :
    (s.setShelf ⟨kind, table⟩).Sound where
  builtin other mem := by rw [isSome_table?_setShelf declared, h.builtin other mem]
  unreserved := by rw [tags_setShelf]; exact h.unreserved
  distinct := by rw [tags_setShelf]; exact h.distinct
  tables := by
    intro shelf mem
    obtain rfl | old := mem_setShelf mem
    · exact sound
    · exact h.tables shelf old

/-- The table of a kind is sound, be the kind declared or not. -/
theorem Sound.table (h : s.Sound) (kind : Kind) : kind.Sound (s.table kind) := by
  cases found : s.table? kind with
  | none => rw [Store.table, found]; exact kind.sound_empty
  | some table =>
    rw [Store.table, found]
    exact h.tables ⟨kind, table⟩ (shelf?_eq_some (table?_eq_some.mp found)).1

/-- The kind is new, and has an empty table behind the others. -/
structure Appended (s : Store) (kind : Kind) (next : Store) : Prop where
  unreserved : kind.tag ≠ Kind.infoTag
  unknown : kind.tag ∉ s.tags
  shelves : next.shelves = s.shelves ++ [.new kind]
  stale : next.current = false

/-- A declaration is refused for the reserved tag and for the tag of another kind. Otherwise it
appends a kind that is new, and leaves a store alone that declares the kind. -/
inductive Declared (s : Store) (kind : Kind) : Store × Except Misuse Unit → Prop
  | reserved (reserved : kind.tag = Kind.infoTag) : Declared s kind (s, .error .reserved)
  | taken (holder : Kind) (held : holder ∈ s.kinds) (named : holder.tag = kind.tag)
      (other : holder ≠ kind) : Declared s kind (s, .error (.taken kind.tag holder))
  | known (known : kind ∈ s.kinds) : Declared s kind (s, .ok ())
  | fresh (next : Store) (appended : s.Appended kind next) : Declared s kind (next, .ok ())

theorem declare_spec (s : Store) (kind : Kind) : Declared s kind (s.declare kind) := by
  unfold declare
  split
  · exact .reserved ‹_›
  rename_i unreserved
  split
  · rename_i shelf found
    obtain ⟨mem, named⟩ := shelf?_eq_some found
    have held : shelf.kind ∈ s.kinds := List.mem_map_of_mem mem
    split
    · rename_i same
      exact .known (same ▸ held)
    · exact .taken shelf.kind held named ‹_›
  · exact .fresh _ ⟨unreserved, shelf?_eq_none.mp ‹_›, rfl, rfl⟩

/-- A declaration that is refused leaves no trace. -/
theorem declare_refused {e : Misuse} (refused : (s.declare kind).2 = .error e) :
    (s.declare kind).1 = s := by
  have spec := s.declare_spec kind
  generalize s.declare kind = declared at spec refused
  cases spec with
  | reserved => rfl
  | taken => rfl
  | known => rfl
  | fresh => cases refused

theorem declare_cases (s : Store) (kind : Kind) :
    (s.declare kind).1 = s ∨ s.Appended kind (s.declare kind).1 := by
  have spec := s.declare_spec kind
  generalize s.declare kind = declared at spec
  cases spec with
  | reserved => exact Or.inl rfl
  | taken => exact Or.inl rfl
  | known => exact Or.inl rfl
  | fresh next appended => exact Or.inr appended

theorem Appended.tags (h : s.Appended kind t) : t.tags = s.tags ++ [kind.tag] := by
  simp [Store.tags, h.shelves, Shelf.new]

theorem Appended.nodup (h : s.Appended kind t) (distinct : s.tags.Nodup) : t.tags.Nodup := by
  rw [h.tags, ← List.concat_eq_append, List.nodup_concat]
  exact ⟨h.unknown, distinct⟩

theorem Appended.sound (h : s.Appended kind t) (sound : s.Sound) : t.Sound where
  builtin other mem := by
    obtain ⟨table, found⟩ := Option.isSome_iff_exists.mp (sound.builtin other mem)
    have kept := table?_eq_some.mp found
    simp only [shelf?] at kept
    simp [table?, shelf?, h.shelves, List.find?_append, kept]
  unreserved := by
    rw [h.tags, List.mem_append, List.mem_singleton]
    rintro (known | same)
    · exact sound.unreserved known
    · exact h.unreserved same.symm
  distinct := h.nodup sound.distinct
  tables shelf mem := by
    rw [h.shelves] at mem
    obtain old | new := List.mem_append.mp mem
    · exact sound.tables shelf old
    · rw [List.mem_singleton.mp new]
      exact kind.sound_empty

theorem Sound.declare (h : s.Sound) (kind : Kind) : (s.declare kind).1.Sound := by
  obtain same | appended := s.declare_cases kind
  · rwa [same]
  · exact appended.sound h

theorem Sound.modify (h : s.Sound) {log : List (Write kind.Carrier)}
    (holds : ∀ w ∈ log, kind.Holds w.record) :
    (s.modify kind fun table => table.replay log).1.Sound := by
  have stale : ({ s with current := false } : Store).Sound := h.of_shelves rfl
  rw [Store.modify]
  cases found : s.table? kind with
  | none => exact stale
  | some table =>
    have declared : (({ s with current := false } : Store).table? kind).isSome = true :=
      Option.isSome_iff_exists.mpr ⟨table, found⟩
    have sound := h.table kind
    rw [Store.table, found] at sound
    exact stale.setShelf declared (sound.replay holds)

theorem Sound.dialogue (h : s.Sound) : (s.table? .dialogue).isSome = true :=
  h.builtin .dialogue (by decide)

end Store

namespace Loading

/-- The store is sound and the active topic has a slot. -/
structure Sound (l : Loading Store) : Prop where
  store : l.store.Sound
  active : ∀ id, l.active = some id → ((l.store.table .dialogue).slots.find? id).isSome = true

variable {l m next : Loading Store} {c : Chunk} {records : List Chunk}

theorem sound_start {s : Store} (h : s.Sound) (name : String) (index : Nat) :
    (start s name index).Sound where
  store := h.of_shelves rfl
  active _ named := by cases named

theorem Step.sound_store (h : l.Sound) (step : Step l c next) : next.store.Sound := by
  cases step with
  | topic topic _ decoded =>
    have holds : Kind.dialogue.Holds (l.writeOf c topic).record := Kind.holds_decoded decoded
    have sound : Kind.dialogue.Sound ((l.store.table .dialogue).write (l.writeOf c topic)).1 :=
      (h.store.table .dialogue).write holds
    exact h.store.setShelf h.store.dialogue sound
  | info _ _ _ _ _ merged =>
    exact h.store.setShelf h.store.dialogue ((h.store.table .dialogue).mergeInfo merged)
  | record kind table record _ _ found decoded =>
    have known := Store.isSome_table?_of_shelf? found
    have sound : kind.Sound table := h.store.tables ⟨kind, table⟩ (Store.shelf?_eq_some found).1
    have holds : kind.Holds (l.writeOf c record).record := Kind.holds_decoded decoded
    exact h.store.setShelf known (sound.write holds)
  | skipped => exact h.store.of_shelves rfl

theorem Step.sound (h : l.Sound) (step : Step l c next) : next.Sound := by
  refine ⟨step.sound_store h, fun id named => ?_⟩
  have valid := (h.store.table .dialogue).valid
  cases step.topics h.store.dialogue with
  | header topic _ _ opened written =>
    -- the header's own write gives its topic a slot, also when it deletes the topic
    have same : topic.id = id := Option.some.inj (opened.symm.trans named)
    rw [written, valid.find?_write (Kind.keepsId .dialogue)]
    simp [writeOf, ← same, Record.id]
  | info info merge _ _ kept merged =>
    obtain ⟨active, slot, named', found, changed, _⟩ := Table.mergeInfo_eq_some.mp merged
    have same : active = id := Option.some.inj (named'.symm.trans (kept.symm.trans named))
    rw [changed, valid.slots.find?_put (valid.slotId_mergedSlot found info c.isDeleted)]
    simp [same]
  | other _ _ kept same =>
    rw [same]
    exact h.active id (kept.symm.trans named)

theorem Applies.sound (h : l.Sound) (applied : Applies l records m) : m.Sound := by
  induction applied with
  | nil => exact h
  | concat _ step ih => exact (Step.of_apply step).sound ih

/-- A file has an active topic from its first header on. -/
theorem Applies.active (h : l.Sound) (applied : Applies l records m) (fresh : l.active = none) :
    m.active = none ↔ ∀ c ∈ records, c.tag ≠ Kind.dialogue.tag := by
  induction applied with
  | nil => simp [fresh]
  | concat earlier step ih =>
    have sound := earlier.sound h
    simp only [List.mem_append, List.mem_singleton, or_imp, forall_and, forall_eq, ← ih]
    cases (Step.of_apply step).topics sound.store.dialogue with
    | header _ named _ opened => simp [opened, named]
    | info _ _ named _ kept =>
      simp [kept, named, Kind.infoTag_ne_dialogue]
    | other other _ kept => simp [kept, other]

end Loading

theorem Store.Sound.load {s : Store} (h : s.Sound) (feed : Feed) (index : Nat) :
    (s.load feed index).store.Sound := by
  obtain ⟨m, applied, store, _⟩ := Store.load_spec h.distinct feed index
  rw [store]
  exact (applied.sound (Loading.sound_start h feed.name index)).store

theorem Store.Reachable.sound {s : Store} (h : s.Reachable) : s.Sound := by
  induction h with
  | new => exact sound_new
  | declare _ kind ih => exact ih.declare kind
  | modify _ _ _ holds ih => exact ih.modify holds
  | load _ feed index ih => exact ih.load feed index
  | setUp _ ih => exact ih.of_shelves rfl

end ContentLayers
