import ContentLayers.Proofs.FailedLoad

/-!
# Accepted files

Whether a store accepts a record is decided by the kinds that it declares and by the records before
it in the file. What the tables hold does not matter.
-/

namespace ContentLayers

open Loading History

namespace Store

variable {s t : Store} {kind : Kind} {earlier records : List Chunk} {c : Chunk} {e : FormatError}

/-- A shelf is found under the tag of its kind, since no two kinds share a tag. -/
theorem Sound.shelf?_of_mem (h : s.Sound) {shelf : Shelf} (mem : shelf ∈ s.shelves) :
    s.shelf? shelf.kind.tag = some shelf := by
  cases found : s.shelf? shelf.kind.tag with
  | none => exact absurd (List.mem_map_of_mem mem) (shelf?_eq_none.mp found)
  | some other =>
    obtain ⟨held, named⟩ := shelf?_eq_some found
    rw [List.inj_on_of_nodup_map h.distinct held mem named]

theorem Sound.table_of_mem (h : s.Sound) {shelf : Shelf} (mem : shelf ∈ s.shelves) :
    s.table shelf.kind = shelf.table := by
  have found : s.table? shelf.kind = some shelf.table := table?_eq_some.mpr (h.shelf?_of_mem mem)
  rw [Store.table, found, Option.getD_some]

theorem Sound.idsOf_of_mem (h : s.Sound) {shelf : Shelf} (mem : shelf ∈ s.shelves) :
    s.idsOf shelf.kind.tag = shelf.ids := by
  rw [idsOf, h.shelf?_of_mem mem, Option.map_some, Option.getD_some]

/-- A kind has a table when it is declared. -/
theorem Sound.isSome_table? (h : s.Sound) : (s.table? kind).isSome = true ↔ kind ∈ s.kinds := by
  rw [kinds, List.mem_map]
  constructor
  · intro declared
    obtain ⟨table, found⟩ := Option.isSome_iff_exists.mp declared
    exact ⟨_, (shelf?_eq_some (table?_eq_some.mp found)).1, rfl⟩
  · rintro ⟨shelf, mem, rfl⟩
    have here : s.shelf? shelf.kind.tag = some ⟨shelf.kind, shelf.table⟩ := h.shelf?_of_mem mem
    exact isSome_table?_of_shelf? here

theorem Sound.table?_eq_none (h : s.Sound) : s.table? kind = none ↔ kind ∉ s.kinds := by
  rw [← h.isSome_table?, Bool.not_eq_true, Option.isSome_eq_false_iff, Option.isNone_iff_eq_none]

theorem Sound.table_undeclared (h : s.Sound) (undeclared : kind ∉ s.kinds) :
    s.table kind = .empty := by
  rw [Store.table, h.table?_eq_none.mpr undeclared, Option.getD_none]

theorem Sound.table_eq_of_undeclared (h : s.Sound) (h' : t.Sound) (same : s.kinds = t.kinds)
    (undeclared : kind ∉ s.kinds) : s.table kind = t.table kind := by
  rw [h.table_undeclared undeclared, h'.table_undeclared (same ▸ undeclared)]

/-- A store is its kinds, each with its table. -/
theorem Sound.shelves_eq (h : s.Sound) :
    s.shelves = s.kinds.map fun kind => ⟨kind, s.table kind⟩ := by
  rw [kinds, List.map_map]
  refine (List.map_id _).symm.trans (List.map_congr_left fun shelf mem => ?_)
  rw [Function.comp_apply, h.table_of_mem mem, id_eq]

theorem eq_of_tag {other : Kind} (declared : (s.table? kind).isSome = true)
    (declared' : (s.table? other).isSome = true) (named : kind.tag = other.tag) : kind = other := by
  obtain ⟨table, found⟩ := Option.isSome_iff_exists.mp declared
  obtain ⟨table', found'⟩ := Option.isSome_iff_exists.mp declared'
  rw [table?_eq_some, named, table?_eq_some.mp found', Option.some.injEq] at found
  exact congrArg (·.kind) found.symm

theorem Sound.tag_ne_infoTag (h : s.Sound) (declared : (s.table? kind).isSome = true) :
    kind.tag ≠ Kind.infoTag := by
  obtain ⟨table, found⟩ := Option.isSome_iff_exists.mp declared
  intro reserved
  have held := (shelf?_eq_some (table?_eq_some.mp found)).1
  have listed := List.mem_map_of_mem (f := (·.kind.tag)) held
  exact h.unreserved (reserved ▸ listed)

/-- Declared kinds with one tag are one kind. -/
theorem Sound.eq_of_declared (h : s.Sound) {other : Kind} (declared : kind ∈ s.kinds)
    (declared' : other ∈ s.kinds) (named : kind.tag = other.tag) : kind = other :=
  eq_of_tag (h.isSome_table?.mpr declared) (h.isSome_table?.mpr declared') named

theorem mem_tags {tag : Tag} : tag ∈ s.tags ↔ ∃ kind ∈ s.kinds, kind.tag = tag := by
  simp [tags, kinds]

theorem tags_eq_of_kinds (same : s.kinds = t.kinds) : s.tags = t.tags := by
  have tags (u : Store) : u.tags = u.kinds.map Kind.tag := by simp [Store.tags, Store.kinds]
  rw [tags, tags, same]

theorem Sound.kinds_setShelf (h : s.Sound) {table : Table kind.Carrier}
    (declared : (s.table? kind).isSome = true) : (s.setShelf ⟨kind, table⟩).kinds = s.kinds := by
  obtain ⟨old, found⟩ := Option.isSome_iff_exists.mp declared
  have held := (shelf?_eq_some (table?_eq_some.mp found)).1
  simp only [kinds, Store.setShelf, List.map_map]
  refine List.map_congr_left fun other mem => ?_
  by_cases same : other.kind.tag = kind.tag
  · have here : other = ⟨kind, old⟩ := List.inj_on_of_nodup_map h.distinct mem held same
    simp [here]
  · simp [same]

/-- A reason to refuse a record does not depend on what the tables hold. -/
theorem Rejection.congr (h : s.Sound) (h' : t.Sound) (same : s.kinds = t.kinds)
    (rejection : s.Rejection earlier c e) : t.Rejection earlier c e := by
  cases rejection with
  | undecodable kind cause declared named undecodable =>
    have declared' := h'.isSome_table?.mpr (same ▸ h.isSome_table?.mp declared)
    exact .undecodable kind cause declared' named undecodable
  | undecodableInfo cause named undecodable => exact .undecodableInfo cause named undecodable
  | orphan info named decoded headless => exact .orphan info named decoded headless
  | unsupported noInfo undeclared required =>
    exact .unsupported noInfo (tags_eq_of_kinds same ▸ undeclared) required

/-- None of the records is refused, each after those before it. -/
def Accepts (s : Store) : List Chunk → Prop :=
  Each fun earlier c => ∀ e, ¬ s.Rejection earlier c e

theorem Accepts.congr (h : s.Sound) (h' : t.Sound) (same : s.kinds = t.kinds)
    (accepts : s.Accepts records) : t.Accepts records :=
  accepts.imp fun _ _ _ accepted e rejection => accepted e (rejection.congr h' h same.symm)

/-- Which records of a feed a store takes, and how that ends: all of them and then the feed's own
end, or those before the first one that is refused. -/
inductive Takes (s : Store) (feed : Feed) : List Chunk → Except FormatError FileStats → Prop
  | whole {stats : FileStats} (accepted : s.Accepts feed.records) (ended : feed.failure = none) :
      Takes s feed feed.records (.ok stats)
  | unreadable {cause : StreamError} (accepted : s.Accepts feed.records)
      (broken : feed.failure = some cause) : Takes s feed feed.records (.error (.stream cause))
  | refused {front rest : List Chunk} {c : Chunk} {e : FormatError}
      (split : feed.records = front ++ c :: rest) (accepted : s.Accepts front)
      (rejection : s.Rejection front c e) : Takes s feed front (.error e)

theorem Takes.congr (h : s.Sound) (h' : t.Sound) (same : s.kinds = t.kinds) {feed : Feed}
    {result : Except FormatError FileStats} (takes : s.Takes feed records result) :
    t.Takes feed records result := by
  cases takes with
  | whole accepted ended => exact .whole (accepted.congr h h' same) ended
  | unreadable accepted broken => exact .unreadable (accepted.congr h h' same) broken
  | refused split accepted rejection =>
    exact .refused split (accepted.congr h h' same) (rejection.congr h h' same)

end Store

namespace Loading

variable {l m next : Loading Store} {c : Chunk} {e : FormatError} {earlier records : List Chunk}

theorem Step.kinds (h : l.Sound) (step : Step l c next) : next.store.kinds = l.store.kinds := by
  cases step with
  | topic => exact h.store.kinds_setShelf h.store.dialogue
  | info => exact h.store.kinds_setShelf h.store.dialogue
  | record kind table record other noInfo found =>
    exact h.store.kinds_setShelf (Store.isSome_table?_of_shelf? found)
  | skipped => rfl

theorem Applies.kinds (h : l.Sound) (applied : Applies l records m) :
    m.store.kinds = l.store.kinds := by
  induction applied with
  | nil => rfl
  | concat earlier step ih => rw [(Step.of_apply step).kinds (earlier.sound h), ih]

/-- A record is refused for the very reasons that its store has. -/
theorem Sound.apply_eq_error (h : l.Sound) (counted : l.position = earlier.length)
    (headless : l.active = none ↔ ∀ d ∈ earlier, d.tag ≠ Kind.dialogue.tag) :
    (l.apply c).2 = some e ↔ l.store.Rejection earlier c e := by
  refine ⟨fun refused => (Refusal.of_apply refused).rejection h counted headless.mp, ?_⟩
  intro rejection
  cases rejection with
  | undecodable kind cause declared named undecodable =>
    by_cases topic : kind = .dialogue
    · subst topic
      rw [apply, if_pos named.symm, decode, undecodable, counted]
      rfl
    · obtain ⟨table, found⟩ := Option.isSome_iff_exists.mp declared
      have noTopic : c.tag ≠ Kind.dialogue.tag := fun tagged =>
        topic (Store.eq_of_tag declared h.store.dialogue (named.trans tagged))
      have noInfo : c.tag ≠ Kind.infoTag := named ▸ h.store.tag_ne_infoTag declared
      have shelf := Store.table?_eq_some.mp found
      rw [named] at shelf
      rw [apply, if_neg noTopic, if_neg noInfo, shelf]
      simp only [applyRecord, Shelf.load, undecodable, counted]
  | undecodableInfo cause named undecodable =>
    have noTopic : c.tag ≠ Kind.dialogue.tag := named ▸ Kind.infoTag_ne_dialogue
    rw [apply, if_neg noTopic, if_pos named, decode, undecodable, counted]
    rfl
  | orphan info named decoded none =>
    have noTopic : c.tag ≠ Kind.dialogue.tag := named ▸ Kind.infoTag_ne_dialogue
    rw [apply, if_neg noTopic, if_pos named, decode, decoded]
    simp only [Except.mapError, applyInfo, headless.mpr none, counted]
    rfl
  | unsupported noInfo undeclared required =>
    have unknown : l.store.shelf? c.tag = none := Store.shelf?_eq_none.mpr undeclared
    have noTopic : c.tag ≠ Kind.dialogue.tag := by
      obtain ⟨table, found⟩ := Option.isSome_iff_exists.mp h.store.dialogue
      intro tagged
      rw [tagged, Store.table?_eq_some.mp found] at unknown
      cases unknown
    rw [apply, if_neg noTopic, if_neg noInfo, unknown]
    simp only [required, if_true, counted]

/-- Of the records before it, a file keeps how many they are and whether one is a header. -/
theorem Applies.begun {s : Store} (h : s.Sound) {name : String} {index : Nat}
    (applied : Applies (start s name index) records m) :
    m.Sound ∧ m.store.kinds = s.kinds ∧ m.position = records.length ∧
      (m.active = none ↔ ∀ d ∈ records, d.tag ≠ Kind.dialogue.tag) := by
  have began := sound_start h name index
  refine ⟨applied.sound began, applied.kinds began, ?_, applied.active began rfl⟩
  simpa [start] using applied.counts.2.1

/-- In a file a record is refused for the reasons of the store that the file is loaded into. -/
theorem Applies.apply_eq_error {s : Store} (h : s.Sound) {name : String} {index : Nat}
    (applied : Applies (start s name index) records m) :
    (m.apply c).2 = some e ↔ s.Rejection records c e := by
  obtain ⟨sound, kinds, counted, headless⟩ := applied.begun h
  rw [sound.apply_eq_error counted headless]
  exact ⟨(·.congr sound.store h kinds), (·.congr h sound.store kinds.symm)⟩

/-- The records of a file are all applied when none of them is refused. -/
theorem exists_applies_iff {s : Store} (h : s.Sound) (name : String) (index : Nat) :
    (∃ m, Applies (start s name index) records m) ↔ s.Accepts records := by
  constructor
  · rintro ⟨m, applied⟩
    induction applied with
    | nil => exact each_nil
    | concat earlier step ih =>
      refine each_concat.mpr ⟨ih, fun e rejection => ?_⟩
      have refused := (earlier.apply_eq_error h).mpr rejection
      rw [step] at refused
      cases refused
  · induction records using List.reverseRecOn with
    | nil => exact fun _ => ⟨_, .nil⟩
    | append_singleton records c ih =>
      intro accepts
      obtain ⟨front, last⟩ := each_concat.mp accepts
      obtain ⟨m, applied⟩ := ih front
      cases step : m.apply c with
      | mk next failure =>
        cases failure with
        | none => exact ⟨next, applied.concat step⟩
        | some e => exact absurd ((applied.apply_eq_error h).mp (congrArg (·.2) step)) (last e)

end Loading

namespace Store

variable {s t : Store} {feed : Feed}

theorem Sound.load_of_refused (h : s.Sound) {index : Nat} {m : Loading Store}
    {records rest : List Chunk} {c : Chunk} {e : FormatError}
    (applied : Applies (start s feed.name index) records m)
    (split : feed.records = records ++ c :: rest) (refused : (m.apply c).2 = some e) :
    (s.load feed index).applied = records.length ∧ (s.load feed index).result = .error e := by
  have sound := applied.sound (sound_start h feed.name index)
  have stopped : (start s feed.name index).run feed.records = (m, some e) := by
    rw [split, applied.run_append, run, apply_refused sound.store.distinct refused]
  refine ⟨?_, ?_⟩
  · rw [applied_load, stopped, applied.counts.2.2]
    simp [start]
  · rw [Store.load, stopped]
    rfl

theorem Sound.kinds_load (h : s.Sound) (feed : Feed) (index : Nat) :
    (s.load feed index).store.kinds = s.kinds := by
  obtain ⟨m, applied, store, _⟩ := load_spec h.distinct feed index
  rw [store]
  exact applied.kinds (sound_start h feed.name index)

/-- A load applies the records that the store takes, and ends as they do. -/
theorem Sound.load_takes (h : s.Sound) (feed : Feed) (index : Nat) :
    s.Takes feed (feed.records.take (s.load feed index).applied) (s.load feed index).result := by
  obtain ⟨_, whole⟩ | ⟨done, c, rest, e, split, part, refused, _⟩ :=
    run_cases (l := start s feed.name index) h.distinct feed.records
  · have accepts := (exists_applies_iff h feed.name index).mp ⟨_, whole⟩
    obtain ⟨_, count, result⟩ := load_of_applies feed whole
    rw [count, List.take_length, result]
    cases ending : feed.failure with
    | none => exact .whole accepts ending
    | some cause => exact .unreadable accepts ending
  · have accepts := (exists_applies_iff h feed.name index).mp ⟨_, part⟩
    obtain ⟨count, result⟩ := h.load_of_refused part split refused
    have front : feed.records.take done.length = done := by rw [split, List.take_left]
    rw [count, front, result]
    exact .refused split accepts ((part.apply_eq_error h).mp refused)

/-- A load succeeds when all records are accepted and the feed ends properly. -/
theorem Sound.load_succeeds_iff (h : s.Sound) (feed : Feed) (index : Nat) :
    (∃ stats, (s.load feed index).result = .ok stats) ↔
      feed.failure = none ∧ s.Accepts feed.records := by
  obtain ⟨_, whole⟩ | ⟨done, c, rest, e, split, part, refused, _⟩ :=
    run_cases (l := start s feed.name index) h.distinct feed.records
  · have accepts := (exists_applies_iff h feed.name index).mp ⟨_, whole⟩
    rw [(load_of_applies feed whole).2.2]
    cases feed.failure <;> simp [accepts]
  · have rejection := (part.apply_eq_error h).mp refused
    rw [(h.load_of_refused part split refused).2]
    simp only [reduceCtorEq, exists_false, false_iff, not_and]
    intro _ accepts
    refine accepts done.length c (by simp [split]) e ?_
    rwa [split, List.take_left]

/-- Stores with the same kinds stop at the same record of a feed for the same reason. -/
theorem Sound.load_stops_alike (h : s.Sound) (h' : t.Sound) (same : s.kinds = t.kinds) (feed : Feed)
    (index other : Nat) :
    (t.load feed other).applied = (s.load feed index).applied ∧
      ∀ e, (t.load feed other).result = .error e ↔ (s.load feed index).result = .error e := by
  obtain ⟨_, whole⟩ | ⟨done, c, rest, e, split, part, refused, _⟩ :=
    run_cases (l := start s feed.name index) h.distinct feed.records
  · have accepts := (exists_applies_iff h feed.name index).mp ⟨_, whole⟩
    obtain ⟨m, whole'⟩ := (exists_applies_iff h' feed.name other).mpr
      (accepts.congr h h' same)
    obtain ⟨_, count, result⟩ := load_of_applies feed whole
    obtain ⟨_, count', result'⟩ := load_of_applies feed whole'
    refine ⟨count'.trans count.symm, fun e => ?_⟩
    rw [result, result']
    cases feed.failure <;> simp
  · have accepts := (exists_applies_iff h feed.name index).mp ⟨_, part⟩
    obtain ⟨m, part'⟩ := (exists_applies_iff h' feed.name other).mpr
      (accepts.congr h h' same)
    have rejection := ((part.apply_eq_error h).mp refused).congr h h' same
    obtain ⟨count, result⟩ := h.load_of_refused part split refused
    have refused' := (part'.apply_eq_error h').mpr rejection
    obtain ⟨count', result'⟩ := h'.load_of_refused part' split refused'
    refine ⟨count'.trans count.symm, fun e => ?_⟩
    rw [result, result']

end Store

end ContentLayers
