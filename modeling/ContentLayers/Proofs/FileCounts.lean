import ContentLayers.Proofs.Effects
import ContentLayers.Proofs.Layers

/-!
# Counts of a file

The statistics of a file count its records by what they are, and its overrides by who wrote what
they overwrite.
-/

namespace ContentLayers

open History

namespace FileStats

variable {index p n : Nat} {previous : List Nat}

theorem getElem?_bump (overrides : Std.ExtTreeMap Nat Nat) :
    (bump index overrides n)[p]? =
      if n = p ∧ p ≠ index then some (overrides[p]?.getD 0 + 1) else overrides[p]? := by
  rw [bump]
  by_cases own : n = index
  · rw [if_pos own, if_neg fun same => same.2 (same.1.symm.trans own)]
  · rw [if_neg own, Std.ExtTreeMap.getElem?_insert]
    by_cases same : n = p
    · subst same
      simp [own, Std.ExtTreeMap.getD_eq_getD_getElem?]
    · simp [same]

/-- Records replaced of files, one after the other, by the file with an index. -/
def bumpAll (index : Nat) (previous : List Nat) : Std.ExtTreeMap Nat Nat :=
  previous.foldl (bump index) ∅

theorem bumpAll_concat :
    bumpAll index (previous ++ [n]) = bump index (bumpAll index previous) n := by
  rw [bumpAll, List.foldl_append]
  rfl

/-- A file is listed when a record of it was replaced, and never under its own index. -/
theorem getElem?_bumpAll :
    (bumpAll index previous)[p]? =
      if p ∈ previous ∧ p ≠ index then some (previous.count p) else none := by
  induction previous using List.reverseRecOn with
  | nil => simp [bumpAll]
  | append_singleton previous n ih =>
    rw [bumpAll_concat, getElem?_bump, ih, List.count_append, List.count_singleton]
    by_cases own : p = index
    · simp [own]
    by_cases same : n = p
    · subst same
      by_cases known : n ∈ previous
      · simp [own, known]
      · simp [own, known, List.count_eq_zero_of_not_mem known]
    · simp [own, same, Ne.symm same]

theorem sum_bumpAll :
    ((bumpAll index previous).toList.map (·.2)).sum = previous.countP (· != index) := by
  have counts : (bumpAll index previous).toList.map (·.2) =
      (bumpAll index previous).keys.map (previous.count ·) := by
    rw [← Std.ExtTreeMap.map_fst_toList_eq_keys, List.map_map]
    refine List.map_congr_left fun entry mem => ?_
    have held := Std.ExtTreeMap.mem_toList_iff_getElem?_eq_some.mp mem
    rw [getElem?_bumpAll] at held
    split at held
    · exact (Option.some.inj held).symm
    · cases held
  have keys : (bumpAll index previous).keys.Perm (previous.dedup.filter (· != index)) := by
    refine (List.perm_ext_iff_of_nodup Std.ExtTreeMap.nodup_keys
      ((List.nodup_dedup _).filter _)).mpr fun p => ?_
    rw [Std.ExtTreeMap.mem_keys, ← Std.ExtTreeMap.isSome_getElem?_iff_mem, getElem?_bumpAll]
    by_cases own : p = index <;> simp [own]
  rw [counts, (keys.map _).sum_eq, List.sum_map_count_dedup_filter_eq_countP]

theorem totalOverrides_eq_sum (stats : FileStats) :
    stats.totalOverrides = (stats.overrides.toList.map (·.2)).sum := by
  rw [totalOverrides, List.sum_eq_foldl, List.foldl_map]

end FileStats

namespace Table

variable {α : Type} [Record α]

/-- A write replaces the record of the live slot with its id. -/
theorem tally_write (t : Table α) (w : Write α) :
    FileStats.Tally.ofWrite (t.write w).2 =
      if w.deleted then { deleted := 1 }
      else
        { loaded := 1
          previous := ((t.slots.find? (Record.id w.record)).filter (·.live)).bind (·.origin) } := by
  rw [outcome_write]
  cases t.slots.find? (Record.id w.record) with
  | none => cases w.deleted <;> rfl
  | some old =>
    obtain ⟨record, live, origin⟩ := old
    cases w.deleted <;> cases live <;> cases origin <;> rfl

end Table

namespace Store

variable {s t : Store} {layers : List Layer} {kind : Kind} {c : Chunk}

/-- A declared kind is the one with its tag. -/
theorem Sound.find?_kinds (h : s.Sound) (declared : kind ∈ s.kinds) :
    s.kinds.find? (·.tag == kind.tag) = some kind := by
  cases found : s.kinds.find? (·.tag == kind.tag) with
  | none =>
    have apart := List.find?_eq_none.mp found kind declared
    simp at apart
  | some other =>
    have same : other.tag = kind.tag := by simpa using List.find?_some found
    rw [h.eq_of_declared (List.mem_of_find?_eq_some found) declared same]

theorem find?_kinds_eq_none {tag : Tag} :
    s.kinds.find? (·.tag == tag) = none ↔ tag ∉ s.tags := by
  simp [kinds, tags, List.find?_eq_none]

/-- A record overwrites what the layers tell of its id. -/
theorem Bears.previous_eq (h : s.Bears layers t) (sound : s.Sound) (declared : kind ∈ s.kinds)
    {w : Write kind.Carrier} (named : c.tag = kind.tag)
    (content : c.content? kind = some (w.record, !w.deleted)) :
    (if w.deleted then none
      else (((t.table kind).slots.find? (Record.id w.record)).filter (·.live)).bind (·.origin)) =
      (s.overwritten? layers c).bind (·.origin) := by
  have marks := h.marks kind declared (Record.id w.record)
  rw [overwritten?, named, sound.find?_kinds declared, Option.bind_some, content, Option.bind_some,
    Kind.contentId_mk]
  cases w.deleted with
  | true => rfl
  | false =>
    have live := congrArg (fun found => (found.filter (·.1)).bind (·.2)) marks
    simpa [Option.filter_map, Option.bind_map, Function.comp_def] using live

end Store

namespace Loading

/-- What a record adds to the counts of its file. -/
inductive CountStep (l : Loading Store) (c : Chunk) (next : Loading Store) : Prop
  | written (kind : Kind) (w : Write kind.Carrier) (declared : kind ∈ l.store.kinds)
      (named : c.tag = kind.tag) (content : c.content? kind = some (w.record, !w.deleted))
      (deleted : w.deleted = c.isDeleted)
      (counted : next.stats = l.stats.add (.ofWrite ((l.store.table kind).write w).2))
  | info (info : Info) (topics : Table Topic) (merge : InfoMerge) (named : c.tag = Kind.infoTag)
      (held : c.infoWrite? = some ⟨info, c.isDeleted⟩)
      (merged : (l.store.table .dialogue).mergeInfo l.active info c.isDeleted =
        some (topics, merge))
      (counted : next.stats = l.stats.add (.ofInfo merge))
  | skipped (noInfo : c.tag ≠ Kind.infoTag) (unknown : c.tag ∉ l.store.tags)
      (counted : next.stats = l.stats.add { skipped := 1 })

variable {l m next : Loading Store} {c : Chunk} {records : List Chunk}

theorem Step.count (h : Step l c next) (sound : l.Sound) : CountStep l c next := by
  cases h with
  | topic topic named decoded =>
    exact .written .dialogue (l.writeOf c topic) (sound.store.isSome_table?.mp sound.store.dialogue)
      named (Chunk.content?_decoded named decoded) rfl (FileStats.countWrite_eq_add _ _)
  | info info topics merge named decoded merged =>
    exact .info info topics merge named (Chunk.infoWrite?_decoded named decoded) merged
      (FileStats.countInfo_eq_add _ _)
  | record kind table record other noInfo found decoded =>
    have known := Store.isSome_table?_of_shelf? found
    have named : kind.tag = c.tag := (Store.shelf?_eq_some found).2
    rw [← named] at found
    have here : l.store.table kind = table := by
      rw [Store.table, Store.table?_eq_some.mpr found, Option.getD_some]
    refine .written kind (l.writeOf c record) (sound.store.isSome_table?.mp known) named.symm
      (Chunk.content?_decoded named.symm decoded) rfl ?_
    rw [here]
    exact FileStats.countWrite_eq_add _ _
  | skipped other noInfo unknown optional =>
    refine .skipped noInfo (Store.shelf?_eq_none.mp unknown) ?_
    simp [FileStats.add, advance]

end Loading

namespace FileStats

/-- The counts of a file, told from its records and from what they overwrote. -/
structure Counts (stats : FileStats) (tags : List Tag) (records : List Chunk) (marks : List Mark) :
    Prop where
  loaded : stats.loaded = records.countP fun c => c.tag ∈ tags ∧ c.isDeleted = false
  deleted : stats.deleted = records.countP fun c => c.tag ∈ tags ∧ c.isDeleted = true
  skipped : stats.skipped = records.countP fun c => c.tag ∉ tags ∧ c.tag ≠ Kind.infoTag
  overrides : stats.overrides = bumpAll stats.index (marks.filterMap (·.origin))

theorem counts_new (name : String) (index : Nat) (tags : List Tag) :
    (new name index).Counts tags [] [] := ⟨rfl, rfl, rfl, rfl⟩

/-- What one more record adds, in a store that declares some tags. -/
structure Tally.Counts (tally : Tally) (tags : List Tag) (c : Chunk) (mark : Option Mark) :
    Prop where
  loaded : tally.loaded = if c.tag ∈ tags ∧ c.isDeleted = false then 1 else 0
  deleted : tally.deleted = if c.tag ∈ tags ∧ c.isDeleted = true then 1 else 0
  skipped : tally.skipped = if c.tag ∉ tags ∧ c.tag ≠ Kind.infoTag then 1 else 0
  previous : tally.previous = mark.bind (·.origin)

variable {stats : FileStats} {tally : Tally} {tags : List Tag} {records : List Chunk}
  {marks : List Mark} {c : Chunk} {mark : Option Mark}

theorem Counts.add (h : stats.Counts tags records marks) (one : tally.Counts tags c mark) :
    (stats.add tally).Counts tags (records ++ [c]) (marks ++ mark.toList) where
  loaded := by simp [FileStats.add, h.loaded, one.loaded, List.countP_append, List.countP_singleton]
  deleted := by
    simp [FileStats.add, h.deleted, one.deleted, List.countP_append, List.countP_singleton]
  skipped := by
    simp [FileStats.add, h.skipped, one.skipped, List.countP_append, List.countP_singleton]
  overrides := by
    have listed : (marks ++ mark.toList).filterMap (·.origin) =
        marks.filterMap (·.origin) ++ tally.previous.toList := by
      rw [List.filterMap_append, one.previous]
      cases mark with
      | none => rfl
      | some mark => cases origin : mark.origin <;> simp [origin]
    rw [listed, FileStats.add, h.overrides]
    cases tally.previous with
    | none => simp
    | some p => rw [Option.toList_some, bumpAll_concat, Option.elim_some]

/-- Every record is counted in one place, infos apart. -/
theorem Counts.whole (h : stats.Counts tags records marks) (reserved : Kind.infoTag ∉ tags) :
    stats.loaded + stats.deleted + stats.skipped + records.countP (·.tag = Kind.infoTag) =
      records.length := by
  rw [h.loaded, h.deleted, h.skipped]
  clear h
  induction records with
  | nil => rfl
  | cons c records ih =>
    simp only [List.countP_cons, List.length_cons, ← ih]
    by_cases known : c.tag ∈ tags
    · have noInfo : c.tag ≠ Kind.infoTag := fun same => reserved (same ▸ known)
      cases gone : c.isDeleted <;> simp [known, noInfo] <;> omega
    · by_cases info : c.tag = Kind.infoTag <;> simp [known, info, reserved] <;> omega

/-- Overrides are attributed to the writers of what was overwritten. -/
theorem Counts.getElem?_overrides (h : stats.Counts tags records marks) (p n : Nat) :
    stats.overrides[p]? = some n ↔
      0 < n ∧ p ≠ stats.index ∧ n = marks.countP fun mark => mark.origin = some p := by
  have count : (marks.filterMap (·.origin)).count p =
      marks.countP fun mark => mark.origin = some p := by
    rw [List.count, List.countP_filterMap]
    refine List.countP_congr fun mark _ => ?_
    cases mark.origin <;> simp
  simp only [h.overrides, getElem?_bumpAll, ← List.count_pos_iff, count]
  split
  · rw [Option.some_inj]
    omega
  · simp only [reduceCtorEq, false_iff]
    omega

theorem Counts.totalOverrides (h : stats.Counts tags records marks) :
    stats.totalOverrides =
      marks.countP fun mark => mark.origin.isSome ∧ mark.origin ≠ some stats.index := by
  rw [totalOverrides_eq_sum, h.overrides, sum_bumpAll, List.countP_filterMap]
  refine List.countP_congr fun mark _ => ?_
  cases mark.origin <;> simp

end FileStats

namespace Store

variable {s t : Store} {layers : List Layer} {name : String} {index : Nat} {records : List Chunk}
  {c : Chunk} {m next : Loading Store}

theorem overwritten_concat (layer : Layer) :
    s.overwritten layers { layer with records := layer.records ++ [c] } =
      s.overwritten layers layer ++ (s.overwritten? (layers ++ [layer]) c).toList :=
  select_concat _ layer.records c

/-- One more record is counted for what it is and for whose record it overwrites. -/
theorem Bears.count (h : s.Bears layers m.store) (sound : s.Sound) (began : m.Sound)
    (step : Loading.Step m c next) :
    ∃ tally : FileStats.Tally, next.stats = m.stats.add tally ∧
      tally.Counts s.tags c (s.overwritten? layers c) := by
  have tags := tags_eq_of_kinds h.kinds
  have undeclared (unknown : c.tag ∉ s.tags) : s.overwritten? layers c = none := by
    rw [overwritten?, find?_kinds_eq_none.mpr unknown, Option.bind_none]
  cases step.count began with
  | written kind w declared named content deleted counted =>
    rw [h.kinds] at declared
    have known : c.tag ∈ s.tags := mem_tags.mpr ⟨kind, declared, named.symm⟩
    have previous := h.previous_eq sound declared named content
    rw [Table.tally_write] at counted
    refine ⟨_, counted, ?_⟩
    rw [deleted] at previous ⊢
    cases gone : c.isDeleted <;> rw [gone] at previous <;> constructor <;>
      simp [known, gone, ← previous]
  | info _ _ merge named _ _ counted =>
    refine ⟨_, counted, ?_⟩
    rw [undeclared (named ▸ sound.unreserved)]
    cases merge <;> constructor <;> simp [FileStats.Tally.ofInfo, named, sound.unreserved]
  | skipped noInfo unknown counted =>
    rw [tags] at unknown
    refine ⟨_, counted, ?_⟩
    rw [undeclared unknown]
    constructor <;> simp [unknown, noInfo]

/-- **A file is counted record by record**: each for its kind, and each override for the file that
wrote the live record that it overwrites. -/
theorem Bears.counts (h : s.Bears layers t) (sound : s.Sound)
    (applied : Loading.Applies (.start t name index) records m) :
    m.stats.Counts s.tags records (s.overwritten layers ⟨index, records⟩) := by
  induction applied with
  | nil => exact FileStats.counts_new name index s.tags
  | @concat records m next c earlier step ih =>
    have began := earlier.sound (Loading.sound_start h.sound name index)
    obtain ⟨tally, counted, one⟩ :=
      (h.applies earlier).count sound began (Loading.Step.of_apply step)
    rw [counted, overwritten_concat ⟨index, records⟩]
    exact ih.add one

end Store

theorem Topic.merge_ignored {t : Topic} {info : Info} {deleted : Bool} :
    (t.merge info deleted).2 = .ignored ↔ deleted = true ∧ t.slots.find? info.id = none := by
  cases found : t.slots.find? info.id <;> cases deleted <;> simp [Topic.merge, found]

namespace Dialogue

/-- Whether an info deletes one that nothing before it gave to its topic. -/
def isIdle (earlier : List (Topic × InfoWrite)) (entry : Topic × InfoWrite) : Bool :=
  entry.2.deleted && (infosOf earlier entry.1.id).all fun w =>
    w.deleted || !sameFolded w.id entry.2.id

/-- The deletions of unknown infos, in a file with infos that others gave before it. -/
def idle (before entries : List (Topic × InfoWrite)) : List (Topic × InfoWrite) :=
  select (fun earlier entry =>
    if isIdle (before ++ earlier) entry then some entry else none) entries

variable {before entries : List (Topic × InfoWrite)} {hs : List Topic} {topics next : Table Topic}

theorem length_idle_concat (entry : Topic × InfoWrite) :
    (idle before (entries ++ [entry])).length =
      (idle before entries).length + if isIdle (before ++ entries) entry then 1 else 0 := by
  rw [idle, select_concat, List.length_append, idle]
  split <;> rfl

/-- The topics ignore the deletions of unknown infos and nothing else. -/
theorem Tells.ignored_iff (h : Tells hs entries topics) {header : Topic} {w : InfoWrite}
    {merge : InfoMerge}
    (merged : topics.mergeInfo (some header.id) w.info w.deleted = some (next, merge)) :
    merge = .ignored ↔ isIdle entries (header, w) = true := by
  obtain ⟨id, slot, named, found, _, rfl⟩ := Table.mergeInfo_eq_some.mp merged
  obtain rfl := Option.some.inj named
  obtain ⟨_, gathers⟩ := h.held _ slot found
  rw [Topic.merge_ignored, gathers.valid.find?_eq_none, gathers.keys, mem_mentioned]
  simp [isIdle, sameFolded, InfoWrite.id, or_iff_not_imp_left]

end Dialogue

/-- Each info of a file is counted, but for the deletions of unknown ones. -/
theorem Loading.Applies.infos {l m : Loading Store} {records : List Chunk} {hs : List Topic}
    {entries : List (Topic × InfoWrite)} (h : l.Sound) (applied : Applies l records m)
    (fresh : l.active = none) (tells : Dialogue.Tells hs entries (l.store.table .dialogue)) :
    m.stats.infos + (Dialogue.idle entries (Dialogue.attributed records)).length =
      l.stats.infos + records.countP (·.tag = Kind.infoTag) := by
  induction applied with
  | nil => rfl
  | @concat records m next c earlier step ih =>
    have began := earlier.sound h
    rw [List.countP_append, List.countP_singleton, ← Nat.add_assoc, ← ih,
      Dialogue.attributed_concat, Dialogue.owned]
    cases (Step.of_apply step).count began with
    | written kind w declared named content deleted counted =>
      have noInfo : c.tag ≠ Kind.infoTag :=
        named.trans_ne (began.store.tag_ne_infoTag (began.store.isSome_table?.mpr declared))
      have idle : (FileStats.Tally.ofWrite ((m.store.table kind).write w).2).infos = 0 := by
        rw [Table.tally_write]
        split <;> rfl
      simp [Chunk.infoWrite?_eq_none noInfo, noInfo, counted, FileStats.add, idle]
    | info info topics merge named held merged counted =>
      -- an info is merged only after a header of its file
      obtain ⟨_, _, opened, _⟩ := Table.mergeInfo_eq_some.mp merged
      obtain ⟨header, last, rfl⟩ :=
        Option.map_eq_some_iff.mp ((earlier.active_eq h fresh).symm.trans opened)
      rw [opened] at merged
      have ignored := (earlier.tells h fresh tells).ignored_iff (w := ⟨info, c.isDeleted⟩) merged
      rw [last, held, counted, Option.bind_some, Option.map_some, Option.toList_some]
      simp only [Dialogue.length_idle_concat, ← ignored, named]
      cases merge <;> simp [FileStats.add, FileStats.Tally.ofInfo] <;> omega
    | skipped noInfo unknown counted =>
      simp [Chunk.infoWrite?_eq_none noInfo, noInfo, counted, FileStats.add]

end ContentLayers
