import ContentLayers.Proofs.CurrentIndices
import ContentLayers.Proofs.FailedLoad
import ContentLayers.Proofs.FileCounts
import ContentLayers.Proofs.Readers

/-!
# Sessions

A session numbers its files by the calls that apply them and accounts for each: every record of a
file is counted once, overrides are attributed to files that came before, and the progress that is
reported stays within what was announced.
-/

namespace ContentLayers

open History

/-- How far an event extends the range of the progress. -/
def Event.extent : Event → Nat
  | .range total => total
  | .label _ | .applied | .notice _ => 0

/-- A feed with a count ahead of it: of a buffer that is read from the start, or of a content file
from wherever its reader stands. -/
inductive Feed.Counted : Feed → Prop
  | buffer (b : Buffer) (unread : b.cursor = 0) : Counted b.feed
  | file (f : ContentFile) (n : Nat) : Counted (f.reader.after n).feed

theorem Reader.total_after (r : Reader) (n : Nat) : (r.after n).total = r.total := by
  induction n generalizing r with
  | zero => rfl
  | succ n ih =>
    rw [after, ih]
    obtain ⟨c, next, moves⟩ | ⟨failure, _, stuck⟩ := r.next_spec
    · rw [next_eq_record.mpr moves, moves.total]
    · rw [stuck]

/-- No more records come than are announced. -/
theorem Feed.Counted.length_le {feed : Feed} (h : feed.Counted) :
    ∃ total, feed.announced = some total ∧ feed.records.length ≤ total := by
  cases h with
  | buffer b unread => exact ⟨b.records.size, rfl, by simp [Buffer.feed, unread]⟩
  | file f n =>
    obtain ⟨all, failure, whole⟩ := f.reader.exists_delivers
    obtain ⟨records, _, delivers⟩ := (f.reader.after n).exists_delivers
    rw [delivers.feed, Reader.total_after]
    refine ⟨f.count, rfl, ?_⟩
    have left : (f.reader.after n).left ≤ f.count := by
      have counted : f.count = _ := whole.left n
      omega
    have bound := (Nat.le_min.mp delivers.bound).1
    exact bound.trans left

namespace Loading

variable {l m next : Loading Store} {c : Chunk} {records : List Chunk}

theorem Step.extent (h : Step l c next) :
    (next.events.map Event.extent).sum = (l.events.map Event.extent).sum := by
  cases h <;> simp [applyTopic, advance, Event.extent, Function.comp_def]

theorem Applies.extent (h : Applies l records m) :
    (m.events.map Event.extent).sum = (l.events.map Event.extent).sum := by
  induction h with
  | nil => rfl
  | concat _ step ih => rw [(Step.of_apply step).extent, ih]

end Loading

/-- A load announces what its feed announces, once. -/
theorem Store.Sound.extent_load {s : Store} (h : s.Sound) (feed : Feed) (index : Nat) :
    ((s.load feed index).events.map Event.extent).sum = feed.announced.getD 0 := by
  have silent : (((Loading.start s feed.name index).run feed.records).1.events.map
      Event.extent).sum = 0 := by
    obtain ⟨_, applied⟩ | ⟨_, _, _, _, _, applied, _⟩ :=
      Loading.run_cases (l := .start s feed.name index) h.distinct feed.records
    · exact applied.extent
    · exact applied.extent
  simp only [Store.load]
  generalize (Loading.start s feed.name index).run feed.records = reached at silent ⊢
  obtain ⟨m, failure⟩ := reached
  cases failure.or (feed.failure.map .stream) <;> cases feed.announced <;>
    simp [Loading.ended, Loading.ended.opening, Event.extent, List.map_reverse, List.sum_reverse,
      silent]

namespace Session

/-- The session after files that are applied, whether or not those before them failed. -/
def applyEach : Session → List Feed → Session
  | session, [] => session
  | session, feed :: feeds => (session.apply feed).session.applyEach feeds

/-- What each of the calls gives. -/
def calls : Session → List Feed → List (Applied FileStats)
  | _, [] => []
  | session, feed :: feeds => session.apply feed :: (session.apply feed).session.calls feeds

/-- What a file puts on the store. -/
def layer (session : Session) (feed : Feed) : Layer :=
  ⟨session.nextIndex, feed.records.take (session.store.load feed session.nextIndex).applied⟩

/-- What the files put on the store, one after the other. -/
def layers : Session → List Feed → List Layer
  | _, [] => []
  | session, feed :: feeds => session.layer feed :: (session.apply feed).session.layers feeds

variable {session : Session} {feed : Feed} {feeds : List Feed} {s : Store} {below : List Layer}

@[simp] theorem store_apply (session : Session) (feed : Feed) :
    (session.apply feed).session.store = (session.store.load feed session.nextIndex).store := by
  simp only [apply]
  split <;> rfl

@[simp] theorem nextIndex_apply (session : Session) (feed : Feed) :
    (session.apply feed).session.nextIndex = session.nextIndex + 1 := by
  simp only [apply]
  split <;> rfl

/-- A call gives what the load of its file gives. -/
theorem result_apply (session : Session) (feed : Feed) :
    (session.apply feed).result =
      (session.store.load feed session.nextIndex).result.mapError
        (⟨session.nextIndex, feed.name, ·⟩) := by
  simp only [apply]
  split <;> rename_i ended <;> rw [ended] <;> rfl

theorem load_of_apply {stats : FileStats} (given : (session.apply feed).result = .ok stats) :
    (session.store.load feed session.nextIndex).result = .ok stats := by
  rw [result_apply] at given
  cases loaded : (session.store.load feed session.nextIndex).result with
  | ok other =>
    rw [loaded] at given
    exact congrArg Except.ok (Except.ok.inj given)
  | error e =>
    rw [loaded] at given
    cases given

/-- A file that fails is not listed. -/
theorem files_apply (session : Session) (feed : Feed) :
    (session.apply feed).session.files.toList =
      session.files.toList ++ (session.apply feed).result.toOption.toList := by
  simp only [apply]
  split <;> simp [Except.toOption]

theorem applied_apply (session : Session) (feed : Feed) :
    (session.apply feed).events.countP (·.isApplied) =
      (session.store.load feed session.nextIndex).applied := by
  simp only [apply, Loaded.applied]
  split <;> simp [Event.isApplied]

theorem extent_apply (h : session.store.Sound) (feed : Feed) :
    ((session.apply feed).events.map Event.extent).sum = feed.announced.getD 0 := by
  rw [← h.extent_load feed session.nextIndex]
  simp only [apply]
  split <;> simp [Event.extent]

theorem nextIndex_applyEach :
    (session.applyEach feeds).nextIndex = session.nextIndex + feeds.length := by
  induction feeds generalizing session with
  | nil => rfl
  | cons feed feeds ih =>
    rw [applyEach, ih, nextIndex_apply, List.length_cons, Nat.add_assoc, Nat.add_comm 1]

theorem files_applyEach (session : Session) (feeds : List Feed) :
    (session.applyEach feeds).files.toList =
      session.files.toList ++ (session.calls feeds).filterMap (·.result.toOption) := by
  induction feeds generalizing session with
  | nil => simp [applyEach, calls]
  | cons feed feeds ih =>
    rw [applyEach, ih, files_apply, calls, List.append_assoc]
    cases given : (session.apply feed).result.toOption <;> simp [given]

/-- Each call is on the session after those before it. -/
theorem getElem?_calls (i : Nat) :
    (session.calls feeds)[i]? = feeds[i]?.map fun feed =>
      (session.applyEach (feeds.take i)).apply feed := by
  induction feeds generalizing session i with
  | nil => rfl
  | cons feed feeds ih =>
    cases i with
    | zero => rfl
    | succ i => simp [calls, applyEach, ih]

theorem length_layers : (session.layers feeds).length = feeds.length := by
  induction feeds generalizing session with
  | nil => rfl
  | cons feed feeds ih => simp [layers, ih]

theorem index_layers :
    (session.layers feeds).map (·.index) = List.range' session.nextIndex feeds.length := by
  induction feeds generalizing session with
  | nil => rfl
  | cons feed feeds ih => simp [layers, layer, ih, List.range'_succ]

theorem bears_applyEach (session : Session) (h : s.Bears below session.store) (feeds : List Feed) :
    s.Bears (below ++ session.layers feeds) (session.applyEach feeds).store := by
  induction feeds generalizing session below with
  | nil => simpa [layers, applyEach] using h
  | cons feed feeds ih =>
    have next := h.load feed session.nextIndex
    rw [← store_apply] at next
    simpa [layers, layer, applyEach] using ih _ next

theorem store_applyEach :
    (session.applyEach feeds).store = session.store.loadAll (feeds.zipIdx session.nextIndex) := by
  induction feeds generalizing session with
  | nil => rfl
  | cons feed feeds ih => simp [applyEach, ih, Store.loadAll]

theorem records_layers :
    (session.layers feeds).map (·.records) =
      session.store.appliedAll (feeds.zipIdx session.nextIndex) := by
  induction feeds generalizing session with
  | nil => rfl
  | cons feed feeds ih => simp [layers, layer, ih, Store.appliedAll]

/-- The infos of all files are gathered in the topics, those of files that fail later too. -/
theorem tells_applyEach (session : Session) (sound : session.store.Sound)
    (empty : session.store.table .dialogue = .empty) (feeds : List Feed) :
    Dialogue.Tells ((session.layers feeds).flatMap (Dialogue.headers ·.records))
      ((session.layers feeds).flatMap (Dialogue.attributed ·.records))
      ((session.applyEach feeds).store.table .dialogue) := by
  have began : Dialogue.Tells [] [] (session.store.table .dialogue) := empty ▸ Dialogue.tells_empty
  have told := Dialogue.tells_loadAll sound began (feeds.zipIdx session.nextIndex)
  rw [← store_applyEach, ← records_layers, List.flatMap_map, List.flatMap_map] at told
  exact told

end Session

namespace Store

/-- Nothing was written yet. -/
def IsBare (s : Store) : Prop := ∀ shelf ∈ s.shelves, shelf.table = .empty

variable {s : Store}

theorem IsBare.table (h : s.IsBare) (kind : Kind) : s.table kind = .empty := by
  cases found : s.table? kind with
  | none => rw [Store.table, found, Option.getD_none]
  | some table =>
    rw [Store.table, found, Option.getD_some]
    exact h _ (shelf?_eq_some (table?_eq_some.mp found)).1

theorem IsBare.declare (h : s.IsBare) (kind : Kind) : (s.call (.declare kind)).IsBare := by
  rw [call]
  obtain same | appended := s.declare_cases kind
  · rwa [same]
  intro shelf mem
  rw [appended.shelves] at mem
  obtain old | new := List.mem_append.mp mem
  · exact h shelf old
  · rw [List.mem_singleton.mp new]
    rfl

theorem isBare_new : Store.new.IsBare := by
  intro shelf mem
  obtain ⟨kind, _, rfl⟩ := List.mem_map.mp mem
  rfl

/-- Declarations write nothing. -/
theorem isBare_declared (custom : List Kind) :
    (Store.new.callAll (custom.map .declare)).IsBare := by
  suffices rest : ∀ s : Store, s.IsBare → (s.callAll (custom.map .declare)).IsBare from
    rest .new isBare_new
  induction custom with
  | nil => exact fun _ h => h
  | cons kind custom ih => exact fun s h => ih _ (h.declare kind)

end Store

/-- What the statistics of a file tell, on the layers below it. -/
structure FileStats.Accounts (stats : FileStats) (s : Store) (below : List Layer) (feed : Feed) :
    Prop where
  index : stats.index = below.length
  counts : stats.Counts s.tags feed.records (s.overwritten below ⟨below.length, feed.records⟩)
  whole : stats.loaded + stats.deleted + stats.skipped + stats.infos +
      (Dialogue.idle (below.flatMap (Dialogue.attributed ·.records))
        (Dialogue.attributed feed.records)).length = feed.records.length
  earlier : ∀ p n, stats.overrides[p]? = some n → p < stats.index
  overrides : ∀ p n, stats.overrides[p]? = some n ↔ 0 < n ∧ p ≠ stats.index ∧
    n = (s.overwritten below ⟨below.length, feed.records⟩).countP fun mark => mark.place = some p

namespace Session

/-- A call gives the statistics of its file, or the index and the cause of its failure. The progress
is by the records that were applied. -/
structure Accounts (session : Session) (s : Store) (below : List Layer) (feed : Feed) : Prop where
  result : match (session.apply feed).result with
    | .ok stats => stats.Accounts s below feed ∧
        (session.apply feed).events.countP (·.isApplied) = feed.records.length
    | .error e => e.index = below.length ∧ session.store.StopsAt feed below.length
        ((session.apply feed).events.countP (·.isApplied)) e.cause
  range : ((session.apply feed).events.map Event.extent).sum = feed.announced.getD 0
  within : feed.Counted → (session.apply feed).events.countP (·.isApplied) ≤
    ((session.apply feed).events.map Event.extent).sum

end Session

/-- On a store without records, what a file overwrites is from a file, and its origin is the place
of that file. -/
theorem Store.IsBare.origin_eq {s : Store} {below : List Layer} {records : List Chunk} {mark : Mark}
    (bare : s.IsBare) (numbered : below.map (·.index) = List.range below.length)
    (mem : mark ∈ s.overwritten below ⟨below.length, records⟩) :
    mark.origin = mark.place ∧ ∃ p ≤ below.length, mark.place = some p := by
  obtain ⟨place, index, named, origin, listed⟩ | ⟨kind, q, slot, held, _⟩ := overwritten_cases mem
  · rw [List.map_append, numbered, List.map_singleton, ← List.range_succ] at listed
    obtain ⟨inside, rfl⟩ := List.getElem?_eq_some_iff.mp listed
    rw [List.getElem_range] at origin
    exact ⟨origin.trans named.symm, place, by simpa [Nat.lt_succ_iff] using inside, named⟩
  · rw [bare.table kind] at held
    cases held

/-- The statistics of a file that is loaded on some layers. -/
theorem Store.Bears.accounts {s t : Store} {below : List Layer} {feed : Feed} {m : Loading Store}
    {hs : List Topic} (bears : s.Bears below t) (sound : s.Sound) (bare : s.IsBare)
    (numbered : below.map (·.index) = List.range below.length)
    (tells : Dialogue.Tells hs (below.flatMap (Dialogue.attributed ·.records))
      (t.table .dialogue))
    (applied : Loading.Applies (.start t feed.name below.length) feed.records m) :
    m.stats.Accounts s below feed := by
  have began := Loading.sound_start bears.sound feed.name below.length
  have counts := bears.counts sound applied
  have index : m.stats.index = below.length := applied.counts.1
  have overrides (p n : Nat) : m.stats.overrides[p]? = some n ↔ 0 < n ∧ p ≠ m.stats.index ∧
      n = (s.overwritten below ⟨below.length, feed.records⟩).countP (·.place = some p) := by
    have same : (s.overwritten below ⟨below.length, feed.records⟩).countP (·.origin = some p) =
        (s.overwritten below ⟨below.length, feed.records⟩).countP (·.place = some p) :=
      List.countP_congr fun mark mem => by rw [(bare.origin_eq numbered mem).1]
    rw [counts.getElem?_overrides, same]
  refine ⟨index, counts, ?_, fun p n listed => ?_, overrides⟩
  · have infos := applied.infos began rfl tells
    have started : (Loading.start t feed.name below.length).stats.infos = 0 := rfl
    have whole := counts.whole sound.unreserved
    omega
  · obtain ⟨positive, other, count⟩ := (overrides p n).mp listed
    obtain ⟨mark, mem, named⟩ := List.countP_pos_iff.mp (count ▸ positive)
    obtain ⟨_, p', bound, named'⟩ := bare.origin_eq numbered mem
    have same : p' = p := by simpa [named'] using named
    omega

namespace Session

variable {session : Session} {s : Store} {below : List Layer}

theorem accounts_apply {hs : List Topic} (bears : s.Bears below session.store) (sound : s.Sound)
    (bare : s.IsBare) (numbered : below.map (·.index) = List.range below.length)
    (next : session.nextIndex = below.length)
    (tells : Dialogue.Tells hs (below.flatMap (Dialogue.attributed ·.records))
      (session.store.table .dialogue)) (feed : Feed) : session.Accounts s below feed := by
  have progress := applied_apply session feed
  have range := extent_apply bears.sound feed
  refine ⟨?_, range, fun counted => ?_⟩
  · rw [result_apply, progress, next]
    cases loaded : (session.store.load feed below.length).result with
    | ok stats =>
      obtain ⟨m, applied, rfl, all⟩ := Store.applies_of_ok bears.sound.distinct loaded
      exact ⟨bears.accounts sound bare numbered tells applied, all⟩
    | error e => exact ⟨rfl, bears.sound.stopsAt loaded⟩
  · obtain ⟨total, announced, bound⟩ := counted.length_le
    have most : (session.store.load feed session.nextIndex).applied ≤ feed.records.length := by
      obtain ⟨_, _, _, ⟨all, _⟩ | ⟨_, _, held, _⟩⟩ :=
        Store.load_spec bears.sound.distinct feed session.nextIndex
      · exact Nat.le_of_eq all
      · exact Nat.le_of_lt (List.getElem?_eq_some_iff.mp held).1
    rw [progress, range, announced, Option.getD_some]
    exact most.trans bound

/-- The progress of calls is within their range when that of each of them is. -/
theorem progress_le {α : Type} {steps : List (Applied α)}
    (each : ∀ step ∈ steps,
      step.events.countP (·.isApplied) ≤ (step.events.map Event.extent).sum) :
    (steps.flatMap (·.events)).countP (·.isApplied) ≤
      ((steps.flatMap (·.events)).map Event.extent).sum := by
  induction steps with
  | nil => exact Nat.le_refl 0
  | cons step steps ih =>
    rw [List.forall_mem_cons] at each
    rw [List.flatMap_cons, List.countP_append, List.map_append, List.sum_append]
    exact Nat.add_le_add each.1 (ih each.2)

/-- What a session tells of its files, on a store without records. -/
structure Audit (s : Store) (feeds : List Feed) : Prop where
  /-- The successful files are listed in the order of the calls. -/
  files : ((start s).applyEach feeds).files.toList =
    ((start s).calls feeds).filterMap (·.result.toOption)
  calls : ∀ i feed, feeds[i]? = some feed →
    ((start s).calls feeds)[i]? = some (((start s).applyEach (feeds.take i)).apply feed) ∧
      ((start s).layers (feeds.take i)).length = i ∧
      ((start s).applyEach (feeds.take i)).Accounts s ((start s).layers (feeds.take i)) feed
  /-- A record is from the last file that wrote its id, be it a file that failed later. -/
  origins : ∀ kind ∈ s.kinds, ∀ id,
    (((start s).applyEach feeds).store.table kind).origin? id =
      (last? Mention.id (kind.mentions ((start s).layers feeds)) id).map (·.place)
  progress : (∀ feed ∈ feeds, feed.Counted) →
    (((start s).calls feeds).flatMap (·.events)).countP (·.isApplied) ≤
      ((((start s).calls feeds).flatMap (·.events)).map Event.extent).sum

theorem numbered_layers (s : Store) (feeds : List Feed) :
    ((start s).layers feeds).map (·.index) = List.range ((start s).layers feeds).length := by
  rw [index_layers, length_layers, List.range_eq_range']
  rfl

theorem bears_start {s : Store} (sound : s.Sound) (feeds : List Feed) :
    s.Bears ((start s).layers feeds) ((start s).applyEach feeds).store :=
  bears_applyEach (start s) sound.bears_nil feeds

theorem accounts_start {s : Store} (sound : s.Sound) (bare : s.IsBare) (feeds : List Feed)
    (feed : Feed) : ((start s).applyEach feeds).Accounts s ((start s).layers feeds) feed := by
  have tells := tells_applyEach (start s) sound (bare.table .dialogue) feeds
  have next : ((start s).applyEach feeds).nextIndex = ((start s).layers feeds).length := by
    rw [nextIndex_applyEach, length_layers]
    exact Nat.zero_add _
  have numbered := numbered_layers s feeds
  exact accounts_apply (bears_start sound feeds) sound bare numbered next tells feed

theorem origin?_applyEach {s : Store} (sound : s.Sound) (bare : s.IsBare) {kind : Kind}
    (declared : kind ∈ s.kinds) (feeds : List Feed) (id : String) :
    (((start s).applyEach feeds).store.table kind).origin? id =
      (last? Mention.id (kind.mentions ((start s).layers feeds)) id).map (·.place) := by
  have bears := bears_start sound feeds
  have numbered := numbered_layers s feeds
  have marks := congrArg (Option.bind · (·.2)) (bears.marks kind declared id)
  simp only [Option.bind_map, Function.comp_def] at marks
  rw [Table.origin?, marks, Store.mark?, bare.table kind]
  cases last : last? Mention.id (kind.mentions ((start s).layers feeds)) id with
  | none => rfl
  | some e =>
    obtain ⟨layer, held, index⟩ := Kind.mem_mentions (mem_of_last? last)
    -- the layers are numbered by their places
    have place := congrArg (·[e.place]?) numbered
    simp only [List.getElem?_map, held, Option.map_some] at place
    obtain ⟨_, same⟩ := List.getElem?_eq_some_iff.mp place.symm
    rw [List.getElem_range] at same
    simp [index, ← same]

/-- **A session accounts for its files.** -/
theorem accounts_for_files (custom : List Kind) (feeds : List Feed) :
    Audit (Store.new.callAll (custom.map .declare)) feeds := by
  have sound : (Store.new.callAll (custom.map .declare)).Sound :=
    (Store.Reachable.new.callAll _).sound
  have bare := Store.isBare_declared custom
  generalize Store.new.callAll (custom.map .declare) = s at sound bare
  refine ⟨?_, fun i feed held => ⟨?_, ?_, accounts_start sound bare _ feed⟩,
    fun kind declared id => origin?_applyEach sound bare declared feeds id, fun counted => ?_⟩
  · simpa [start] using files_applyEach (start s) feeds
  · rw [getElem?_calls, held, Option.map_some]
  · have inside := (List.getElem?_eq_some_iff.mp held).1
    rw [length_layers, List.length_take, Nat.min_eq_left (Nat.le_of_lt inside)]
  · refine progress_le fun call mem => ?_
    obtain ⟨i, found⟩ := List.getElem?_of_mem mem
    rw [getElem?_calls] at found
    obtain ⟨feed, held, rfl⟩ := Option.map_eq_some_iff.mp found
    exact (accounts_start sound bare _ feed).within (counted feed (List.mem_of_getElem? held))

end Session

end ContentLayers
