import ContentLayers.Proofs.Sessions

/-!
# Series of sessions

Every session numbers its files anew, while a store keeps the origins of its records. A file that
overwrites a record of an earlier session is not seen to do so when both files have the same index.
-/

namespace ContentLayers

open History

/-- The files that a session applies, and whether the session is finished in the end. -/
structure Sitting where
  feeds : List Feed
  finished : Bool

namespace Store

/-- The store after a session. -/
def sit (s : Store) (sitting : Sitting) : Store :=
  let session := (Session.start s).applyEach sitting.feeds
  if sitting.finished then session.finish.1 else session.store

/-- The store after sessions one after the other. -/
def sitAll : Store → List Sitting → Store
  | s, [] => s
  | s, sitting :: sittings => (s.sit sitting).sitAll sittings

/-- What the files of all sessions put on the store. -/
def sitLayers : Store → List Sitting → List Layer
  | _, [] => []
  | s, sitting :: sittings =>
    (Session.start s).layers sitting.feeds ++ (s.sit sitting).sitLayers sittings

variable {s t : Store} {layers : List Layer}

theorem Bears.sit (h : s.Bears layers t) (sitting : Sitting) :
    s.Bears (layers ++ (Session.start t).layers sitting.feeds) (t.sit sitting) := by
  have applied := Session.bears_applyEach (.start t) h sitting.feeds
  rw [Store.sit]
  split
  · exact applied.setUp
  · exact applied

theorem Bears.sitAll (h : s.Bears layers t) (sittings : List Sitting) :
    s.Bears (layers ++ t.sitLayers sittings) (t.sitAll sittings) := by
  induction sittings generalizing layers t with
  | nil => simpa [sitLayers, Store.sitAll] using h
  | cons sitting sittings ih => simpa [sitLayers, Store.sitAll] using ih (h.sit sitting)

/-- The live records of other files that the next layer overwrites. -/
def foreign (s : Store) (layers : List Layer) (layer : Layer) : List Mark :=
  (s.overwritten layers layer).filter fun mark =>
    mark.origin.isSome ∧ mark.place ≠ some layers.length

/-- What a file overwrites of its own has its index as origin. -/
theorem origin_of_own {layer : Layer} {mark : Mark} (mem : mark ∈ s.overwritten layers layer)
    (own : mark.place = some layers.length) : mark.origin = some layer.index := by
  obtain ⟨place, index, named, origin, listed⟩ | ⟨_, _, slot, _, rfl⟩ := overwritten_cases mem
  · obtain rfl : place = layers.length := Option.some.inj (named.symm.trans own)
    rw [List.map_append, List.getElem?_append_right (by simp)] at listed
    have same : layer.index = index := by simpa using listed
    rw [origin, same]
  · cases own

variable {tags : List Tag} {stats : FileStats}

/-- The overrides that are counted are those of records with another index as origin. -/
theorem totalOverrides_eq (layer : Layer) (numbered : stats.index = layer.index)
    (counts : stats.Counts tags layer.records (s.overwritten layers layer)) :
    stats.totalOverrides =
      (s.foreign layers layer).countP fun mark => mark.origin ≠ some layer.index := by
  rw [counts.totalOverrides, foreign, List.countP_filter, numbered]
  refine List.countP_congr fun mark mem => ?_
  have own := origin_of_own mem
  simp only [decide_eq_true_eq, Bool.and_eq_true]
  constructor
  · rintro ⟨held, other⟩
    exact ⟨other, held, fun place => other (own place)⟩
  · rintro ⟨other, held, _⟩
    exact ⟨held, other⟩

theorem getElem?_overrides_eq (layer : Layer) (numbered : stats.index = layer.index)
    (counts : stats.Counts tags layer.records (s.overwritten layers layer)) (p n : Nat) :
    stats.overrides[p]? = some n ↔ 0 < n ∧ p ≠ layer.index ∧
      n = (s.foreign layers layer).countP fun mark => mark.origin = some p := by
  rw [counts.getElem?_overrides, numbered]
  refine and_congr_right fun _ => and_congr_right fun other => ?_
  suffices same : (s.overwritten layers layer).countP (fun mark => mark.origin = some p) =
      (s.foreign layers layer).countP fun mark => mark.origin = some p by rw [same]
  rw [foreign, List.countP_filter]
  refine List.countP_congr fun mark mem => ?_
  simp only [decide_eq_true_eq, Bool.and_eq_true]
  refine ⟨fun origin => ⟨origin, by simp [origin], fun place => other ?_⟩, fun both => both.1⟩
  exact Option.some.inj (origin.symm.trans (origin_of_own mem place))

end Store

namespace Session

/-- In a session, the index of a file is its place behind what was there before. -/
theorem place_of_index {before : List Layer} {s : Store} {feeds : List Feed} {layer : Layer}
    {place index : Nat} (numbered : layer.index = feeds.length) (behind : before.length ≤ place)
    (listed : ((before ++ (start s).layers feeds ++ [layer]).map (·.index))[place]? = some index) :
    place = before.length + index := by
  have indices : ((start s).layers feeds).map (·.index) ++ [layer.index] =
      List.range (feeds.length + 1) := by
    rw [index_layers, numbered, List.range_succ, List.range_eq_range']
    rfl
  rw [List.append_assoc, List.map_append, List.map_append, List.map_singleton, indices,
    List.getElem?_append_right (by simpa using behind), List.length_map] at listed
  obtain ⟨inside, same⟩ := List.getElem?_eq_some_iff.mp listed
  rw [List.getElem_range] at same
  omega

variable {s : Store} {earlier : List Sitting} {feeds : List Feed} {feed : Feed} {stats : FileStats}

/-- **Overrides in a series of sessions.** A file misses those of records that another file with its
index wrote, and no others. Such a file belongs to an earlier session. -/
theorem overrides_of_series (reachable : s.Reachable)
    (given : (((start (s.sitAll earlier)).applyEach feeds).apply feed).result = .ok stats) :
    let below := s.sitLayers earlier ++ (start (s.sitAll earlier)).layers feeds
    let foreign := s.foreign below ⟨feeds.length, feed.records⟩
    (∀ p n, stats.overrides[p]? = some n ↔ 0 < n ∧ p ≠ feeds.length ∧
        n = foreign.countP fun mark => mark.origin = some p) ∧
      stats.totalOverrides + foreign.countP (fun mark => mark.origin = some feeds.length) =
        foreign.length ∧
      (stats.totalOverrides = foreign.length ↔
        ∀ mark ∈ foreign, mark.origin ≠ some feeds.length) ∧
      ∀ mark ∈ foreign, mark.origin = some feeds.length →
        ∀ place, mark.place = some place → place < (s.sitLayers earlier).length := by
  intro below foreign
  have bears : s.Bears below ((start (s.sitAll earlier)).applyEach feeds).store := by
    have before := reachable.sound.bears_nil.sitAll earlier
    exact bears_applyEach (start _) before feeds
  have index : ((start (s.sitAll earlier)).applyEach feeds).nextIndex = feeds.length := by
    rw [nextIndex_applyEach]
    exact Nat.zero_add _
  have loaded := load_of_apply given
  rw [index] at loaded
  obtain ⟨m, applied, rfl, _⟩ := Store.applies_of_ok bears.sound.distinct loaded
  have counts := bears.counts reachable.sound applied
  have numbered : m.stats.index = feeds.length := applied.counts.1
  have missed : m.stats.totalOverrides +
      foreign.countP (fun mark => mark.origin = some feeds.length) = foreign.length := by
    rw [Store.totalOverrides_eq ⟨feeds.length, feed.records⟩ numbered counts, Nat.add_comm,
      List.length_eq_countP_add_countP fun mark : Mark => mark.origin = some feeds.length]
    simp [foreign]
  refine ⟨Store.getElem?_overrides_eq ⟨feeds.length, feed.records⟩ numbered counts, missed, ?_, ?_⟩
  · rw [← missed, Nat.left_eq_add, List.countP_eq_zero]
    simp
  · intro mark mem origin place named
    obtain ⟨mem, other⟩ := List.mem_filter.mp mem
    by_contra beyond
    obtain ⟨place', index, named', origin', listed⟩ | ⟨_, _, slot, _, rfl⟩ :=
      Store.overwritten_cases mem
    · obtain rfl : place' = place := Option.some.inj (named'.symm.trans named)
      obtain rfl : index = feeds.length := Option.some.inj (origin'.symm.trans origin)
      have own := place_of_index rfl (Nat.le_of_not_lt beyond) listed
      -- the only file of the session with the index is the overwriting file itself
      simp [named, own, below, length_layers] at other
    · cases named

/-- A file with one record, of a coin. -/
def coinFeed (name : String) : Feed where
  name
  announced := none
  records := [⟨Kind.miscellaneous.tag, 0, [0x81, 0xa2, 0x69, 0x64, 0xa4, 0x63, 0x6f, 0x69, 0x6e]⟩]
  failure := none

/-- The second file of a session overwrites the coin of the first file of the session before. -/
theorem overrides_of_series_counted :
    let earlier := [⟨[coinFeed "base.esm"], false⟩]
    let session := (start (Store.new.sitAll earlier)).applyEach [⟨"empty.esp", none, [], none⟩]
    ∃ stats, (session.apply (coinFeed "fix.esp")).result = .ok stats ∧ stats.totalOverrides = 1 ∧
      stats.overrides[0]? = some 1 := by
  intro earlier session
  obtain ⟨stats, given⟩ : ∃ stats, (session.apply (coinFeed "fix.esp")).result = .ok stats := by
    have loads : (session.apply (coinFeed "fix.esp")).result.isOk = true := by decide +kernel
    cases given : (session.apply (coinFeed "fix.esp")).result with
    | ok stats => exact ⟨stats, rfl⟩
    | error e =>
      rw [given] at loads
      cases loads
  obtain ⟨listed, _, exact_iff, _⟩ := overrides_of_series .new given
  have foreign : Store.new.foreign (Store.new.sitLayers earlier ++
      (start (Store.new.sitAll earlier)).layers [⟨"empty.esp", none, [], none⟩])
        ⟨1, (coinFeed "fix.esp").records⟩ = [⟨true, some 0, some 0⟩] := by decide +kernel
  simp only [List.length_singleton, foreign] at listed exact_iff
  exact ⟨stats, given, exact_iff.mpr (by decide), (listed 0 1).mpr (by decide)⟩

/-- The first file of a session overwrites the coin of the first file of the session before. -/
theorem overrides_of_series_missed :
    let earlier := [⟨[coinFeed "first.esm"], true⟩]
    let session := start (Store.new.sitAll earlier)
    (session.apply (coinFeed "second.esp")).result.toOption.map (·.totalOverrides) = some 0 ∧
      Store.new.foreign (Store.new.sitLayers earlier) ⟨0, (coinFeed "second.esp").records⟩ =
        [⟨true, some 0, some 0⟩] := by
  decide +kernel

end Session

end ContentLayers
