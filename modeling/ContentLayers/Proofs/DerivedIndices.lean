import ContentLayers.Proofs.Agreement
import ContentLayers.Proofs.Settings

/-!
# What the indices say

The indices are read off the tables: the ids of each kind in order, the owner of each id, and the
value of each setting, over the default that it may have.
-/

namespace ContentLayers

/-- Of ids that differ not only in case the sorted ones come strictly in order. -/
theorem fold_lt_of_idLE {a b : String} (sorted : idLE a b = true) (apart : fold a ≠ fold b) :
    fold a < fold b := by
  cases order : compare (fold a) (fold b) with
  | lt => exact compare_lt_iff_lt.mp order
  | eq => exact absurd (compare_eq_iff_eq.mp order) apart
  | gt => simp [idLE, order] at sorted

theorem Table.Valid.pairwise_sorted {α : Type} [Record α] {t : Table α} (h : t.Valid) :
    (t.ids.mergeSort idLE).Pairwise fun a b => fold a < fold b := by
  have sorted := List.pairwise_mergeSort idLE_trans idLE_total t.ids
  have distinct : ((t.ids.mergeSort idLE).map fold).Nodup :=
    ((List.mergeSort_perm t.ids idLE).map fold).nodup_iff.mpr h.nodup_ids
  exact sorted.imp₂ (fun _ _ => fold_lt_of_idLE) (List.pairwise_map.mp distinct)

namespace Indices

variable {settings : Table GameSetting} {name : String}

/-- What no record sets has its default. -/
theorem getElem?_settingsOf_of_unset
    (unset : ∀ setting ∈ settings.records, fold setting.id ≠ fold name) :
    (settingsOf settings)[fold name]? =
      (defaultSettings.reverse.find? (fold ·.1 == fold name)).map (·.2) := by
  have silent : (settings.records.map fun s => (s.id, s.value)).reverse.find?
      (fold ·.1 == fold name) = none := by
    simpa [List.find?_eq_none] using unset
  rw [getElem?_settingsOf, settingEntries, List.reverse_append, List.find?_append, silent,
    Option.none_or]

/-- No two defaults are for the same setting. -/
theorem find?_defaultSettings {entry : String × Variant} (listed : entry ∈ defaultSettings)
    (named : fold entry.1 = fold name) :
    defaultSettings.reverse.find? (fold ·.1 == fold name) = some entry := by
  have distinct : (defaultSettings.map (fold ·.1)).Nodup := by decide +kernel
  cases found : defaultSettings.reverse.find? (fold ·.1 == fold name) with
  | none =>
    have other := List.find?_eq_none.mp found entry (List.mem_reverse.mpr listed)
    exact absurd named (by simpa using other)
  | some other =>
    have mem := List.mem_reverse.mp (List.mem_of_find?_eq_some found)
    have same : fold other.1 = fold name := by simpa using List.find?_some found
    rw [List.inj_on_of_nodup_map distinct mem listed (same.trans named.symm)]

end Indices

namespace Store

/-- What records and defaults make of a setting, whatever the case of its name. -/
inductive Sets (s : Store) (name : String) : Option Variant → Prop
  | record (setting : GameSetting) (live : setting ∈ (s.table .gameSetting).records)
      (named : fold setting.id = fold name) : Sets s name (some setting.value)
  | default (entry : String × Variant)
      (unset : ∀ setting ∈ (s.table .gameSetting).records, fold setting.id ≠ fold name)
      (listed : entry ∈ defaultSettings) (named : fold entry.1 = fold name) :
      Sets s name (some entry.2)
  | unknown (unset : ∀ setting ∈ (s.table .gameSetting).records, fold setting.id ≠ fold name)
      (unlisted : ∀ entry ∈ defaultSettings, fold entry.1 ≠ fold name) : Sets s name none

/-- The indices list each declared kind once, with its live ids as they are written and strictly in
order up to case. The owner of an id is the first kind that has it. -/
structure Describes (s : Store) (i : Indices) : Prop where
  kinds : i.sorted.map (·.1) = s.kinds
  tags : (i.sorted.map (·.1.tag)).Nodup
  sorted : ∀ entry ∈ i.sorted, i.sortedIds entry.1.tag = entry.2 ∧
    entry.2.Perm (s.table entry.1).ids ∧ entry.2.Pairwise fun a b => fold a < fold b
  owners : ∀ key kind, i.owners[key]? = some kind ↔ s.HoldsFirst key kind

variable {s : Store} {name : String} {value : Option Variant}

/-- There is one way only to sort the ids of a kind. -/
theorem Describes.sortedIds_eq {i : Indices} (h : s.Describes i) {kind : Kind}
    (declared : kind ∈ s.kinds) {ids : List String} (perm : ids.Perm (s.table kind).ids)
    (sorted : ids.Pairwise fun a b => fold a < fold b) : i.sortedIds kind.tag = ids := by
  rw [← h.kinds] at declared
  obtain ⟨entry, listed, rfl⟩ := List.mem_map.mp declared
  obtain ⟨found, perm', sorted'⟩ := h.sorted entry listed
  rw [found]
  exact List.Perm.eq_of_pairwise (fun _ _ _ _ before after => absurd after (lt_asymm before))
    sorted' sorted (perm'.trans perm.symm)

theorem exists_sets (s : Store) (name : String) : ∃ value, s.Sets name value := by
  by_cases set : ∃ setting ∈ (s.table .gameSetting).records, fold setting.id = fold name
  · obtain ⟨setting, live, named⟩ := set
    exact ⟨_, .record setting live named⟩
  · simp only [not_exists, not_and] at set
    by_cases default : ∃ entry ∈ defaultSettings, fold entry.1 = fold name
    · obtain ⟨entry, listed, named⟩ := default
      exact ⟨_, .default entry set listed named⟩
    · simp only [not_exists, not_and] at default
      exact ⟨_, .unknown set default⟩

theorem Sound.setting_of_sets (h : s.Sound) (sets : s.Sets name value) :
    s.setUp.setting name = value := by
  have index : s.setUp.setting name =
      (Indices.settingsOf (s.table .gameSetting))[fold name]? := rfl
  rw [index]
  cases sets with
  | record setting live named =>
    rw [← named]
    exact Indices.getElem?_settingsOf_of_mem (h.table .gameSetting).valid live
  | default entry unset listed named =>
    rw [Indices.getElem?_settingsOf_of_unset unset, Indices.find?_defaultSettings listed named,
      Option.map_some]
  | unknown unset unlisted =>
    have none : defaultSettings.reverse.find? (fold ·.1 == fold name) = none := by
      simpa [List.find?_eq_none] using unlisted
    rw [Indices.getElem?_settingsOf_of_unset unset, none, Option.map_none]

/-- A setting has one value only. -/
theorem Sound.setting_iff_sets (h : s.Sound) :
    s.setUp.setting name = value ↔ s.Sets name value := by
  refine ⟨fun held => ?_, h.setting_of_sets⟩
  obtain ⟨made, sets⟩ := s.exists_sets name
  rwa [← held, h.setting_of_sets sets]

/-- The ids under a tag are sorted; a tag that is not declared has none. -/
theorem sortedIds_derive (s : Store) (tag : Tag) :
    s.derive.sortedIds tag = (s.idsOf tag).mergeSort idLE := by
  have found : s.derive.sorted.find? (·.1.tag == tag) = (s.shelf? tag).map Indices.sortedOf :=
    List.find?_map
  rw [Indices.sortedIds, found, idsOf]
  cases s.shelf? tag <;> simp [Indices.sortedOf]

theorem Sound.describes (h : s.Sound) : s.Describes s.derive where
  kinds := by simp [derive, kinds, Indices.sortedOf]
  tags := by simpa [derive, tags, Indices.sortedOf, Function.comp_def] using h.distinct
  sorted := by
    intro entry mem
    obtain ⟨shelf, held, rfl⟩ := List.mem_map.mp mem
    have ids : shelf.ids = (s.table shelf.kind).ids := congrArg Table.ids (h.table_of_mem held).symm
    refine ⟨?_, ?_, (h.tables shelf held).valid.pairwise_sorted⟩
    · exact (s.sortedIds_derive shelf.kind.tag).trans
        (congrArg (·.mergeSort idLE) (h.idsOf_of_mem held))
    · exact (List.mergeSort_perm shelf.ids idLE).trans (.of_eq ids)
  owners key kind := by
    rw [← find?_offers_eq_some, ← Indices.getElem?_ownersOf]
    rfl

/-- **The indices describe the tables.** Besides, a setting has the value of the live record with
its name, be that no value, or else the default of its name, or else none. -/
theorem setUp_describes (reachable : s.Reachable) :
    s.Describes s.setUp.indices ∧
      ∀ name value, s.setUp.setting name = value ↔ s.Sets name value :=
  ⟨reachable.sound.describes, fun _ _ => reachable.sound.setting_iff_sets⟩

/-- A kind of things that can be placed. -/
def relics : CustomKind := ⟨0, .ascii 'R' 'E' 'L' 'I', "Relic", true, []⟩

/-- A shop of relics, which declares their kind. A ghost is a relic only, since it is deleted among
the goods, and a coin is a book first. The lamp is written again in another case. One default is set
to no value, and a setting with another default is deleted. -/
def relicStore : Store :=
  let books := (Store.new.modify .book fun table =>
    table.replay [⟨{ (default : Book) with id := "COIN" }, false, none⟩]).1
  let goods := (books.modify .miscellaneous fun table => table.replay [
    ⟨{ (default : Miscellaneous) with id := "lamp" }, true, none⟩,
    ⟨{ (default : Miscellaneous) with id := "ghost" }, true, none⟩,
    ⟨{ (default : Miscellaneous) with id := "Coin" }, false, none⟩,
    ⟨{ (default : Miscellaneous) with id := "LAMP" }, false, none⟩,
    ⟨{ (default : Miscellaneous) with id := "bag" }, false, none⟩]).1
  let settings := (goods.modify .gameSetting fun table => table.replay [
    ⟨⟨"FJumpMoveBase", .none⟩, false, none⟩, ⟨⟨"iLevelUpTotal", .int 5⟩, true, none⟩]).1
  let declared := settings.call (.declare (.custom relics))
  (declared.modify (.custom relics) fun table =>
    table.replay [⟨⟨"Ghost", ()⟩, false, none⟩, ⟨⟨"lamp", ()⟩, false, none⟩]).1

theorem reachable_relicStore : relicStore.Reachable :=
  ((((Reachable.new.modify .book _ fun _ _ => trivial).modify .miscellaneous _
    fun _ _ => trivial).modify .gameSetting _ fun _ _ => trivial).call _).modify (.custom relics) _
    fun _ _ => trivial

theorem setUp_describes_relics :
    relicStore.Reachable ∧
      relicStore.setUp.indices.sortedIds Kind.miscellaneous.tag = ["bag", "Coin", "LAMP"] ∧
      (relicStore.HoldsFirst "coin" .book ∧ relicStore.HoldsFirst "ghost" (.custom relics) ∧
        relicStore.HoldsFirst "lamp" .miscellaneous) ∧
      relicStore.Sets "fJUMPMoveBase" (some .none) ∧
      relicStore.Sets "ilevelupTotal" (some (.int 10)) ∧ relicStore.Sets "fNone" none := by
  obtain ⟨describes, settings⟩ := setUp_describes reachable_relicStore
  refine ⟨reachable_relicStore, ?_, ⟨?_, ?_, ?_⟩, ?_, ?_, ?_⟩
  · exact describes.sortedIds_eq (by decide +kernel) (by decide +kernel) (by decide +kernel)
  · exact (describes.owners "coin" .book).mp (by decide +kernel)
  · exact (describes.owners "ghost" (.custom relics)).mp (by decide +kernel)
  · exact (describes.owners "lamp" .miscellaneous).mp (by decide +kernel)
  · exact (settings "fJUMPMoveBase" _).mp (by decide +kernel)
  · exact (settings "ilevelupTotal" _).mp (by decide +kernel)
  · exact (settings "fNone" _).mp (by decide +kernel)

end Store

end ContentLayers
