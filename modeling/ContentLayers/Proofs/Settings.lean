import ContentLayers.Proofs.CurrentIndices

/-!
# Settings and equal indices

A setting has the value of the last entry for its name, where the defaults come first. Indices that
are derived again are the same, but count as equal only while no setting is a NaN.
-/

namespace ContentLayers

theorem Binary32.same_self (x : Binary32) : x.same x = !x.isNaN := by
  simp [same]

/-- Only a NaN differs from itself. -/
theorem Variant.same_self {v : Variant} :
    v.same v = true ↔ ∀ x, v = .float x → x.isNaN = false := by
  cases v <;> simp [same, Binary32.same_self]

namespace Indices

/-- Of the entries for a key the last one counts. -/
theorem getElem?_foldl_insert {β : Type} (entries : List (String × β))
    (m : Std.ExtTreeMap String β) (key : String) :
    (entries.foldl (fun m entry => m.insert (fold entry.1) entry.2) m)[key]? =
      ((entries.reverse.find? (fold ·.1 == key)).map (·.2)).or m[key]? := by
  induction entries using List.reverseRecOn with
  | nil => simp
  | append_singleton entries entry ih =>
    rw [List.foldl_append, List.foldl_cons, List.foldl_nil, Std.ExtTreeMap.getElem?_insert, ih,
      List.reverse_append]
    by_cases same : fold entry.1 = key <;> simp [same, List.find?_cons_of_neg]

/-- The names with their values: the defaults, and what the records set. -/
def settingEntries (settings : Table GameSetting) : List (String × Variant) :=
  defaultSettings ++ settings.records.map fun s => (s.id, s.value)

variable {settings : Table GameSetting} {key : String} {value : Variant}

theorem getElem?_settingsOf (settings : Table GameSetting) (key : String) :
    (settingsOf settings)[key]? =
      ((settingEntries settings).reverse.find? (fold ·.1 == key)).map (·.2) := by
  have layered : settingsOf settings = (settingEntries settings).foldl
      (fun m entry => m.insert (fold entry.1) entry.2) ∅ := by
    rw [settingsOf, settingEntries, List.foldl_append, List.foldl_map]
  rw [layered, getElem?_foldl_insert]
  simp

/-- The value of a setting is a default, or a record has it. -/
theorem mem_settingEntries (found : (settingsOf settings)[key]? = some value) :
    ∃ name, (name, value) ∈ settingEntries settings := by
  rw [getElem?_settingsOf] at found
  obtain ⟨⟨name, _⟩, last, rfl⟩ := Option.map_eq_some_iff.mp found
  exact ⟨name, List.mem_reverse.mp (List.mem_of_find?_eq_some last)⟩

/-- No other record has the name of a record, so its value counts. -/
theorem getElem?_settingsOf_of_mem (h : settings.Valid) {setting : GameSetting}
    (mem : setting ∈ settings.records) :
    (settingsOf settings)[fold setting.id]? = some setting.value := by
  have distinct := h.nodup_ids
  rw [Table.ids, List.map_map] at distinct
  rw [getElem?_settingsOf, settingEntries, List.reverse_append, List.find?_append]
  cases last : (settings.records.map fun s => (s.id, s.value)).reverse.find?
      (fold ·.1 == fold setting.id) with
  | none =>
    have listed := List.mem_reverse.mpr (List.mem_map_of_mem (f := fun s => (s.id, s.value)) mem)
    exact absurd (List.find?_eq_none.mp last _ listed) (by simp)
  | some entry =>
    have named : fold entry.1 = fold setting.id := by simpa using List.find?_some last
    obtain ⟨other, mem', rfl⟩ :=
      List.mem_map.mp (List.mem_reverse.mp (List.mem_of_find?_eq_some last))
    obtain rfl : other = setting := List.inj_on_of_nodup_map distinct mem' mem named
    rfl

/-- Indices are equal to themselves when all their settings are. -/
theorem same_self {i : Indices} :
    i.same i = true ↔ ∀ entry ∈ i.settings.toList, entry.2.same entry.2 = true := by
  have paired (entries : List (String × Variant)) :
      entries.zip entries = entries.map fun entry => (entry, entry) := by
    rw [← List.zip_map']
    simp
  simp [same, paired]

/-- The defaults are numbers and text, so only records bring in a NaN. -/
theorem same_settings_iff (h : settings.Valid) :
    (∀ entry ∈ (settingsOf settings).toList, entry.2.same entry.2 = true) ↔
      ∀ setting ∈ settings.records, setting.value.same setting.value = true := by
  constructor
  · intro same setting mem
    have held := getElem?_settingsOf_of_mem h mem
    exact same _ (Std.ExtTreeMap.mem_toList_iff_getElem?_eq_some.mpr held)
  · rintro same ⟨key, value⟩ held
    have held := Std.ExtTreeMap.mem_toList_iff_getElem?_eq_some.mp held
    obtain ⟨name, listed⟩ := mem_settingEntries held
    obtain default | set := List.mem_append.mp listed
    · have defaults : ∀ entry ∈ defaultSettings, entry.2.same entry.2 = true := by decide
      exact defaults (name, value) default
    · obtain ⟨setting, mem, named⟩ := List.mem_map.mp set
      obtain ⟨rfl, rfl⟩ := Prod.mk.inj named
      exact same setting mem

end Indices

namespace Store

/-- **Deriving the indices again changes nothing**, but what was derived before counts as equal only
when no live setting is a NaN. -/
theorem setUp_again_same {s : Store} (reachable : s.Reachable) :
    s.setUp.setUp.indices = s.setUp.indices ∧
      (s.setUp.indices.same s.setUp.setUp.indices = true ↔
        ∀ setting ∈ (s.table .gameSetting).records, ∀ x,
          setting.value = .float x → x.isNaN = false) := by
  have again : s.setUp.setUp.indices = s.setUp.indices := rfl
  have valid := (reachable.sound.table .gameSetting).valid
  have settings := Indices.same_settings_iff valid
  simp only [Variant.same_self] at settings
  refine ⟨again, ?_⟩
  rw [again, Indices.same_self, ← settings]
  simp only [Variant.same_self]
  rfl

/-- A store with some game settings. -/
def withSettings (log : List (Write GameSetting)) : Store :=
  (Store.new.modify .gameSetting fun table => table.replay log).1

theorem reachable_withSettings (log : List (Write GameSetting)) : (withSettings log).Reachable :=
  Reachable.new.modify .gameSetting log fun _ _ => trivial

/-- A negative zero, an infinity, and a NaN that is deleted. -/
def oddSettings : List (Write GameSetting) :=
  [⟨⟨"fZero", .float ⟨0x80000000⟩⟩, false, none⟩, ⟨⟨"fAll", .float ⟨0x7F800000⟩⟩, false, none⟩,
    ⟨⟨"fNone", .float ⟨0x7FC00000⟩⟩, false, none⟩, ⟨⟨"FNONE", .none⟩, true, none⟩]

theorem setUp_again_same_odd :
    (withSettings oddSettings).Reachable ∧
      (withSettings oddSettings).setUp.indices.same (withSettings oddSettings).setUp.setUp.indices =
        true := by
  have reachable := reachable_withSettings oddSettings
  have numbers : ∀ setting ∈ ((withSettings oddSettings).table .gameSetting).records,
      setting.value.same setting.value = true := by decide
  exact ⟨reachable, (setUp_again_same reachable).2.mpr fun setting mem =>
    Variant.same_self.mp (numbers setting mem)⟩

/-- A setting that is a NaN is enough for indices that differ from themselves. -/
theorem setUp_again_nan :
    let s := withSettings [⟨⟨"fNan", .float ⟨0x7FC00000⟩⟩, false, none⟩]
    s.Reachable ∧ s.setUp.indices.same s.setUp.setUp.indices = false := by
  intro s
  have reachable : s.Reachable := reachable_withSettings _
  have valid := (reachable.sound.table .gameSetting).valid
  have nan : (⟨"fNan", .float ⟨0x7FC00000⟩⟩ : GameSetting) ∈ (s.table .gameSetting).records := by
    decide
  refine ⟨reachable, Bool.eq_false_iff.mpr fun same => ?_⟩
  have numbers := (Indices.same_settings_iff valid).mp (Indices.same_self.mp same) _ nan
  cases numbers

end Store

end ContentLayers
