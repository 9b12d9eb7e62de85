import ContentLayers.Proofs.CurrentIndices
import ContentLayers.Proofs.Visits

/-!
# Dangling references

A reference dangles when no live record stands behind it. Of the entries of a list, draws leave out
exactly those that are reported as dangling.
-/

namespace ContentLayers

theorem Table.Valid.not_contains {α : Type} [Record α] {t : Table α} (h : t.Valid) (id : String) :
    (!t.contains id) = decide (∀ record ∈ t.records, fold (Record.id record) ≠ fold id) := by
  rw [Bool.eq_iff_iff, decide_eq_true_iff, ← h.search_eq_none, contains]
  simp

namespace Store

/-- A live record of a referenceable kind has the id. -/
def Held (s : Store) (id : String) : Prop :=
  ∃ shelf ∈ s.shelves, shelf.kind.referenceable = true ∧
    ∃ record ∈ shelf.table.records, fold (Record.id record) = fold id

instance (s : Store) (id : String) : Decidable (s.Held id) :=
  inferInstanceAs (Decidable (∃ shelf ∈ s.shelves, _ ∧ ∃ record ∈ shelf.table.records, _ = _))

/-- The entries of the live lists of a kind that no record has the ids of. -/
def unheldEntries (s : Store) (home : ListRole) : List Dangling :=
  (s.lists home).flatMap fun list =>
    (list.items.filter fun entry => ¬ s.Held entry.id).map fun entry =>
      ⟨home.kind, list.id, entry.id⟩

/-- The classes of persons that no record has the ids of; a person may be without a class. -/
def unheldClasses (s : Store) : List Dangling :=
  ((s.table .npc).records.filter fun npc => npc.profession ≠ "" ∧
    ∀ known ∈ (s.table .actorClass).records, fold known.id ≠ fold npc.profession).map fun npc =>
      ⟨.npc, npc.id, npc.profession⟩

/-- The scripts to start that no record has the ids of. -/
def unheldScripts (s : Store) : List Dangling :=
  ((s.table .startScript).records.filter fun start =>
    ∀ known ∈ (s.table .script).records, fold known.id ≠ fold start.script).map fun start =>
      ⟨.startScript, start.id, start.script⟩

variable {s : Store} {id : String}

theorem contains_ownersOf (s : Store) (id : String) :
    (Indices.ownersOf s.shelves).contains (fold id) = decide (s.Held id) := by
  rw [Bool.eq_iff_iff, decide_eq_true_iff, Std.ExtTreeMap.contains_eq_isSome_getElem?,
    Indices.getElem?_ownersOf]
  simp [Held, Shelf.offers_iff]

theorem danglingItems_eq (s : Store) (home : ListRole) (lists : Table LevelledList)
    (held : lists.records = s.lists home) :
    Indices.danglingItems (Indices.ownersOf s.shelves) home.kind lists = s.unheldEntries home := by
  simp [Indices.danglingItems, contains_ownersOf, unheldEntries, held]

theorem Sound.dangling_eq (h : s.Sound) :
    s.derive.dangling = s.unheldEntries .items ++ s.unheldEntries .creatures ++
      s.unheldClasses ++ s.unheldScripts := by
  have items := s.danglingItems_eq .items (s.table .itemList) rfl
  have creatures := s.danglingItems_eq .creatures (s.table .creatureList) rfl
  have classes : Indices.danglingClasses (s.table .npc) (s.table .actorClass) =
      s.unheldClasses := by
    have unknown := (h.table .actorClass).valid.not_contains
    simp [Indices.danglingClasses, unknown, unheldClasses, Record.id, bne, beq_eq_decide]
  have scripts : Indices.danglingScripts (s.table .startScript) (s.table .script) =
      s.unheldScripts := by
    have unknown := (h.table .script).valid.not_contains
    simp [Indices.danglingScripts, unknown, unheldScripts, Record.id]
  simp only [ListRole.kind] at items creatures
  simp only [derive, danglingOf, items, creatures, classes, scripts]

theorem target_unheld {home : ListRole} {kind : Kind} {owner target : String}
    (reported : ⟨kind, owner, target⟩ ∈ s.unheldEntries home) : ¬ s.Held target := by
  obtain ⟨list, _, reported⟩ := List.mem_flatMap.mp reported
  obtain ⟨entry, kept, same⟩ := List.mem_map.mp reported
  obtain ⟨-, -, rfl⟩ := Dangling.mk.inj same
  simpa using (List.mem_filter.mp kept).2

/-- An entry is reported for its list when no record has its id. -/
theorem Sound.mem_dangling (h : s.Sound) {home : ListRole} {list : LevelledList}
    {entry : LevelledEntry} (live : list ∈ s.lists home) (listed : entry ∈ list.items) :
    ⟨home.kind, list.id, entry.id⟩ ∈ s.derive.dangling ↔ ¬ s.Held entry.id := by
  simp only [h.dangling_eq, List.mem_append, or_assoc]
  constructor
  · rintro (reported | reported | reported | reported)
    · exact target_unheld reported
    · exact target_unheld reported
    · obtain ⟨npc, _, same⟩ := List.mem_map.mp reported
      cases home <;> cases congrArg Dangling.ownerKind same
    · obtain ⟨start, _, same⟩ := List.mem_map.mp reported
      cases home <;> cases congrArg Dangling.ownerKind same
  · intro unheld
    have reported : ⟨home.kind, list.id, entry.id⟩ ∈ s.unheldEntries home :=
      List.mem_flatMap.mpr ⟨list, live, List.mem_map.mpr
        ⟨entry, List.mem_filter.mpr ⟨listed, by simpa using unheld⟩, rfl⟩⟩
    cases home with
    | items => exact Or.inl reported
    | creatures => exact Or.inr (Or.inl reported)

/-- With the indices derived an id is found when a record has it. -/
theorem find_setUp_isSome : (s.setUp.find id).isSome = true ↔ s.Held id := by
  have known := s.contains_ownersOf id
  rw [Std.ExtTreeMap.contains_eq_isSome_getElem?] at known
  have index : s.setUp.find id = (Indices.ownersOf s.shelves)[fold id]? := rfl
  rw [index, known, decide_eq_true_iff]

/-- **Draws leave out what dangles.** The dangling references are the entries of the live item lists
that no record of a referenceable kind has the ids of, then those of the creature lists, then the
classes of persons and the scripts to start that are not there. A visit to a live list that looks at
the entries leaves out those that are reported for the list, and picks among the others. -/
theorem draws_leave_out_dangling (reachable : s.Reachable) :
    let t := s.setUp
    t.indices.dangling = s.unheldEntries .items ++ s.unheldEntries .creatures ++
        s.unheldClasses ++ s.unheldScripts ∧
      ∀ {σ : Type} (dice : Dice σ) (list : LevelledList) (role : ListRole) (level : Int)
        (state : σ),
        let walk := t.walk dice level maxListDepth (list, role) state
        (t.draw dice list role level state = (walk.drawn, walk.state) ∧
          walk.From (list, role)) ∧
        ∀ visit ∈ walk.visits, visit.Passed → ∀ home, visit.use.1 ∈ t.lists home →
          let eligible := visit.use.1.levelEligible visit.use.2 level
          let reported (entry : LevelledEntry) : Bool :=
            ⟨home.kind, visit.use.1.id, entry.id⟩ ∈ t.indices.dangling
          visit.missing = eligible.filter reported ∧
            visit.candidates = eligible.filter (!reported ·) := by
  intro t
  refine ⟨reachable.sound.dangling_eq, ?_⟩
  intro σ dice list role level state walk
  refine ⟨t.draw_eq_walk dice list role level state, ?_⟩
  intro visit mem passed home live eligible reported
  have allows := t.allows_walk dice level _ _ state visit mem
  have known : ∀ entry ∈ eligible, reported entry = (t.find entry.id).isNone := by
    intro entry right
    have listed := (LevelledList.mem_levelEligible.mp right).1
    rw [Bool.eq_iff_iff, decide_eq_true_iff, ← Option.not_isSome, Bool.not_eq_true',
      ← Bool.not_eq_true, find_setUp_isSome]
    exact reachable.sound.mem_dangling live listed
  rw [allows.missing passed, allows.candidates passed]
  refine ⟨(List.filter_congr known).symm, (List.filter_congr fun entry right => ?_).symm⟩
  rw [known entry right, Option.not_isNone]

end Store

/-- A list of a coin, of a ghost at two levels, and of a bell, which is only a sound. -/
def stall : LevelledList :=
  ⟨"stall", 2, 0, [⟨"COIN", 1⟩, ⟨"ghost", 1⟩, ⟨"Bell", 2⟩, ⟨"ghost", 9⟩]⟩

/-- A store with the list, its coin and the bell, a deleted ghost, and two persons, one of a class
that is not there. -/
def stallStore : Store :=
  let goods := (Store.new.modify .miscellaneous fun table => table.replay [
    ⟨{ (default : Miscellaneous) with id := "coin" }, false, none⟩,
    ⟨{ (default : Miscellaneous) with id := "ghost" }, true, none⟩]).1
  let sounds := (goods.modify .sound fun table =>
    table.replay [⟨{ (default : Sound) with id := "bell" }, false, none⟩]).1
  let lists := (sounds.modify .itemList fun table => table.replay [⟨stall, false, none⟩]).1
  (lists.modify .npc fun table => table.replay [
    ⟨{ (default : Npc) with id := "child" }, false, none⟩,
    ⟨{ (default : Npc) with id := "guard", profession := "Knight" }, false, none⟩]).1

theorem reachable_stallStore : stallStore.Reachable :=
  (((Store.Reachable.new.modify .miscellaneous _ fun _ _ => trivial).modify .sound _
    fun _ _ => trivial).modify .itemList _ fun _ _ => trivial).modify .npc _ fun _ _ => trivial

theorem Store.draws_leave_out_dangling_stall :
    stallStore.Reachable ∧
      stallStore.setUp.indices.dangling = [⟨.itemList, "stall", "ghost"⟩,
        ⟨.itemList, "stall", "Bell"⟩, ⟨.itemList, "stall", "ghost"⟩, ⟨.npc, "guard", "Knight"⟩] ∧
      ∃ visit ∈ (stallStore.setUp.walk .told 5 maxListDepth (stall, .items) []).visits,
        visit.Passed ∧ visit.missing = [⟨"ghost", 1⟩, ⟨"Bell", 2⟩] ∧
          visit.candidates = [⟨"COIN", 1⟩] := by
  obtain ⟨dangling, visits⟩ := Store.draws_leave_out_dangling reachable_stallStore
  let visit := (stallStore.setUp.visit .told 5 (stall, .items) []).1
  have made : visit ∈ (stallStore.setUp.walk .told 5 maxListDepth (stall, .items) []).visits := by
    decide +kernel
  have passed : visit.Passed := by decide +kernel
  have live : visit.use.1 ∈ stallStore.setUp.lists .items := by decide +kernel
  obtain ⟨missing, candidates⟩ := (visits .told stall .items 5 []).2 visit made passed .items live
  refine ⟨reachable_stallStore, dangling.trans (by decide +kernel), visit, made, passed, ?_, ?_⟩
  · exact missing.trans (by decide +kernel)
  · exact candidates.trans (by decide +kernel)

end ContentLayers
