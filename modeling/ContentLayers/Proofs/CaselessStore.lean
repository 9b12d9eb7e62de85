import ContentLayers.Proofs.Caseless
import ContentLayers.Proofs.Reachable
import ContentLayers.Store.Levelled

/-!
# Stores without case

A store with all its records folded has the same owners and settings, the same sorted ids and
dangling references but for case, and draws the same.
-/

namespace ContentLayers

theorem fold_eq_empty {s : String} : fold s = "" ↔ s = "" := by
  simp [fold]

namespace Shelf

def caseless (s : Shelf) : Shelf := ⟨s.kind, s.table.map s.kind.caseless⟩

theorem ids_caseless (s : Shelf) : s.caseless.ids = s.ids.map fold :=
  s.table.ids_map s.kind.folds_caseless

@[simp] theorem contains_caseless (s : Shelf) (id : String) :
    s.caseless.contains id = s.contains id :=
  s.table.contains_map s.kind.caseless id

theorem table?_caseless (s : Shelf) (kind : Kind) :
    s.caseless.table? kind = (s.table? kind).map (Table.map kind.caseless) := by
  obtain ⟨held, table⟩ := s
  by_cases same : held = kind
  · subst same
    simp [caseless]
  · have absent (table : Table held.Carrier) : (Shelf.mk held table).table? kind = none :=
      table?_of_ne same
    simp [caseless, absent]

end Shelf

def Dangling.caseless (d : Dangling) : Dangling := ⟨d.ownerKind, fold d.owner, fold d.target⟩

namespace Indices

/-- The indices with the ids folded that are listed in full. -/
def caseless (i : Indices) : Indices where
  sorted := i.sorted.map fun (kind, ids) => (kind, ids.map fold)
  owners := i.owners
  settings := i.settings
  dangling := i.dangling.map Dangling.caseless

/-- Ids that are distinct up to case keep their order when they are folded. -/
theorem map_mergeSort_fold {ids : List String} (distinct : (ids.map fold).Nodup) :
    (ids.mergeSort idLE).map fold = (ids.map fold).mergeSort idLE := by
  refine List.map_mergeSort fun a ha b hb => ?_
  by_cases same : fold a = fold b
  · obtain rfl : a = b := List.inj_on_of_nodup_map distinct ha hb same
    simp [idLE]
  -- Ties are broken by the ids as written, and there are none.
  · have apart : compare (fold a) (fold b) ≠ .eq := by
      rwa [ne_eq, Std.LawfulEqOrd.compare_eq_iff_eq]
    simp only [idLE, fold_fold]
    cases order : compare (fold a) (fold b) with
    | eq => exact absurd order apart
    | lt => rfl
    | gt => rfl

theorem sortedOf_caseless {shelf : Shelf} (valid : shelf.table.Valid) :
    sortedOf shelf.caseless = (shelf.kind, (sortedOf shelf).2.map fold) := by
  rw [sortedOf, sortedOf, Shelf.ids_caseless]
  exact congrArg (Prod.mk shelf.kind) (map_mergeSort_fold valid.nodup_ids).symm

theorem claims_caseless (shelves : List Shelf) :
    claims (shelves.map Shelf.caseless) =
      (claims shelves).map fun (id, kind) => (fold id, kind) := by
  have placed : (·.kind.referenceable) ∘ Shelf.caseless = (·.kind.referenceable) := rfl
  simp only [claims, List.filter_map, placed, List.flatMap_map, List.map_flatMap]
  congr 1
  funext shelf
  have kind : shelf.caseless.kind = shelf.kind := rfl
  simp [Shelf.ids_caseless, kind]

theorem ownersOf_caseless (shelves : List Shelf) :
    ownersOf (shelves.map Shelf.caseless) = ownersOf shelves := by
  simp [ownersOf, claims_caseless, List.foldl_map]

theorem settingsOf_caseless (settings : Table GameSetting) :
    settingsOf (settings.map Kind.gameSetting.caseless) = settingsOf settings := by
  simp [settingsOf, Table.records_map, List.foldl_map, Kind.caseless]

theorem danglingItems_caseless (owners : Std.ExtTreeMap String Kind) (kind : Kind)
    (lists : Table LevelledList) :
    danglingItems owners kind (lists.map LevelledList.caseless) =
      (danglingItems owners kind lists).map Dangling.caseless := by
  have known (list : LevelledList) :
      list.caseless.items.filter (fun item => !owners.contains (fold item.id)) =
        (list.items.filter fun item => !owners.contains (fold item.id)).map
          LevelledEntry.caseless := by
    simp [LevelledList.caseless, List.filter_map, LevelledEntry.caseless, Function.comp_def]
  simp only [danglingItems, Table.records_map, List.flatMap_map, List.map_flatMap, known,
    List.map_map]
  rfl

theorem danglingClasses_caseless (npcs : Table Npc) (classes : Table ActorClass) :
    danglingClasses (npcs.map Kind.npc.caseless) (classes.map Kind.actorClass.caseless) =
      (danglingClasses npcs classes).map Dangling.caseless := by
  have named (npc : Npc) : (fold npc.profession != "") = (npc.profession != "") := by
    simp [bne, fold_eq_empty]
  simp [danglingClasses, Table.records_map, List.filter_map, Function.comp_def, Kind.caseless,
    named, Dangling.caseless]

theorem danglingScripts_caseless (starts : Table StartScript) (scripts : Table Script) :
    danglingScripts (starts.map Kind.startScript.caseless) (scripts.map Kind.script.caseless) =
      (danglingScripts starts scripts).map Dangling.caseless := by
  simp [danglingScripts, Table.records_map, List.filter_map, Function.comp_def, Kind.caseless,
    Dangling.caseless]

end Indices

namespace LevelledList

theorem levelEligible_caseless (list : LevelledList) (role : ListRole) (level : Int) :
    list.caseless.levelEligible role level =
      (list.levelEligible role level).map LevelledEntry.caseless := by
  have highest : list.caseless.highest? level = list.highest? level := by
    simp [highest?, caseless, LevelledEntry.caseless, Function.comp_def]
  have flags : list.caseless.allLevels role = list.allLevels role := by
    cases role <;> rfl
  rw [levelEligible, highest, levelEligible, flags]
  cases list.highest? level with
  | none => rfl
  | some highest =>
    simp only [caseless, List.filter_map]
    rfl

end LevelledList

/-- The dice pick the same place of a list when its members are changed. -/
theorem Dice.pick_map {σ α β : Type} (dice : Dice σ) (f : α → β) (first : α) (others : List α)
    (state : σ) :
    (f first :: others.map f).get (dice.pick (others.map f).length state).1 =
        f ((first :: others).get (dice.pick others.length state).1) ∧
      (dice.pick (others.map f).length state).2 = (dice.pick others.length state).2 := by
  have same : ∀ n, n = others.length →
      (dice.pick n state).1.val = (dice.pick others.length state).1.val ∧
        (dice.pick n state).2 = (dice.pick others.length state).2 := by
    rintro _ rfl
    exact ⟨rfl, rfl⟩
  obtain ⟨place, after⟩ := same (others.map f).length (List.length_map f)
  refine ⟨?_, after⟩
  simp only [List.get_eq_getElem, place, ← List.map_cons, List.getElem_map]

namespace Store

/-- The store with all its records folded. -/
def caseless (s : Store) : Store where
  shelves := s.shelves.map Shelf.caseless
  indices := s.indices.caseless
  current := s.current

theorem shelf?_caseless (s : Store) (tag : Tag) :
    s.caseless.shelf? tag = (s.shelf? tag).map Shelf.caseless := by
  simp only [shelf?, caseless, List.find?_map]
  rfl

theorem table?_caseless (s : Store) (kind : Kind) :
    s.caseless.table? kind = (s.table? kind).map (Table.map kind.caseless) := by
  rw [table?, shelf?_caseless, table?]
  cases s.shelf? kind.tag with
  | none => rfl
  | some shelf => exact shelf.table?_caseless kind

theorem table_caseless (s : Store) (kind : Kind) :
    s.caseless.table kind = (s.table kind).map kind.caseless := by
  rw [table, table?_caseless, table]
  cases s.table? kind <;> simp

theorem setShelf_caseless (s : Store) (shelf : Shelf) :
    (s.setShelf shelf).caseless = s.caseless.setShelf shelf.caseless := by
  have placed (old : Shelf) : (if old.kind.tag == shelf.kind.tag then shelf else old).caseless =
      if old.caseless.kind.tag == shelf.caseless.kind.tag then shelf.caseless
      else old.caseless := by
    rw [apply_ite Shelf.caseless]
    rfl
  simp only [setShelf, caseless, List.map_map, mk.injEq, and_true]
  exact List.map_congr_left fun old _ => placed old

theorem danglingOf_caseless (s : Store) (owners : Std.ExtTreeMap String Kind) :
    s.caseless.danglingOf owners = (s.danglingOf owners).map Dangling.caseless := by
  have items : Indices.danglingItems owners .itemList (s.caseless.table .itemList) =
      (Indices.danglingItems owners .itemList (s.table .itemList)).map Dangling.caseless := by
    rw [table_caseless]
    exact Indices.danglingItems_caseless owners .itemList _
  have creatures : Indices.danglingItems owners .creatureList (s.caseless.table .creatureList) =
      (Indices.danglingItems owners .creatureList (s.table .creatureList)).map
        Dangling.caseless := by
    rw [table_caseless]
    exact Indices.danglingItems_caseless owners .creatureList _
  have classes : Indices.danglingClasses (s.caseless.table .npc) (s.caseless.table .actorClass) =
      (Indices.danglingClasses (s.table .npc) (s.table .actorClass)).map Dangling.caseless := by
    rw [table_caseless, table_caseless]
    exact Indices.danglingClasses_caseless _ _
  have scripts :
      Indices.danglingScripts (s.caseless.table .startScript) (s.caseless.table .script) =
        (Indices.danglingScripts (s.table .startScript) (s.table .script)).map
          Dangling.caseless := by
    rw [table_caseless, table_caseless]
    exact Indices.danglingScripts_caseless _ _
  simp only [danglingOf, items, creatures, classes, scripts, List.map_append]

/-- Folding the records of a store folds what is listed of them. -/
theorem Sound.derive_caseless {s : Store} (h : s.Sound) :
    s.caseless.derive = s.derive.caseless := by
  have sorted : (s.shelves.map Shelf.caseless).map Indices.sortedOf =
      (s.shelves.map Indices.sortedOf).map fun (kind, ids) => (kind, ids.map fold) := by
    rw [List.map_map, List.map_map]
    exact List.map_congr_left fun shelf mem =>
      Indices.sortedOf_caseless (h.tables shelf mem).valid
  have settings : Indices.settingsOf (s.caseless.table .gameSetting) =
      Indices.settingsOf (s.table .gameSetting) := by
    rw [table_caseless]
    exact Indices.settingsOf_caseless _
  have shelves : s.caseless.shelves = s.shelves.map Shelf.caseless := rfl
  simp only [derive, Indices.caseless, shelves, sorted, Indices.ownersOf_caseless, settings,
    danglingOf_caseless]

theorem Sound.setUp_caseless {s : Store} (h : s.Sound) : s.caseless.setUp = s.setUp.caseless := by
  rw [setUp, h.derive_caseless]
  rfl

theorem find_caseless (s : Store) (id : String) : s.caseless.find id = s.find id := by
  have held : (fun shelf : Shelf => shelf.kind.referenceable && shelf.contains id) ∘
      Shelf.caseless = fun shelf => shelf.kind.referenceable && shelf.contains id := by
    funext shelf
    have kind : shelf.caseless.kind = shelf.kind := rfl
    simp [kind]
  have scanned : s.caseless.scan id = s.scan id := by
    simp only [scan, caseless, List.find?_map, held, Option.map_map]
    rfl
  rw [find, find, scanned]
  rfl

theorem find_fold (s : Store) (id : String) : s.find (fold id) = s.find id := by
  have scanned : s.scan (fold id) = s.scan id := by
    simp [scan, Shelf.contains]
  rw [find, find, scanned, fold_fold]

theorem candidates_caseless (s : Store) (list : LevelledList) (role : ListRole) (level : Int) :
    s.caseless.candidates list.caseless role level =
      (s.candidates list role level).map LevelledEntry.caseless := by
  have known (entry : LevelledEntry) : s.caseless.find entry.caseless.id = s.find entry.id := by
    rw [find_caseless]
    exact s.find_fold entry.id
  simp only [candidates, LevelledList.levelEligible_caseless, List.filter_map, Function.comp_def,
    known]

theorem nested?_caseless (s : Store) (id : String) :
    s.caseless.nested? (fold id) =
      (s.nested? id).map fun (list, role) => (list.caseless, role) := by
  have items : (s.caseless.table .itemList).search (fold id) =
      ((s.table .itemList).search id).map LevelledList.caseless := by
    rw [table_caseless, Table.search_fold]
    exact Table.search_map _ _ id
  have creatures : (s.caseless.table .creatureList).search (fold id) =
      ((s.table .creatureList).search id).map LevelledList.caseless := by
    rw [table_caseless, Table.search_fold]
    exact Table.search_map _ _ id
  rw [nested?, items, creatures, nested?]
  cases (s.table .itemList).search id with
  | some list => rfl
  | none => cases (s.table .creatureList).search id <;> rfl

/-- The same dice draw the same from folded lists. -/
theorem drawWithin_caseless {σ : Type} (s : Store) (dice : Dice σ) (level : Int) (depth : Nat)
    (list : LevelledList) (role : ListRole) (state : σ) :
    (s.caseless.drawWithin dice level depth list.caseless role state).1.pick =
        (s.drawWithin dice level depth list role state).1.pick.map fold ∧
      (s.caseless.drawWithin dice level depth list.caseless role state).2 =
        (s.drawWithin dice level depth list role state).2 := by
  induction depth generalizing list role state with
  | zero => exact ⟨rfl, rfl⟩
  | succ depth ih =>
    have chance : list.caseless.chanceNone = list.chanceNone := rfl
    simp only [drawWithin, chance, candidates_caseless]
    by_cases missed : (dice.percent state).1.val < list.chanceNone.toNat
    · simp [missed]
    simp only [missed, if_false]
    cases s.candidates list role level with
    | nil => exact ⟨rfl, rfl⟩
    | cons first others =>
      obtain ⟨chosen, after⟩ :=
        dice.pick_map LevelledEntry.caseless first others (dice.percent state).2
      simp only [List.map_cons, chosen, after]
      generalize (first :: others).get (dice.pick others.length (dice.percent state).2).1 = entry
      have leads : s.caseless.nested? entry.caseless.id =
          (s.nested? entry.id).map fun (list, role) => (list.caseless, role) :=
        s.nested?_caseless entry.id
      rw [leads]
      cases s.nested? entry.id with
      | none => exact ⟨rfl, rfl⟩
      | some next => exact ih next.1 next.2 _

end Store

end ContentLayers
