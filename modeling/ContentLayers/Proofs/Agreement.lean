import ContentLayers.Proofs.Acceptance
import ContentLayers.Proofs.CurrentIndices
import ContentLayers.Store.Levelled

/-!
# Stores that find the same

Indices and draws depend on the declared kinds and on what the tables find. Where a record stands in
its table shows only in the order of the dangling references.
-/

namespace ContentLayers

/-- The order of ids: that of their folds, and then that of their text. -/
def idCompare : String → String → Ordering := compareLex (compareOn fold) compare

instance : Std.TransCmp idCompare :=
  inferInstanceAs (Std.TransCmp (compareLex (compareOn fold) (compare (α := String))))

theorem idLE_eq (a b : String) : idLE a b = (idCompare a b).isLE := rfl

theorem idLE_trans (a b c : String) (ab : idLE a b = true) (bc : idLE b c = true) :
    idLE a c = true := by
  rw [idLE_eq] at *
  exact Std.TransCmp.isLE_trans ab bc

theorem idLE_total (a b : String) : (idLE a b || idLE b a) = true := by
  have swapped : idCompare b a = (idCompare a b).swap := Std.OrientedCmp.eq_swap
  rw [idLE_eq, idLE_eq, swapped]
  cases idCompare a b <;> rfl

theorem idLE_antisymm {a b : String} (ab : idLE a b = true) (ba : idLE b a = true) : a = b := by
  rw [idLE_eq] at ab ba
  have same : idCompare a b = .eq := Std.OrientedCmp.isLE_antisymm ab ba
  simp [idCompare, compareLex, Ordering.then_eq_eq] at same
  exact same.2

/-- Sorting forgets the order that ids came in. -/
theorem mergeSort_idLE_eq {ids others : List String} (perm : ids.Perm others) :
    ids.mergeSort idLE = others.mergeSort idLE := by
  refine List.Perm.eq_of_pairwise (fun _ _ _ _ => idLE_antisymm)
    (List.pairwise_mergeSort idLE_trans idLE_total _)
    (List.pairwise_mergeSort idLE_trans idLE_total _) ?_
  exact (List.mergeSort_perm _ _).trans (perm.trans (List.mergeSort_perm _ _).symm)

namespace Table

variable {α : Type} {t u : Table α}

theorem contains_congr (same : ∀ id, t.search id = u.search id) (id : String) :
    t.contains id = u.contains id := by
  rw [contains, contains, same]

variable [Record α]

theorem Valid.nodup_records (h : t.Valid) : t.records.Nodup := by
  have distinct := h.nodup_ids
  rw [ids, List.map_map] at distinct
  exact distinct.of_map _

theorem Valid.records_perm (h : t.Valid) (h' : u.Valid) (same : ∀ id, t.search id = u.search id) :
    t.records.Perm u.records := by
  have held {v : Table α} (valid : v.Valid) (record : α) :
      record ∈ v.records ↔ v.search (Record.id record) = some record := by
    simp [valid.search_eq_some]
  rw [List.perm_ext_iff_of_nodup h.nodup_records h'.nodup_records]
  intro record
  rw [held h, held h', same]

end Table

theorem Indices.settingsOf_congr {settings others : Table GameSetting} (h : settings.Valid)
    (perm : settings.records.Perm others.records) : settingsOf settings = settingsOf others := by
  refine perm.foldl_eq' (fun r mem r' mem' known => ?_) _
  by_cases same : fold r.id = fold r'.id
  · have distinct := h.nodup_ids
    rw [Table.ids, List.map_map] at distinct
    obtain rfl : r = r' := List.inj_on_of_nodup_map distinct mem mem' same
    rfl
  · apply Std.ExtTreeMap.ext_getElem?
    intro key
    simp only [Std.ExtTreeMap.getElem?_insert, Std.LawfulEqOrd.compare_eq_iff_eq]
    split
    · rename_i here
      rw [if_neg fun there => same (there.trans here.symm)]
    · rfl

namespace Store

/-- Two stores declare the same kinds and find the same records. -/
structure Agrees (s t : Store) : Prop where
  kinds : s.kinds = t.kinds
  search : ∀ kind id, (s.table kind).search id = (t.table kind).search id

variable {s t : Store}

theorem agrees_of_content (kinds : s.kinds = t.kinds)
    (content : ∀ kind q, ((s.table kind).slots.find? q).map Slot.content =
      ((t.table kind).slots.find? q).map Slot.content) : s.Agrees t := by
  refine ⟨kinds, fun kind id => ?_⟩
  rw [Table.search_eq_content, content, ← Table.search_eq_content]

theorem Agrees.setUp (agrees : s.Agrees t) : s.setUp.Agrees t.setUp :=
  ⟨agrees.kinds, agrees.search⟩

theorem Agrees.records (agrees : s.Agrees t) (h : s.Sound) (h' : t.Sound) (kind : Kind) :
    (s.table kind).records.Perm (t.table kind).records :=
  (h.table kind).valid.records_perm (h'.table kind).valid (agrees.search kind)

theorem Agrees.sorted (agrees : s.Agrees t) (h : s.Sound) (h' : t.Sound) :
    s.derive.sorted = t.derive.sorted := by
  simp only [derive, h.shelves_eq, h'.shelves_eq, agrees.kinds, List.map_map]
  refine List.map_congr_left fun kind _ => ?_
  have perm := (agrees.records h h' kind).map Record.id
  simp only [Function.comp_apply, Indices.sortedOf]
  exact congrArg (Prod.mk kind) (mergeSort_idLE_eq perm)

theorem Agrees.owners (agrees : s.Agrees t) (h : s.Sound) (h' : t.Sound) :
    s.derive.owners = t.derive.owners := by
  apply Std.ExtTreeMap.ext_getElem?
  intro key
  have offers (kind : Kind) : Shelf.offers ⟨kind, s.table kind⟩ key =
      Shelf.offers ⟨kind, t.table kind⟩ key := by
    have perm := (agrees.records h h' kind).map Record.id
    exact congrArg (kind.referenceable && ·) perm.any_eq
  simp only [derive, Indices.getElem?_ownersOf, h.shelves_eq, h'.shelves_eq, agrees.kinds,
    List.find?_map, Function.comp_def, offers, Option.map_map]

theorem Agrees.settings (agrees : s.Agrees t) (h : s.Sound) (h' : t.Sound) :
    s.derive.settings = t.derive.settings :=
  Indices.settingsOf_congr (h.table .gameSetting).valid (agrees.records h h' .gameSetting)

/-- The dangling references are the same; their order follows that of the slots. -/
theorem Agrees.dangling (agrees : s.Agrees t) (h : s.Sound) (h' : t.Sound) :
    s.derive.dangling.Perm t.derive.dangling := by
  have owners : Indices.ownersOf s.shelves = Indices.ownersOf t.shelves := agrees.owners h h'
  have perm := agrees.records h h'
  have classes := Table.contains_congr (agrees.search .actorClass)
  have scripts := Table.contains_congr (agrees.search .script)
  simp only [derive, danglingOf, owners, Indices.danglingItems, Indices.danglingClasses,
    Indices.danglingScripts, classes, scripts]
  exact ((((perm .itemList).flatMap_right _).append ((perm .creatureList).flatMap_right _)).append
    (((perm .npc).filter _).map _)).append (((perm .startScript).filter _).map _)

/-- With the records in the same order all indices are the same. -/
theorem Agrees.derive_eq (agrees : s.Agrees t) (h : s.Sound) (h' : t.Sound)
    (records : ∀ kind, (s.table kind).records = (t.table kind).records) : s.derive = t.derive := by
  have owners := agrees.owners h h'
  have classes := Table.contains_congr (agrees.search .actorClass)
  have scripts := Table.contains_congr (agrees.search .script)
  have dangling : s.derive.dangling = t.derive.dangling := by
    simp only [derive] at owners ⊢
    simp only [danglingOf, owners, Indices.danglingItems, Indices.danglingClasses,
      Indices.danglingScripts, classes, scripts, records]
  calc s.derive
    _ = ⟨s.derive.sorted, s.derive.owners, s.derive.settings, s.derive.dangling⟩ := rfl
    _ = t.derive := by rw [agrees.sorted h h', owners, agrees.settings h h', dangling]

theorem Agrees.find (agrees : s.Agrees t) (h : s.Sound) (h' : t.Sound) (fresh : s.Fresh)
    (fresh' : t.Fresh) (id : String) : s.find id = t.find id := by
  rw [h.find_eq_scan fresh, h'.find_eq_scan fresh', ← h.getElem?_owners, ← h'.getElem?_owners,
    agrees.owners h h']

theorem Agrees.nested? (agrees : s.Agrees t) (id : String) : s.nested? id = t.nested? id := by
  simp only [Store.nested?, agrees.search]

/-- A draw depends on what is found, at every depth. -/
theorem drawWithin_congr {σ : Type} (find : ∀ id, s.find id = t.find id)
    (nested : ∀ id, s.nested? id = t.nested? id) (dice : Dice σ) (level : Int) (depth : Nat)
    (list : LevelledList) (role : ListRole) (state : σ) :
    s.drawWithin dice level depth list role state =
      t.drawWithin dice level depth list role state := by
  induction depth generalizing list role state with
  | zero => rfl
  | succ depth ih =>
    simp only [drawWithin, candidates, missingItems, find, nested, ih]

theorem Agrees.draw {σ : Type} (agrees : s.Agrees t) (h : s.Sound) (h' : t.Sound) (fresh : s.Fresh)
    (fresh' : t.Fresh) (dice : Dice σ) (list : LevelledList) (role : ListRole) (level : Int)
    (state : σ) : s.draw dice list role level state = t.draw dice list role level state :=
  drawWithin_congr (agrees.find h h' fresh fresh') agrees.nested? dice level _ list role state

end Store

end ContentLayers
