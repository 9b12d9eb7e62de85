import ContentLayers.Proofs.Declarations
import ContentLayers.Proofs.Visits

/-!
# Picks that name lists

A draw goes on in a list when a list has the id that is picked, whichever kind owns the id. So it
follows the owner except where a list shares its id with a record of a kind that is declared before
the lists.
-/

namespace ContentLayers

/-- The referenceable kinds that are declared before the lists. -/
def Kind.beforeLists : List Kind := [.activator, .apparatus, .book, .creature]

namespace Store

/-- A live record of the kind has the id. -/
def Has (s : Store) (kind : Kind) (id : String) : Prop :=
  ∃ record ∈ (s.table kind).records, fold (Record.id record) = fold id

instance (s : Store) (kind : Kind) (id : String) : Decidable (s.Has kind id) :=
  inferInstanceAs (Decidable (∃ record ∈ (s.table kind).records, _ = _))

/-- The id names a list, but belongs to a kind that is declared before the lists. -/
def Eclipsed (s : Store) (id : String) : Prop :=
  (∃ use, s.Names id use) ∧ ∃ kind ∈ Kind.beforeLists, s.Has kind id

variable {s : Store} {id : String} {use : ListUse}

theorem exists_names :
    (∃ use, s.Names id use) ↔ s.Has .itemList id ∨ s.Has .creatureList id := by
  constructor
  · rintro ⟨⟨list, items | creatures⟩, names⟩
    · exact Or.inl ⟨list, names⟩
    · exact Or.inr ⟨list, names.2⟩
  · intro held
    by_cases item : s.Has .itemList id
    · obtain ⟨list, names⟩ := item
      exact ⟨(list, .items), names⟩
    · obtain ⟨list, names⟩ := held.resolve_left item
      exact ⟨(list, .creatures), fun other live same => item ⟨other, live, same⟩, names⟩

/-- The owner of an id is looked for kind by kind, and of the lists first among the item lists. -/
theorem Reachable.find_eq (h : s.Reachable) :
    ∃ later : List Kind, ∀ id, s.find id =
      (Kind.beforeLists ++ .itemList :: .creatureList :: later).find? fun kind => s.Has kind id := by
  obtain ⟨added, kinds⟩ := h.builtins
  refine ⟨[.miscellaneous, .npc, .weapon] ++ added.filter Kind.referenceable, fun id => ?_⟩
  have offers (kind : Kind) : Shelf.offers ⟨kind, s.table kind⟩ (fold id) =
      (kind.referenceable && decide (s.Has kind id)) := by
    rw [Bool.eq_iff_iff, Shelf.offers_iff, Bool.and_eq_true, decide_eq_true_iff]
    rfl
  have placed : s.kinds.filter Kind.referenceable = Kind.beforeLists ++ .itemList ::
      .creatureList :: ([.miscellaneous, .npc, .weapon] ++ added.filter Kind.referenceable) := by
    rw [← kinds, List.filter_append]
    rfl
  calc s.find id
    _ = (s.shelves.find? (·.offers (fold id))).map (·.kind) := by
      rw [h.sound.find_eq_scan h.fresh, h.sound.scan_eq]
    _ = s.kinds.find? fun kind => kind.referenceable && decide (s.Has kind id) := by
      rw [h.sound.shelves_eq, List.find?_map, Option.map_map]
      simp [Function.comp_def, offers]
    _ = (s.kinds.filter Kind.referenceable).find? fun kind => s.Has kind id := by
      rw [List.find?_filter]
      simp
    _ = _ := by rw [placed]

/-- An id that a kind before the lists has is owned by one of these kinds. -/
theorem Reachable.find_before_lists (h : s.Reachable)
    (held : ∃ kind ∈ Kind.beforeLists, s.Has kind id) :
    ∃ kind ∈ Kind.beforeLists, s.find id = some kind := by
  obtain ⟨later, find⟩ := h.find_eq
  have found : (Kind.beforeLists.find? fun kind => s.Has kind id).isSome = true := by
    simpa [List.find?_isSome] using held
  obtain ⟨kind, first⟩ := Option.isSome_iff_exists.mp found
  refine ⟨kind, List.mem_of_find?_eq_some first, ?_⟩
  rw [find, List.find?_append, first, Option.some_or]

/-- Otherwise the id of a list is owned by the kind of the list that it names. -/
theorem Reachable.find_of_names (h : s.Reachable) (names : s.Names id use)
    (apart : ¬ s.Eclipsed id) : s.find id = some use.2.kind := by
  obtain ⟨later, find⟩ := h.find_eq
  have free : ∀ kind ∈ Kind.beforeLists, ¬ s.Has kind id := fun kind before held =>
    apart ⟨⟨use, names⟩, kind, before, held⟩
  have none : (Kind.beforeLists.find? fun kind => s.Has kind id) = none := by
    simpa [List.find?_eq_none] using free
  rw [find, List.find?_append, none, Option.none_or]
  obtain ⟨list, items | creatures⟩ := use
  · exact List.find?_cons_of_pos (decide_eq_true ⟨list, names⟩)
  · have unlisted : ¬ s.Has .itemList id := fun ⟨other, live, same⟩ => names.1 other live same
    rw [List.find?_cons_of_neg (by simpa using unlisted)]
    exact List.find?_cons_of_pos (decide_eq_true ⟨list, names.2⟩)

theorem Reachable.has_of_find (h : s.Reachable) {kind : Kind} (found : s.find id = some kind) :
    s.Has kind id := by
  obtain ⟨later, find⟩ := h.find_eq
  rw [find] at found
  exact of_decide_eq_true (List.find?_some (p := fun kind => decide (s.Has kind id)) found)

/-- **Where a draw goes on.** It goes on in the list that the picked id names, and gives the id when
it names none. Unless the id is eclipsed, it names a list just when it is found as a list, and then
one of the kind that it is found as. An eclipsed id names a list, but is found as a record of a kind
that is declared before the lists. -/
theorem picks_follow_owners (reachable : s.Reachable) {σ : Type} (dice : Dice σ)
    (list : LevelledList) (role : ListRole) (level : Int) (state : σ) :
    let walk := s.walk dice level maxListDepth (list, role) state
    (s.draw dice list role level state = (walk.drawn, walk.state) ∧ walk.From (list, role)) ∧
      ∀ visit ∈ walk.visits, ∀ entry, visit.picked = some entry →
        (∀ next, visit.next = some next ↔ s.Names entry.id next) ∧
        (visit.next = none → walk.drawn.pick = some entry.id) ∧
        (¬ s.Eclipsed entry.id →
          (visit.next.isSome = true ↔
            s.find entry.id = some .itemList ∨ s.find entry.id = some .creatureList) ∧
          ∀ next, visit.next = some next → s.find entry.id = some next.2.kind) ∧
        (s.Eclipsed entry.id →
          visit.next.isSome = true ∧ ∃ kind ∈ Kind.beforeLists, s.find entry.id = some kind) := by
  intro walk
  refine ⟨s.draw_eq_walk dice list role level state, fun visit mem entry picked => ?_⟩
  have leads (next : ListUse) : visit.next = some next ↔ s.Names entry.id next := by
    rw [((s.allows_walk dice level _ _ state visit mem).picked entry picked).2]
    exact reachable.sound.nested?_eq_some
  have goesOn : visit.next.isSome = true ↔ ∃ next, s.Names entry.id next := by
    simp only [Option.isSome_iff_exists, leads]
  refine ⟨leads, fun last => ?_, fun apart => ⟨?_, fun next named => ?_⟩, fun eclipsed => ?_⟩
  · rw [s.pick_walk mem last]
    simp [Visit.result, last, picked]
  · rw [goesOn]
    constructor
    · rintro ⟨⟨nested, items | creatures⟩, names⟩
      · exact Or.inl (reachable.find_of_names names apart)
      · exact Or.inr (reachable.find_of_names names apart)
    · exact fun found => exists_names.mpr (found.imp reachable.has_of_find reachable.has_of_find)
  · exact reachable.find_of_names ((leads next).mp named) apart
  · exact ⟨goesOn.mpr eclipsed.1, reachable.find_before_lists eclipsed.2⟩

end Store

theorem Store.picks_follow_owners_chest :
    pouchStore.Reachable ∧ pouchStore.find "Pouch" = some .itemList ∧
      (pouchStore.walk .told 1 maxListDepth (chest, .items) [0, 0, 99, 0]).drawn.pick =
        some "coin" := by
  let walk := pouchStore.walk .told 1 maxListDepth (chest, .items) [0, 0, 99, 0]
  have picks := (Store.picks_follow_owners reachable_pouchStore .told chest .items 1
    [0, 0, 99, 0]).2
  let first := (pouchStore.visit .told 1 (chest, .items) [0, 0, 99, 0]).1
  have opened : first ∈ walk.visits := by decide +kernel
  have nested : first.next = some (⟨"pouch", 0, 99, [⟨"coin", 1⟩]⟩, .items) := by decide +kernel
  have apart : ¬ pouchStore.Eclipsed "Pouch" := by
    rintro ⟨-, held⟩
    exact absurd held (by decide +kernel)
  obtain ⟨-, -, follows, -⟩ := picks first opened ⟨"Pouch", 1⟩ (by decide +kernel)
  let last := (pouchStore.visit .told 1 (⟨"pouch", 0, 99, [⟨"coin", 1⟩]⟩, .items) [99, 0]).1
  have drawn : last ∈ walk.visits := by decide +kernel
  obtain ⟨-, result, -⟩ := picks last drawn ⟨"coin", 1⟩ (by decide +kernel)
  exact ⟨reachable_pouchStore, (follows apart).2 _ nested, result (by decide +kernel)⟩

/-- A store with a coin, and with a list of the coin that has the id of an activator. -/
def lidStore : Store :=
  let coins := (Store.new.modify .miscellaneous fun table =>
    table.replay [⟨{ (default : Miscellaneous) with id := "coin" }, false, none⟩]).1
  let lids := (coins.modify .activator fun table =>
    table.replay [⟨{ (default : Activator) with id := "chest" }, false, none⟩]).1
  (lids.modify .itemList fun table =>
    table.replay [⟨⟨"chest", 0, 0, [⟨"coin", 1⟩]⟩, false, none⟩]).1

theorem reachable_lidStore : lidStore.Reachable :=
  ((Store.Reachable.new.modify .miscellaneous _ fun _ _ => trivial).modify .activator _
    fun _ _ => trivial).modify .itemList _ fun _ _ => trivial

/-- A list of what has the id. -/
def loot : LevelledList := ⟨"loot", 0, 0, [⟨"chest", 1⟩]⟩

/-- Look-ups are announced to find the activator, and do; a draw that picks its id opens the
list. -/
theorem Store.eclipsed_list_opened :
    lidStore.Reachable ∧
      Notice.ambiguous "chest" .activator .itemList ∈ lidStore.setUpNotices ∧
      lidStore.setUp.find "chest" = some .activator ∧
      ∃ visit ∈ (lidStore.setUp.walk .told 1 maxListDepth (loot, .items) []).visits,
        visit.picked = some ⟨"chest", 1⟩ ∧ visit.next.isSome = true ∧
          (lidStore.setUp.draw .told loot .items 1 []).1.pick = some "coin" := by
  have warned : lidStore.setUpNotices.head? = some (.ambiguous "chest" .activator .itemList) := by
    rfl
  refine ⟨reachable_lidStore, List.mem_of_head? warned, by decide +kernel,
    (lidStore.setUp.visit .told 1 (loot, .items) []).1, ?_, ?_, ?_, ?_⟩ <;> decide +kernel

end ContentLayers
