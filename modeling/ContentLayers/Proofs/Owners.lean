import ContentLayers.Proofs.Reachable

/-!
# Owners of ids

An id belongs to the first referenceable kind, in the order of declaration, that has a live record
with it. The index of owners says the same as a scan of the tables.
-/

namespace ContentLayers

theorem Table.Valid.contains_eq {α : Type} [Record α] {t : Table α} (h : t.Valid) (id : String) :
    t.contains id = t.ids.any (fold · == fold id) := by
  rw [Bool.eq_iff_iff]
  simp [contains, Option.isSome_iff_exists, h.search_eq_some, ids]

/-- The kind is referenceable and has a live record under a folded id. -/
def Shelf.offers (s : Shelf) (key : String) : Bool :=
  s.kind.referenceable && s.ids.any (fold · == key)

theorem Shelf.offers_iff {s : Shelf} {key : String} : s.offers key = true ↔
    s.kind.referenceable = true ∧ ∃ record ∈ s.table.records, fold (Record.id record) = key := by
  simp [offers, ids, Table.ids]

namespace Indices

/-- A claim counts when no other before it is for the same id. -/
theorem getElem?_foldl_claims (claims : List (String × Kind)) (owners : Std.ExtTreeMap String Kind)
    (key : String) :
    (claims.foldl (fun owners (id, kind) => owners.insertIfNew (fold id) kind) owners)[key]? =
      owners[key]?.or ((claims.find? fun claim => fold claim.1 == key).map (·.2)) := by
  induction claims generalizing owners with
  | nil => simp
  | cons claim claims ih =>
    rw [List.foldl_cons, ih, Std.ExtTreeMap.getElem?_insertIfNew]
    by_cases same : fold claim.1 = key
    · subst same
      cases owned : owners[fold claim.1]? with
      | none => simp [Std.ExtTreeMap.mem_iff_isSome_getElem?, owned]
      | some kind => simp [Std.ExtTreeMap.mem_iff_isSome_getElem?, owned]
    · simp [same, List.find?_cons_of_neg]

theorem find?_claims (shelves : List Shelf) (key : String) :
    ((claims shelves).find? fun claim => fold claim.1 == key).map (·.2) =
      (shelves.find? (·.offers key)).map (·.kind) := by
  induction shelves with
  | nil => rfl
  | cons shelf shelves ih =>
    rw [claims, List.filter_cons]
    by_cases placed : shelf.kind.referenceable = true
    · rw [if_pos placed, List.flatMap_cons, List.find?_append, List.find?_map]
      cases first : shelf.ids.find? (fold · == key) with
      | none =>
        have silent : shelf.offers key = false := by
          simpa [Shelf.offers, placed] using first
        rw [List.find?_cons_of_neg (by simp [silent]), ← ih]
        simp [Function.comp_def, first, claims]
      | some id =>
        have offers : shelf.offers key = true := by
          simp only [Shelf.offers, placed, Bool.true_and, List.any_eq_true]
          exact ⟨id, List.mem_of_find?_eq_some first,
            List.find?_some (p := (fold · == key)) first⟩
        simp [first, offers]
    · have silent : shelf.offers key = false := by simp [Shelf.offers, placed]
      rw [if_neg placed, List.find?_cons_of_neg (by simp [silent])]
      exact ih

/-- The owner of a folded id is the first kind that offers it. -/
theorem getElem?_ownersOf (shelves : List Shelf) (key : String) :
    (ownersOf shelves)[key]? = (shelves.find? (·.offers key)).map (·.kind) := by
  rw [ownersOf, getElem?_foldl_claims, find?_claims]
  simp

end Indices

namespace Store

/-- The kind is the first that is referenceable and has a live record under the folded id. -/
def HoldsFirst (s : Store) (key : String) (kind : Kind) : Prop :=
  ∃ earlier table later, s.shelves = earlier ++ ⟨kind, table⟩ :: later ∧
    (kind.referenceable = true ∧ ∃ record ∈ table.records, fold (Record.id record) = key) ∧
    ∀ shelf ∈ earlier, shelf.kind.referenceable = true →
      ∀ record ∈ shelf.table.records, fold (Record.id record) ≠ key

/-- The kind is the first that is referenceable and has a live record with the id. -/
def Owns (s : Store) (id : String) (kind : Kind) : Prop := s.HoldsFirst (fold id) kind

variable {s : Store} {id : String} {kind : Kind}

theorem Sound.scan_eq (h : s.Sound) (id : String) :
    s.scan id = (s.shelves.find? (·.offers (fold id))).map (·.kind) := by
  have same : ∀ shelf ∈ s.shelves,
      (shelf.kind.referenceable && shelf.contains id) = shelf.offers (fold id) := by
    intro shelf mem
    rw [Shelf.offers, Shelf.contains, (h.tables shelf mem).valid.contains_eq]
    rfl
  rw [scan, List.find?_congr same]

theorem find?_offers_eq_some {key : String} :
    (s.shelves.find? (·.offers key)).map (·.kind) = some kind ↔ s.HoldsFirst key kind := by
  rw [Option.map_eq_some_iff]
  simp only [List.find?_eq_some_iff_append, Bool.not_eq_true', ← Bool.not_eq_true,
    Shelf.offers_iff, not_and, not_exists]
  constructor
  · rintro ⟨⟨_, table⟩, ⟨held, earlier, later, split, before⟩, rfl⟩
    exact ⟨earlier, table, later, split, held, before⟩
  · rintro ⟨earlier, table, later, split, held, before⟩
    exact ⟨⟨kind, table⟩, ⟨held, earlier, later, split, before⟩, rfl⟩

theorem Sound.scan_eq_some (h : s.Sound) : s.scan id = some kind ↔ s.Owns id kind := by
  rw [h.scan_eq]
  exact find?_offers_eq_some

/-- A scan and the index of owners agree. -/
theorem Sound.getElem?_owners (h : s.Sound) (id : String) :
    s.derive.owners[fold id]? = s.scan id := by
  rw [h.scan_eq]
  exact Indices.getElem?_ownersOf s.shelves (fold id)

end Store

end ContentLayers
