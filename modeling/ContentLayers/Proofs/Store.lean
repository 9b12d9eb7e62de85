import ContentLayers.Proofs.TableHistory
import ContentLayers.Store.Basic

/-!
# Shelves

Putting a shelf in its place changes the table of its kind and no other.
-/

namespace ContentLayers

namespace Shelf

@[simp] theorem table?_self (kind : Kind) (table : Table kind.Carrier) :
    (Shelf.mk kind table).table? kind = some table := by
  simp [table?]

theorem table?_of_ne {shelf : Shelf} {kind : Kind} (other : shelf.kind ≠ kind) :
    shelf.table? kind = none := by
  simp [table?, other]

theorem table?_eq_some {shelf : Shelf} {kind : Kind} {table : Table kind.Carrier} :
    shelf.table? kind = some table ↔ shelf = ⟨kind, table⟩ := by
  constructor
  · intro h
    obtain ⟨held, slots⟩ := shelf
    by_cases same : held = kind
    · subst same
      simpa using h
    · have absent : (Shelf.mk held slots).table? kind = none := table?_of_ne same
      simp [absent] at h
  · rintro rfl
    simp

end Shelf

namespace Store

/-- The tags of the declared kinds in the order of declaration. -/
def tags (s : Store) : List Tag := s.shelves.map (·.kind.tag)

variable {s : Store} {kind : Kind} {shelf new : Shelf} {tag : Tag}

theorem shelf?_eq_none : s.shelf? tag = none ↔ tag ∉ s.tags := by
  simp [shelf?, tags, List.find?_eq_none]

theorem isSome_shelf? : (s.shelf? tag).isSome = true ↔ tag ∈ s.tags := by
  rw [← not_iff_not, Bool.not_eq_true, Option.isSome_eq_false_iff, Option.isNone_iff_eq_none,
    shelf?_eq_none]

theorem shelf?_eq_some (h : s.shelf? tag = some shelf) :
    shelf ∈ s.shelves ∧ shelf.kind.tag = tag :=
  ⟨List.mem_of_find?_eq_some h, by simpa using List.find?_some h⟩

/-- A shelf takes the place of the shelf with its tag, if there is one. -/
theorem shelf?_setShelf :
    (s.setShelf new).shelf? tag =
      (s.shelf? tag).map fun old => if new.kind.tag = tag then new else old := by
  have tags : ((·.kind.tag == tag) ∘ fun old : Shelf =>
      if old.kind.tag == new.kind.tag then new else old) = (·.kind.tag == tag) := by
    funext old
    by_cases same : old.kind.tag = new.kind.tag <;> simp [same]
  simp only [shelf?, setShelf, List.find?_map, tags]
  refine Option.map_congr fun old found => ?_
  have named : old.kind.tag = tag := by simpa using List.find?_some found
  simp only [named, beq_iff_eq, eq_comm (a := tag)]

theorem tags_setShelf (s : Store) (new : Shelf) : (s.setShelf new).tags = s.tags := by
  simp only [tags, setShelf, List.map_map]
  refine List.map_congr_left fun old _ => ?_
  by_cases same : old.kind.tag = new.kind.tag <;> simp [same]

/-- While tags are distinct, a shelf is put back in its own place. -/
theorem setShelf_self (distinct : s.tags.Nodup) (found : s.shelf? tag = some shelf) :
    s.setShelf shelf = s := by
  obtain ⟨held, _⟩ := shelf?_eq_some found
  have kept : ∀ old ∈ s.shelves, (if old.kind.tag == shelf.kind.tag then shelf else old) = old := by
    intro old mem
    split
    · rename_i same
      exact List.inj_on_of_nodup_map distinct held mem (eq_of_beq same).symm
    · rfl
  rw [setShelf, List.map_congr_left kept, List.map_id']

theorem table?_eq_some {table : Table kind.Carrier} :
    s.table? kind = some table ↔ s.shelf? kind.tag = some ⟨kind, table⟩ := by
  simp [table?, Option.bind_eq_some_iff, Shelf.table?_eq_some]

theorem isSome_table?_of_shelf? {table : Table kind.Carrier}
    (found : s.shelf? tag = some ⟨kind, table⟩) : (s.table? kind).isSome = true := by
  have named : kind.tag = tag := (shelf?_eq_some found).2
  rw [← named] at found
  rw [table?_eq_some.mpr found, Option.isSome_some]

theorem table?_setShelf {table : Table kind.Carrier} (declared : (s.table? kind).isSome = true) :
    (s.setShelf ⟨kind, table⟩).table? kind = some table := by
  obtain ⟨old, found⟩ := Option.isSome_iff_exists.mp declared
  rw [table?_eq_some, shelf?_setShelf, table?_eq_some.mp found]
  simp

theorem table?_setShelf_of_ne {table : Table kind.Carrier} {other : Kind}
    (declared : (s.table? kind).isSome = true) (ne : kind ≠ other) :
    (s.setShelf ⟨kind, table⟩).table? other = s.table? other := by
  obtain ⟨old, found⟩ := Option.isSome_iff_exists.mp declared
  rw [table?_eq_some] at found
  simp only [table?, shelf?_setShelf]
  by_cases same : kind.tag = other.tag
  · rw [same] at found
    have away (table : Table kind.Carrier) : (Shelf.mk kind table).table? other = none :=
      Shelf.table?_of_ne ne
    simp [same, found, away]
  · simp [same]

theorem table_setShelf {table : Table kind.Carrier} (declared : (s.table? kind).isSome = true) :
    (s.setShelf ⟨kind, table⟩).table kind = table := by
  rw [Store.table, table?_setShelf declared, Option.getD_some]

theorem table_setShelf_of_ne {table : Table kind.Carrier} {other : Kind}
    (declared : (s.table? kind).isSome = true) (ne : kind ≠ other) :
    (s.setShelf ⟨kind, table⟩).table other = s.table other := by
  rw [Store.table, table?_setShelf_of_ne declared ne, Store.table]

theorem isSome_table?_setShelf {table : Table kind.Carrier} {other : Kind}
    (declared : (s.table? kind).isSome = true) :
    ((s.setShelf ⟨kind, table⟩).table? other).isSome = (s.table? other).isSome := by
  by_cases same : kind = other
  · subst same
    simp [table?_setShelf declared, declared]
  · rw [table?_setShelf_of_ne declared same]

theorem mem_setShelf (h : shelf ∈ (s.setShelf new).shelves) : shelf = new ∨ shelf ∈ s.shelves := by
  obtain ⟨old, mem, placed⟩ := List.mem_map.mp h
  split at placed
  · exact Or.inl placed.symm
  · exact Or.inr (placed ▸ mem)

end Store

end ContentLayers
