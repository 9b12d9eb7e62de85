import ContentLayers.Proofs.History
import ContentLayers.Roster

/-!
# Rosters as lists

A valid roster is its list of entries, whose folded ids are distinct. Setting an entry replaces the
one with its id where it stands, or appends.
-/

namespace ContentLayers.Roster

variable {α : Type} {idOf : α → String} {r : Roster α} {id q : String} {a old : α}

@[simp] theorem toList_empty : (empty : Roster α).toList = [] := rfl

@[simp] theorem find?_empty : (empty : Roster α).find? q = none := by
  simp [empty, find?]

@[simp] theorem find?_fold : r.find? (fold q) = r.find? q := by
  simp [find?]

/-- The folded ids of the entries, in order. -/
def keys (idOf : α → String) (r : Roster α) : List String := r.toList.map fun a => fold (idOf a)

theorem Valid.find?_eq_some (h : r.Valid idOf) :
    r.find? q = some a ↔ a ∈ r.toList ∧ fold (idOf a) = fold q := by
  simp only [find?, Option.bind_eq_some_iff]
  constructor
  · rintro ⟨position, known, held⟩
    obtain ⟨b, hb, hid⟩ := (h _ _).mp known
    have same : b = a := Option.some.inj (hb.symm.trans held)
    exact ⟨Array.mem_toList_iff.mpr (Array.mem_of_getElem? held), same ▸ hid⟩
  · rintro ⟨mem, hid⟩
    obtain ⟨position, held⟩ := Array.getElem?_of_mem (Array.mem_toList_iff.mp mem)
    exact ⟨position, (h _ _).mpr ⟨a, held, hid⟩, held⟩

theorem Valid.isSome_find? (h : r.Valid idOf) :
    (r.find? q).isSome = true ↔ fold q ∈ r.keys idOf := by
  simp only [Option.isSome_iff_exists, h.find?_eq_some, keys, List.mem_map]

theorem Valid.find?_eq_none (h : r.Valid idOf) : r.find? q = none ↔ fold q ∉ r.keys idOf := by
  rw [← h.isSome_find?, Bool.not_eq_true, Option.isSome_eq_false_iff, Option.isNone_iff_eq_none]

/-- Two places with one folded id are the same, since the index has one place for it. -/
theorem Valid.nodup_keys (h : r.Valid idOf) : (r.keys idOf).Nodup := by
  rw [List.nodup_iff_getElem?_ne_getElem?]
  intro i j before bound same
  rw [List.getElem?_eq_getElem bound] at same
  simp only [keys, List.getElem?_map, List.getElem_map, Option.map_eq_some_iff] at same
  simp only [keys, List.length_map] at bound
  obtain ⟨b, hb, hid⟩ := same
  have first := (h _ i).mpr ⟨b, by simpa [toList] using hb, hid⟩
  have held : r.entries[j]? = some r.toList[j] := by
    rw [← Array.getElem?_toList]
    exact List.getElem?_eq_getElem bound
  have second := (h _ j).mpr ⟨r.toList[j], held, rfl⟩
  rw [first, Option.some.injEq] at second
  omega

theorem toList_put_of_find?_eq_none (h : r.Valid idOf) (fresh : r.find? id = none) :
    (r.put id a).toList = r.toList ++ [a] := by
  have unknown : r.index[fold id]? = none := by
    cases known : r.index[fold id]? with
    | none => rfl
    | some position =>
      obtain ⟨b, hb, _⟩ := (h _ _).mp known
      simp [find?, known, hb] at fresh
  simp [put, unknown, toList]

theorem toList_put_of_find?_eq_some (known : r.find? id = some old) :
    ∃ before after, r.toList = before ++ old :: after ∧
      (r.put id a).toList = before ++ a :: after := by
  obtain ⟨position, known, held⟩ := Option.bind_eq_some_iff.mp known
  obtain ⟨bound, held⟩ := Array.getElem?_eq_some_iff.mp held
  obtain ⟨before, after, whole, _, changed⟩ :=
    @List.exists_of_set α position a r.toList bound
  refine ⟨before, after, ?_, ?_⟩
  · simpa [toList, held] using whole
  · simpa [put, known, toList] using changed

theorem Valid.keys_put (h : r.Valid idOf) (ha : fold (idOf a) = fold id) :
    (r.put id a).keys idOf =
      if fold id ∈ r.keys idOf then r.keys idOf else r.keys idOf ++ [fold id] := by
  cases found : r.find? id with
  | none =>
    rw [if_neg (h.find?_eq_none.mp found)]
    simp [keys, toList_put_of_find?_eq_none h found, ha]
  | some old =>
    obtain ⟨before, after, whole, changed⟩ := toList_put_of_find?_eq_some (a := a) found
    have hid := (h.find?_eq_some.mp found).2
    rw [if_pos (h.isSome_find?.mp (by simp [found]))]
    simp [keys, whole, changed, ha, hid]

theorem Valid.find?_put (h : r.Valid idOf) (ha : fold (idOf a) = fold id) :
    (r.put id a).find? q = if fold q = fold id then some a else r.find? q := by
  have valid := h.put ha
  split
  · rename_i same
    rw [valid.find?_eq_some]
    refine ⟨?_, by rw [ha, same]⟩
    cases found : r.find? id with
    | none => simp [toList_put_of_find?_eq_none h found]
    | some old =>
      obtain ⟨before, after, _, changed⟩ := toList_put_of_find?_eq_some (a := a) found
      simp [changed]
  · rename_i other
    apply Option.ext
    intro b
    rw [valid.find?_eq_some, h.find?_eq_some]
    refine and_congr_left fun hb => ?_
    have distinct (c : α) (hc : fold (idOf c) = fold id) : b ≠ c := by
      rintro rfl
      exact other (hb.symm.trans hc)
    cases found : r.find? id with
    | none => simp [toList_put_of_find?_eq_none h found, distinct a ha]
    | some old =>
      obtain ⟨before, after, whole, changed⟩ := toList_put_of_find?_eq_some (a := a) found
      simp [whole, changed, distinct a ha, distinct old (h.find?_eq_some.mp found).2]

/-- A look-up sees no change where the new entry looks like the old one. -/
theorem Valid.map_find?_put {β : Type} {f : α → β} (h : r.Valid idOf) (ha : fold (idOf a) = fold id)
    (found : r.find? id = some old) (same : f a = f old) :
    ((r.put id a).find? q).map f = (r.find? q).map f := by
  rw [h.find?_put ha]
  split
  · rename_i here
    rw [← find?_fold (q := q), here, find?_fold, found]
    simp [same]
  · rfl

theorem Valid.mem_put (h : r.Valid idOf) {b : α} (mem : b ∈ (r.put id a).toList) :
    b = a ∨ b ∈ r.toList := by
  cases found : r.find? id with
  | none => simpa [toList_put_of_find?_eq_none h found, or_comm] using mem
  | some old =>
    obtain ⟨before, after, whole, changed⟩ := toList_put_of_find?_eq_some (a := a) found
    rw [changed, List.mem_append, List.mem_cons] at mem
    rw [whole, List.mem_append, List.mem_cons]
    tauto

/-- Every entry is found again under its key. -/
theorem Valid.toList_eq (h : r.Valid idOf) : r.toList = (r.keys idOf).filterMap r.find? := by
  rw [keys, List.filterMap_map]
  have found : ∀ a ∈ r.toList, (r.find? ∘ fun a => fold (idOf a)) a = some a := by
    intro a mem
    simpa using h.find?_eq_some.mpr ⟨mem, rfl⟩
  rw [List.filterMap_congr found, List.filterMap_some]

/-- The entries decide the index. -/
theorem Valid.ext {s : Roster α} (h : r.Valid idOf) (h' : s.Valid idOf)
    (same : r.toList = s.toList) : r = s := by
  obtain ⟨entries, index⟩ := r
  obtain ⟨entries', index'⟩ := s
  obtain rfl : entries = entries' := Array.toList_inj.mp same
  obtain rfl : index = index' := by
    apply Std.ExtTreeMap.ext_getElem?
    intro key
    apply Option.ext
    intro position
    rw [h key position, h' key position]
  rfl

/-- Two rosters with the same ids in the same order, under which the same is found, are the same. -/
theorem Valid.eq_of_find? {s : Roster α} (h : r.Valid idOf) (h' : s.Valid idOf)
    (keys : r.keys idOf = s.keys idOf) (found : ∀ q, r.find? q = s.find? q) : r = s := by
  refine h.ext h' ?_
  rw [h.toList_eq, h'.toList_eq, keys]
  exact List.filterMap_congr fun key _ => found key

variable {β : Type} {p : α → Bool}

/-- A selection of the entries is what the look-ups of the keys select. -/
theorem Valid.map_filter_toList (h : r.Valid idOf) (p : α → Bool) (f : α → β) :
    (r.toList.filter p).map f =
      (r.keys idOf).filterMap fun key => ((r.find? key).filter p).map f := by
  have whole := h.toList_eq
  rw [whole, List.filter_filterMap, List.map_filterMap]

/-- A look-up finds the one selected entry with the id. -/
theorem Valid.map_filter_find? {f : α → β} {g : β → String} (h : r.Valid fun a => g (f a)) {b : β} :
    ((r.find? q).filter p).map f = some b ↔
      b ∈ (r.toList.filter p).map f ∧ fold (g b) = fold q := by
  simp only [Option.map_eq_some_iff, Option.filter_eq_some_iff, h.find?_eq_some, List.mem_map,
    List.mem_filter]
  constructor
  · rintro ⟨a, ⟨⟨mem, same⟩, selected⟩, rfl⟩
    exact ⟨⟨a, ⟨mem, selected⟩, rfl⟩, same⟩
  · rintro ⟨⟨a, ⟨mem, selected⟩, rfl⟩, same⟩
    exact ⟨a, ⟨⟨mem, same⟩, selected⟩, rfl⟩

theorem Valid.nodup_map_filter (h : r.Valid idOf) (p : α → Bool) :
    ((r.toList.filter p).map fun a => fold (idOf a)).Nodup := by
  have part : (r.toList.filter p).Sublist r.toList := List.filter_sublist
  exact h.nodup_keys.sublist (part.map _)

end ContentLayers.Roster
