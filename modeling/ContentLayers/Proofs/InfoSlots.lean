import ContentLayers.Proofs.Topic

/-!
# Info slots

A log of infos changes each slot of a topic on its own: it leaves the slot as it is, marks it
deleted or writes it anew. The same log a second time changes nothing.
-/

namespace ContentLayers

def InfoSlot.marked (slot : InfoSlot) : InfoSlot := { slot with live := false }

namespace InfoWrite

/-- What becomes of the slot of an info. A deletion keeps what was written there. -/
def cell (w : InfoWrite) (old : Option InfoSlot) : Option InfoSlot :=
  if w.deleted then old.map InfoSlot.marked else some ⟨w.info, true⟩

/-- What a log leaves of the slot with an id. -/
def cellAfter (log : List InfoWrite) (q : String) (old : Option InfoSlot) : Option InfoSlot :=
  log.foldl (fun slot w => if fold w.id = fold q then w.cell slot else slot) old

/-- The slots after an info is merged. -/
def merged (slots : Roster InfoSlot) (w : InfoWrite) : Roster InfoSlot :=
  match w.cell (slots.find? w.id) with
  | some slot => slots.put w.id slot
  | none => slots

def mergeAll (slots : Roster InfoSlot) (log : List InfoWrite) : Roster InfoSlot :=
  log.foldl merged slots

variable {log : List InfoWrite} {w : InfoWrite} {q : String}

theorem cellAfter_concat (old : Option InfoSlot) :
    cellAfter (log ++ [w]) q old =
      if fold w.id = fold q then w.cell (cellAfter log q old) else cellAfter log q old := by
  simp [cellAfter]

/-- A log does one of three things to a slot. -/
theorem cellAfter_cases (log : List InfoWrite) (q : String) :
    (∀ old, cellAfter log q old = old) ∨ (∀ old, cellAfter log q old = old.map InfoSlot.marked) ∨
      ∃ slot, ∀ old, cellAfter log q old = some slot := by
  have twice (old : Option InfoSlot) :
      (old.map InfoSlot.marked).map InfoSlot.marked = old.map InfoSlot.marked := by
    cases old <;> rfl
  induction log using List.reverseRecOn with
  | nil => exact Or.inl fun _ => rfl
  | append_singleton log w ih =>
    simp only [cellAfter_concat]
    by_cases same : fold w.id = fold q
    · cases deleted : w.deleted with
      | false => exact Or.inr (Or.inr ⟨⟨w.info, true⟩, fun old => by simp [same, cell, deleted]⟩)
      | true =>
        simp only [same, cell, deleted, if_true]
        obtain kept | marked | ⟨slot, written⟩ := ih
        · exact Or.inr (Or.inl fun old => by rw [kept])
        · exact Or.inr (Or.inl fun old => by rw [marked, twice])
        · exact Or.inr (Or.inr ⟨slot.marked, fun old => by rw [written]; rfl⟩)
    · simpa only [same, if_false] using ih

theorem cellAfter_cellAfter (log : List InfoWrite) (q : String) (old : Option InfoSlot) :
    cellAfter log q (cellAfter log q old) = cellAfter log q old := by
  obtain kept | marked | ⟨slot, written⟩ := cellAfter_cases log q
  · rw [kept, kept]
  · rw [marked, marked]
    cases old <;> rfl
  · rw [written, written]

end InfoWrite

namespace Topic

open InfoWrite

theorem slots_merge (t : Topic) (w : InfoWrite) :
    (t.merge w.info w.deleted).1.slots = merged t.slots w := by
  have id : w.id = w.info.id := rfl
  simp only [merge, merged, cell, id]
  cases t.slots.find? w.info.id <;> cases w.deleted <;> rfl

end Topic

namespace InfoWrite

variable {slots : Roster InfoSlot} {log : List InfoWrite} {w : InfoWrite} {q : String}

theorem valid_merged (h : slots.Valid Topic.infoId) (w : InfoWrite) :
    (merged slots w).Valid Topic.infoId := by
  rw [← Topic.slots_merge ⟨"", .topic, slots⟩ w]
  exact Topic.Valid.merge h w.info w.deleted

theorem valid_mergeAll (h : slots.Valid Topic.infoId) (log : List InfoWrite) :
    (mergeAll slots log).Valid Topic.infoId := by
  induction log generalizing slots with
  | nil => exact h
  | cons w log ih => exact ih (valid_merged h w)

theorem keys_merged (h : slots.Valid Topic.infoId) :
    (merged slots w).keys Topic.infoId =
      if w.deleted = true ∨ fold w.id ∈ slots.keys Topic.infoId then slots.keys Topic.infoId
      else slots.keys Topic.infoId ++ [fold w.id] := by
  rw [← Topic.slots_merge ⟨"", .topic, slots⟩ w]
  cases deleted : w.deleted with
  | false =>
    rw [Topic.keys_merge_written h]
    simp [id]
  | true =>
    rw [Topic.keys_merge_deleted h]
    simp

theorem merged_eq_self (gone : w.cell (slots.find? w.id) = none) : merged slots w = slots := by
  rw [merged, gone]

theorem merged_eq_put {slot : InfoSlot} (left : w.cell (slots.find? w.id) = some slot) :
    merged slots w = slots.put w.id slot := by
  rw [merged, left]

/-- The slot that an info leaves is under its id. -/
theorem infoId_cell (h : slots.Valid Topic.infoId) {slot : InfoSlot}
    (left : w.cell (slots.find? w.id) = some slot) : fold (Topic.infoId slot) = fold w.id := by
  rw [cell] at left
  split at left
  · obtain ⟨old, found, rfl⟩ := Option.map_eq_some_iff.mp left
    exact (h.find?_eq_some.mp found).2
  · rw [← Option.some.inj left]
    rfl

theorem find?_merged (h : slots.Valid Topic.infoId) (q : String) :
    (merged slots w).find? q =
      if fold w.id = fold q then w.cell (slots.find? q) else slots.find? q := by
  have here (same : fold w.id = fold q) : slots.find? w.id = slots.find? q := by
    rw [← Roster.find?_fold, same, Roster.find?_fold]
  cases left : w.cell (slots.find? w.id) with
  | none =>
    rw [merged_eq_self left]
    split
    · rename_i same
      have gone : slots.find? w.id = none := by
        rw [cell] at left
        split at left
        · exact Option.map_eq_none_iff.mp left
        · cases left
      rw [← here same, left, gone]
    · rfl
  | some slot =>
    rw [merged_eq_put left, h.find?_put (infoId_cell h left)]
    by_cases same : fold w.id = fold q
    · simp [same, ← here same, left]
    · simp [same, Ne.symm same]

theorem mergeAll_append (slots : Roster InfoSlot) (log more : List InfoWrite) :
    mergeAll slots (log ++ more) = mergeAll (mergeAll slots log) more :=
  List.foldl_append

theorem keys_mergeAll (h : slots.Valid Topic.infoId) (log : List InfoWrite) :
    (mergeAll slots log).keys Topic.infoId =
      (slots.keys Topic.infoId ++
        (log.filter (!·.deleted)).map fun w => fold w.id).eraseDups := by
  induction log using List.reverseRecOn with
  | nil => simpa [mergeAll] using (eraseDups_of_nodup h.nodup_keys).symm
  | append_singleton log w ih =>
    rw [mergeAll_append, mergeAll, List.foldl_cons, List.foldl_nil,
      keys_merged (valid_mergeAll h log), ih]
    cases deleted : w.deleted with
    | true => simp [deleted]
    | false =>
      have more : (slots.keys Topic.infoId ++
            ((log ++ [w]).filter (!·.deleted)).map fun w => fold w.id) =
          (slots.keys Topic.infoId ++ (log.filter (!·.deleted)).map fun w => fold w.id) ++
            [fold w.id] := by simp [deleted]
      rw [more, eraseDups_concat]
      simp only [Bool.false_eq_true, false_or, List.mem_eraseDups]

theorem find?_mergeAll (h : slots.Valid Topic.infoId) (log : List InfoWrite) (q : String) :
    (mergeAll slots log).find? q = cellAfter log q (slots.find? q) := by
  induction log generalizing slots with
  | nil => rfl
  | cons w log ih => exact (ih (valid_merged h w)).trans (by rw [find?_merged h]; rfl)

/-- A log that is merged again changes nothing. -/
theorem mergeAll_mergeAll (h : slots.Valid Topic.infoId) (log : List InfoWrite) :
    mergeAll (mergeAll slots log) log = mergeAll slots log := by
  have once := valid_mergeAll h log
  refine (valid_mergeAll once log).eq_of_find? once ?_ fun q => ?_
  · rw [keys_mergeAll once, keys_mergeAll h, eraseDups_eraseDups_append]
    exact eraseDups_append_of_subset fun key => List.mem_append_right _
  · rw [find?_mergeAll once, find?_mergeAll h, cellAfter_cellAfter]

end InfoWrite

end ContentLayers
