import ContentLayers.Proofs.Roster
import ContentLayers.Record.Topic

/-!
# Topics and their infos

A topic holds the last writing of each info, in the order of the first writings. The deletion of an
info that was never written leaves no trace.
-/

namespace ContentLayers

open History

/-- An info of a content file, and whether its record deletes it. -/
structure InfoWrite where
  info : Info
  deleted : Bool

namespace InfoWrite

def id (w : InfoWrite) : String := w.info.id

/-- The infos whose last record is no deletion, in the order of their first writing. -/
def standing (log : List InfoWrite) : List Info :=
  (mentioned InfoWrite.id (log.filter (!·.deleted))).filterMap fun key =>
    ((last? InfoWrite.id log key).filter (!·.deleted)).map (·.info)

end InfoWrite

namespace Topic

def infoId (slot : InfoSlot) : String := slot.info.id

/-- The topics that can be made: new ones, changed by merging infos and by new headers. -/
inductive Built : Topic → Prop
  | new (id : String) (kind : TopicKind) : Built (.new id kind)
  | merge {t : Topic} (h : Built t) (info : Info) (deleted : Bool) : Built (t.merge info deleted).1
  | retitle {t : Topic} (h : Built t) (id : String) (kind : TopicKind) : Built { t with id, kind }

variable {t : Topic} {info : Info} {deleted : Bool}

@[simp] theorem id_merge : (t.merge info deleted).1.id = t.id := by
  simp only [merge]
  split <;> rfl

@[simp] theorem kind_merge : (t.merge info deleted).1.kind = t.kind := by
  simp only [merge]
  split <;> rfl

@[simp] theorem slots_merge_written :
    (t.merge info false).1.slots = t.slots.put info.id ⟨info, true⟩ := by
  simp only [merge]
  cases t.slots.find? info.id <;> rfl

theorem merge_unknown (unknown : t.slots.find? info.id = none) : (t.merge info true).1 = t := by
  simp only [merge, unknown]

theorem slots_merge_deleted {slot : InfoSlot} (known : t.slots.find? info.id = some slot) :
    (t.merge info true).1.slots = t.slots.put info.id { slot with live := false } := by
  simp only [merge, known]

/-- The slot of a deleted info is still under its id. -/
theorem infoId_marked (h : t.slots.Valid infoId) {slot : InfoSlot} {id : String}
    (known : t.slots.find? id = some slot) :
    fold (infoId { slot with live := false }) = fold id :=
  (h.find?_eq_some.mp known).2

theorem Valid.merge (h : t.slots.Valid infoId) (info : Info) (deleted : Bool) :
    (t.merge info deleted).1.slots.Valid infoId := by
  cases deleted with
  | false =>
    rw [slots_merge_written]
    exact h.put rfl
  | true =>
    cases known : t.slots.find? info.id with
    | none => rwa [merge_unknown known]
    | some slot =>
      rw [slots_merge_deleted known]
      exact h.put (infoId_marked h known)

theorem Built.valid (h : t.Built) : t.slots.Valid infoId := by
  induction h with
  | new id kind => exact Roster.valid_empty _
  | merge _ info deleted ih => exact Valid.merge ih info deleted
  | retitle _ _ _ ih => exact ih

theorem keys_merge_written (h : t.slots.Valid infoId) :
    (t.merge info false).1.slots.keys infoId =
      if fold info.id ∈ t.slots.keys infoId then t.slots.keys infoId
      else t.slots.keys infoId ++ [fold info.id] := by
  rw [slots_merge_written]
  exact h.keys_put rfl

/-- A deletion adds no slot. -/
theorem keys_merge_deleted (h : t.slots.Valid infoId) :
    (t.merge info true).1.slots.keys infoId = t.slots.keys infoId := by
  cases known : t.slots.find? info.id with
  | none => rw [merge_unknown known]
  | some slot =>
    have mentioned : fold info.id ∈ t.slots.keys infoId := h.isSome_find?.mp (by simp [known])
    rw [slots_merge_deleted known, h.keys_put (infoId_marked h known), if_pos mentioned]

/-- A merge decides what is found of its info, and of no other. -/
theorem info?_merge (h : t.slots.Valid infoId) (q : String) :
    (t.merge info deleted).1.info? q =
      if fold q = fold info.id then if deleted then none else some info else t.info? q := by
  cases deleted with
  | false =>
    have same : fold (infoId ⟨info, true⟩) = fold info.id := rfl
    rw [info?, slots_merge_written, h.find?_put same, info?]
    split <;> simp [Option.filter_some]
  | true =>
    cases known : t.slots.find? info.id with
    | none =>
      rw [merge_unknown known]
      by_cases same : fold q = fold info.id
      · have unknown : t.slots.find? q = none := by
          rw [← Roster.find?_fold, same, Roster.find?_fold, known]
        simp [info?, same, unknown]
      · simp [same]
    | some slot =>
      rw [info?, slots_merge_deleted known, h.find?_put (infoId_marked h known), info?]
      split <;> simp [Option.filter_some]

/-- The infos are those that some records leave. -/
structure Gathers (log : List InfoWrite) (t : Topic) : Prop where
  valid : t.slots.Valid infoId
  keys : t.slots.keys infoId = mentioned InfoWrite.id (log.filter (!·.deleted))
  found : ∀ q, t.info? q = ((last? InfoWrite.id log q).filter (!·.deleted)).map (·.info)

theorem gathers_nil (h : t.slots = .empty) : t.Gathers [] where
  valid := h ▸ Roster.valid_empty _
  keys := by rw [h]; rfl
  found q := by simp [info?, h, last?]

variable {log : List InfoWrite}

theorem Gathers.of_slots {u : Topic} (h : t.Gathers log) (same : u.slots = t.slots) :
    u.Gathers log where
  valid := by rw [same]; exact h.valid
  keys := by rw [same]; exact h.keys
  found q := by rw [info?, same]; exact h.found q

theorem Gathers.merge (h : t.Gathers log) (w : InfoWrite) :
    (t.merge w.info w.deleted).1.Gathers (log ++ [w]) := by
  refine ⟨Valid.merge h.valid _ _, ?_, fun q => ?_⟩
  · cases deleted : w.deleted with
    | false =>
      rw [keys_merge_written h.valid, h.keys]
      simp only [List.filter_append, List.filter_cons, List.filter_nil, deleted, Bool.not_false,
        if_true, mentioned_concat]
      rfl
    | true =>
      rw [keys_merge_deleted h.valid, h.keys]
      simp [deleted]
  · rw [info?_merge h.valid, last?_concat, h.found]
    by_cases same : fold w.id = fold q
    · have same' : fold q = fold w.info.id := same.symm
      cases deleted : w.deleted <;> simp [same, same', deleted, Option.filter_some]
    · have other : fold q ≠ fold w.info.id := fun e => same e.symm
      simp [same, other]

theorem Gathers.infos (h : t.Gathers log) : t.infos = InfoWrite.standing log := by
  have listed := h.valid.map_filter_toList (·.live) (·.info)
  rw [Topic.infos, listed, h.keys, InfoWrite.standing]
  exact List.filterMap_congr fun key _ => h.found key

theorem info?_eq_some (h : t.slots.Valid infoId) {q : String} :
    t.info? q = some info ↔ info ∈ t.infos ∧ fold info.id = fold q :=
  Roster.Valid.map_filter_find? (f := InfoSlot.info) (g := Info.id) h

theorem nodup_infos (h : t.slots.Valid infoId) : (t.infos.map fun info => fold info.id).Nodup := by
  have distinct := h.nodup_map_filter (·.live)
  simpa [infos, infoId, Function.comp_def] using distinct

end Topic

end ContentLayers
