import ContentLayers.Proofs.Roster
import ContentLayers.Table

/-!
# Tables and their writes

A table is the history of its writes: what it shows of an id is the last write for it, and its order
is that of the first mentions.
-/

namespace ContentLayers

open History

namespace Record

variable (α : Type) [Record α]

/-- A record keeps nothing of the one that it replaces. -/
def IsPlain : Prop := ∀ newer older : α, Record.inherit newer older = newer

/-- A record keeps its id, whatever else the one that it replaces hands on. -/
def KeepsId : Prop := ∀ newer older : α, Record.id (Record.inherit newer older) = Record.id newer

end Record

structure Write (α : Type) where
  record : α
  deleted : Bool
  origin : Option Nat

/-- What a slot holds, whatever file it is from. -/
def Slot.content {α : Type} (slot : Slot α) : α × Bool := (slot.record, slot.live)

namespace Table

variable {α β : Type}

theorem search_eq_content (t : Table α) (q : String) :
    t.search q = (((t.slots.find? q).map Slot.content).filter (·.2)).map (·.1) := by
  simp only [search, Option.filter_map, Option.map_map, Function.comp_def, Slot.content]

theorem isTombstoned_eq_content (t : Table α) (q : String) :
    t.isTombstoned q = ((t.slots.find? q).map Slot.content).any (!·.2) := by
  simp only [isTombstoned, Option.any_map, Slot.content]

theorem records_eq_content (t : Table α) :
    t.records = ((t.slots.toList.map Slot.content).filter (·.2)).map (·.1) := by
  simp only [records, List.filter_map, List.map_map, Function.comp_def, Slot.content]

variable [Record α]

def write (t : Table α) (w : Write α) : Table α × Outcome := t.upsert w.record w.deleted w.origin

/-- Writes in order, with the outcome of each. -/
def replay (t : Table α) : List (Write α) → Table α × List Outcome
  | [] => (t, [])
  | w :: ws =>
    let (t, outcome) := t.write w
    let (t, outcomes) := replay t ws
    (t, outcome :: outcomes)

def slotId (slot : Slot α) : String := Record.id slot.record

/-- The index is right and the live slots are counted. -/
structure Valid (t : Table α) : Prop where
  slots : t.slots.Valid slotId
  live : t.live = t.slots.toList.countP (·.live)

theorem valid_empty : (empty : Table α).Valid := ⟨Roster.valid_empty _, rfl⟩

/-- The slot that a write leaves for its id. -/
def settled (t : Table α) (w : Write α) : Slot α where
  record := match t.slots.find? (Record.id w.record) with
    | none => w.record
    | some old => Record.inherit w.record old.record
  live := !w.deleted
  origin := w.origin

theorem settled_cases (t : Table α) (w : Write α) :
    (t.slots.find? (Record.id w.record) = none ∧ (t.settled w).record = w.record) ∨
      ∃ old, t.slots.find? (Record.id w.record) = some old ∧
        (t.settled w).record = Record.inherit w.record old.record := by
  simp only [settled]
  cases t.slots.find? (Record.id w.record) with
  | none => exact Or.inl ⟨rfl, rfl⟩
  | some old => exact Or.inr ⟨old, rfl, rfl⟩

@[simp] theorem live_settled (t : Table α) (w : Write α) : (t.settled w).live = !w.deleted := rfl

@[simp] theorem origin_settled (t : Table α) (w : Write α) : (t.settled w).origin = w.origin := rfl

theorem slots_write (t : Table α) (w : Write α) :
    (t.write w).1.slots = t.slots.put (Record.id w.record) (t.settled w) := by
  simp only [write, upsert, settled]
  cases t.slots.find? (Record.id w.record) with
  | none => cases w.deleted <;> simp
  | some old => cases live : old.live <;> cases w.deleted <;> simp [live]

theorem outcome_write (t : Table α) (w : Write α) :
    (t.write w).2 = match t.slots.find? (Record.id w.record) with
      | none => if w.deleted then .tombstoned false else .inserted
      | some old => if w.deleted then .tombstoned true
        else if old.live then .replaced old.origin else .revived := by
  simp only [write, upsert]
  cases t.slots.find? (Record.id w.record) with
  | none => cases w.deleted <;> simp
  | some old => cases live : old.live <;> cases w.deleted <;> simp [live]

theorem live_write (t : Table α) (w : Write α) :
    (t.write w).1.live = match t.slots.find? (Record.id w.record) with
      | none => t.live + (!w.deleted).toNat
      | some old => if w.deleted then t.live - old.live.toNat else t.live + (!old.live).toNat := by
  simp only [write, upsert]
  cases t.slots.find? (Record.id w.record) with
  | none => cases w.deleted <;> simp
  | some old => cases live : old.live <;> cases w.deleted <;> simp [live]

variable {t : Table α} {w : Write α}

theorem slotId_settled (keeps : Record.KeepsId α) : slotId (t.settled w) = Record.id w.record := by
  rw [slotId]
  obtain ⟨_, fresh⟩ | ⟨old, _, taken⟩ := settled_cases t w
  · rw [fresh]
  · rw [taken, keeps]

theorem Valid.write (keeps : Record.KeepsId α) (h : t.Valid) : (t.write w).1.Valid := by
  have same := congrArg fold (slotId_settled (t := t) (w := w) keeps)
  refine ⟨by rw [slots_write]; exact h.slots.put same, ?_⟩
  rw [slots_write, live_write, h.live]
  cases found : t.slots.find? (Record.id w.record) with
  | none =>
    rw [Roster.toList_put_of_find?_eq_none h.slots found]
    cases deleted : w.deleted <;> simp [deleted]
  | some old =>
    obtain ⟨before, after, whole, changed⟩ :=
      Roster.toList_put_of_find?_eq_some (a := t.settled w) found
    rw [whole, changed]
    cases deleted : w.deleted <;> cases live : old.live <;> simp [deleted, live]
    omega

theorem Valid.find?_write (keeps : Record.KeepsId α) (h : t.Valid) (q : String) :
    (t.write w).1.slots.find? q =
      if fold q = fold (Record.id w.record) then some (t.settled w) else t.slots.find? q := by
  rw [slots_write, h.slots.find?_put (congrArg fold (slotId_settled keeps))]

theorem Valid.keys_write (keeps : Record.KeepsId α) (h : t.Valid) :
    (t.write w).1.slots.keys slotId =
      if fold (Record.id w.record) ∈ t.slots.keys slotId then t.slots.keys slotId
      else t.slots.keys slotId ++ [fold (Record.id w.record)] := by
  rw [slots_write, h.slots.keys_put (congrArg fold (slotId_settled keeps))]

/-- A search finds the one live record with the id. -/
theorem Valid.search_eq_some (h : t.Valid) {id : String} {record : α} :
    t.search id = some record ↔ record ∈ t.records ∧ fold (Record.id record) = fold id :=
  Roster.Valid.map_filter_find? (f := Slot.record) (g := Record.id) h.slots

theorem Valid.search_eq_none (h : t.Valid) {id : String} :
    t.search id = none ↔ ∀ record ∈ t.records, fold (Record.id record) ≠ fold id := by
  simp only [Option.eq_none_iff_forall_ne_some, ne_eq, h.search_eq_some, not_and]

theorem Valid.nodup_ids (h : t.Valid) : (t.ids.map fold).Nodup := by
  have distinct := h.slots.nodup_map_filter (·.live)
  simpa [ids, records, slotId, Function.comp_def] using distinct

/-- A slot may be changed in its place when its id and its life stay. -/
theorem Valid.change (h : t.Valid) {id : String} {old new : Slot α}
    (found : t.slots.find? id = some old) (same : fold (slotId new) = fold id)
    (live : new.live = old.live) : ({ t with slots := t.slots.put id new } : Table α).Valid := by
  refine ⟨h.slots.put same, ?_⟩
  obtain ⟨before, after, whole, changed⟩ := Roster.toList_put_of_find?_eq_some (a := new) found
  rw [changed, h.live, whole]
  simp [List.countP_cons, live]

theorem Valid.live_eq_content (h : t.Valid) :
    t.live = (t.slots.toList.map Slot.content).countP (·.2) := by
  rw [h.live, List.countP_map]
  rfl

theorem Valid.map_content_toList {u : Table α} (h : t.Valid) (h' : u.Valid)
    (keys : t.slots.keys slotId = u.slots.keys slotId)
    (content : ∀ q, (t.slots.find? q).map Slot.content = (u.slots.find? q).map Slot.content) :
    t.slots.toList.map Slot.content = u.slots.toList.map Slot.content := by
  rw [h.slots.toList_eq, h'.slots.toList_eq, keys, List.map_filterMap, List.map_filterMap]
  exact List.filterMap_congr fun key _ => content key

end Table

end ContentLayers
