import ContentLayers.Proofs.Table
import ContentLayers.Record.LevelledList
import ContentLayers.Record.Topic

/-!
# Tables as histories

A table shows of each id the last write for it, and lists the ids in the order of their first
mention. The outcome of a write says what the writes before it left of its id.
-/

namespace ContentLayers

open History

variable {α β : Type} [Record α]

namespace Write

def id (w : Write α) : String := Record.id w.record

/-- The outcome that earlier writes dictate. -/
def outcomeAfter (earlier : List (Write α)) (w : Write α) : Outcome :=
  match last? Write.id earlier w.id with
  | none => if w.deleted then .tombstoned false else .inserted
  | some before =>
    if w.deleted then .tombstoned true
    else if before.deleted then .revived else .replaced before.origin

/-- The last writes for the ids that they do not delete, in the order of first mention. -/
def standing (log : List (Write α)) : List (Write α) :=
  (mentioned Write.id log).filterMap fun key => (last? Write.id log key).filter (!·.deleted)

end Write

/-- The newer record alone decides the view, and the view tells the id. -/
structure Record.Decides (view : α → β) : Prop where
  inherit : ∀ newer older : α, view (Record.inherit newer older) = view newer
  id : ∃ idOf : β → String, ∀ a : α, idOf (view a) = Record.id a

theorem Record.Decides.keepsId {view : α → β} (h : Record.Decides view) : Record.KeepsId α := by
  intro newer older
  obtain ⟨idOf, told⟩ := h.id
  rw [← told, ← told, h.inherit]

namespace Table

/-- A table and the outcomes of its writes, told from the writes alone. -/
structure Recounts (view : α → β) (log : List (Write α)) (t : Table α)
    (outcomes : List Outcome) : Prop where
  search : ∀ q, (t.search q).map view =
    ((last? Write.id log q).filter (!·.deleted)).map (view ·.record)
  isTombstoned : ∀ q, t.isTombstoned q = (last? Write.id log q).any (·.deleted)
  origin : ∀ q, t.origin? q = (last? Write.id log q).bind (·.origin)
  records : t.records.map view = (Write.standing log).map (view ·.record)
  ids : t.ids = (Write.standing log).map Write.id
  distinct : (t.ids.map fold).Nodup
  live : t.live = t.records.length
  outcomes : ∀ i, outcomes[i]? = log[i]?.map (Write.outcomeAfter (log.take i))

/-- What the look-up of an id finds in a slot, seen through a view. -/
def seen (view : α → β) (slot : Slot α) : β × Bool × Option Nat :=
  (view slot.record, slot.live, slot.origin)

/-- The slots are the last writes for the ids mentioned. -/
structure Reflects (view : α → β) (log : List (Write α)) (t : Table α) : Prop where
  valid : t.Valid
  keys : t.slots.keys slotId = mentioned Write.id log
  slots : ∀ q, (t.slots.find? q).map (seen view) =
    (last? Write.id log q).map fun w => (view w.record, !w.deleted, w.origin)

theorem Valid.records_eq {t : Table α} (h : t.Valid) :
    t.records = (t.slots.keys slotId).filterMap t.search :=
  h.slots.map_filter_toList _ _

theorem reflects_empty (view : α → β) : (empty : Table α).Reflects view [] where
  valid := valid_empty
  keys := rfl
  slots q := by simp [empty, last?]

variable {view : α → β} {log : List (Write α)} {t : Table α}

theorem view_settled (decides : Record.Decides view) (w : Write α) :
    view (t.settled w).record = view w.record := by
  obtain ⟨_, fresh⟩ | ⟨old, _, taken⟩ := settled_cases t w
  · rw [fresh]
  · rw [taken, decides.inherit]

theorem Reflects.write (decides : Record.Decides view) (h : t.Reflects view log) (w : Write α) :
    (t.write w).1.Reflects view (log ++ [w]) := by
  refine ⟨h.valid.write decides.keepsId, ?_, fun q => ?_⟩
  · rw [h.valid.keys_write decides.keepsId, h.keys, mentioned_concat]
    rfl
  · rw [h.valid.find?_write decides.keepsId, last?_concat]
    by_cases same : fold q = fold (Record.id w.record)
    · rw [if_pos same, if_pos (show fold w.id = fold q from same.symm)]
      simp [seen, view_settled decides, live_settled, origin_settled]
    · rw [if_neg same, if_neg (show fold w.id ≠ fold q from fun e => same e.symm)]
      exact h.slots q

/-- An id has a slot when a write mentions it, and the slot is that of the last such write. -/
theorem Reflects.cases (h : t.Reflects view log) (q : String) :
    (t.slots.find? q = none ∧ last? Write.id log q = none) ∨
    ∃ slot w, t.slots.find? q = some slot ∧ last? Write.id log q = some w ∧
      view slot.record = view w.record ∧ slot.live = !w.deleted ∧ slot.origin = w.origin := by
  have same := h.slots q
  cases last : last? Write.id log q with
  | none =>
    rw [last] at same
    exact Or.inl ⟨Option.map_eq_none_iff.mp same, rfl⟩
  | some w =>
    rw [last] at same
    obtain ⟨slot, found, alike⟩ := Option.map_eq_some_iff.mp same
    simp only [seen, Prod.mk.injEq] at alike
    exact Or.inr ⟨slot, w, found, rfl, alike⟩

theorem Reflects.outcome (h : t.Reflects view log) (w : Write α) :
    (t.write w).2 = w.outcomeAfter log := by
  rw [outcome_write, Write.outcomeAfter]
  obtain ⟨found, last⟩ | ⟨slot, before, found, last, _, live, origin⟩ :=
    h.cases (Record.id w.record)
  · simp [found, show last? Write.id log w.id = none from last]
  · simp only [found, show last? Write.id log w.id = some before from last, live, origin]
    cases before.deleted <;> simp

theorem Reflects.search (h : t.Reflects view log) (q : String) :
    (t.search q).map view = ((last? Write.id log q).filter (!·.deleted)).map (view ·.record) := by
  obtain ⟨found, last⟩ | ⟨slot, w, found, last, same, live, _⟩ := h.cases q
  · simp [Table.search, found, last]
  · cases deleted : w.deleted <;>
      simp [Table.search, found, last, Option.filter_some, live, same, deleted]

theorem Reflects.isTombstoned (h : t.Reflects view log) (q : String) :
    t.isTombstoned q = (last? Write.id log q).any (·.deleted) := by
  obtain ⟨found, last⟩ | ⟨slot, w, found, last, _, live, _⟩ := h.cases q
  · simp [Table.isTombstoned, found, last]
  · simp [Table.isTombstoned, found, last, live]

theorem Reflects.origin (h : t.Reflects view log) (q : String) :
    t.origin? q = (last? Write.id log q).bind (·.origin) := by
  obtain ⟨found, last⟩ | ⟨slot, w, found, last, _, _, origin⟩ := h.cases q
  · simp [Table.origin?, found, last]
  · simp [Table.origin?, found, last, origin]

theorem Reflects.records (h : t.Reflects view log) :
    t.records.map view = (Write.standing log).map (view ·.record) := by
  rw [h.valid.records_eq, h.keys, Write.standing, List.map_filterMap, List.map_filterMap]
  exact List.filterMap_congr fun key _ => h.search key

theorem Reflects.ids (decides : Record.Decides view) (h : t.Reflects view log) :
    t.ids = (Write.standing log).map Write.id := by
  obtain ⟨idOf, told⟩ := decides.id
  calc t.ids = (t.records.map view).map idOf := by simp [Table.ids, told]
    _ = ((Write.standing log).map (view ·.record)).map idOf := by rw [h.records]
    _ = (Write.standing log).map Write.id := by simp [told, Write.id]

/-- Outcomes are those of single writes to what the earlier writes left. -/
theorem getElem?_replay (t : Table α) (log : List (Write α)) (i : Nat) :
    (t.replay log).2[i]? = log[i]?.map fun w => ((t.replay (log.take i)).1.write w).2 := by
  induction log generalizing t i with
  | nil => simp [replay]
  | cons w ws ih =>
    cases i with
    | zero => simp [replay]
    | succ i => simpa [replay] using ih (t.write w).1 i

theorem replay_append (t : Table α) (log more : List (Write α)) :
    (t.replay (log ++ more)).1 = ((t.replay log).1.replay more).1 := by
  induction log generalizing t with
  | nil => rfl
  | cons w ws ih => simpa [replay] using ih (t.write w).1

theorem reflects_replay (decides : Record.Decides view) (log : List (Write α)) :
    ((empty : Table α).replay log).1.Reflects view log := by
  induction log using List.reverseRecOn with
  | nil => exact reflects_empty view
  | append_singleton log w ih =>
    rw [replay_append]
    exact ih.write decides w

theorem recounts_replay (decides : Record.Decides view) (log : List (Write α)) :
    Recounts view log ((empty : Table α).replay log).1 ((empty : Table α).replay log).2 :=
  have h := reflects_replay decides log
  { search := h.search
    isTombstoned := h.isTombstoned
    origin := h.origin
    records := h.records
    ids := h.ids decides
    distinct := h.valid.nodup_ids
    live := by rw [h.valid.live, Table.records, List.length_map, List.countP_eq_length_filter]
    outcomes := fun i => by
      rw [getElem?_replay]
      exact congrArg log[i]?.map (funext fun w => (reflects_replay decides _).outcome w) }

end Table

/-- What a topic has of its own; its infos come from the topic that it replaces. -/
def Topic.header (t : Topic) : String × TopicKind := (t.id, t.kind)

theorem Record.IsPlain.decides {γ : Type} [Record γ] (plain : Record.IsPlain γ) :
    Record.Decides fun r : γ => r where
  inherit := plain
  id := ⟨Record.id, fun _ => rfl⟩

theorem Topic.decides_header : Record.Decides Topic.header where
  inherit _ _ := rfl
  id := ⟨Prod.fst, fun _ => rfl⟩

/-- **A table is the history of its writes.** Records that keep nothing of their predecessors are
found whole; of a topic its header is. -/
theorem Table.replay_recounts :
    (∀ {γ : Type} [Record γ], Record.IsPlain γ → ∀ log : List (Write γ),
      Recounts (fun r : γ => r) log ((empty : Table γ).replay log).1
        ((empty : Table γ).replay log).2) ∧
    ∀ log : List (Write Topic),
      Recounts Topic.header log ((empty : Table Topic).replay log).1
        ((empty : Table Topic).replay log).2 :=
  ⟨fun plain => recounts_replay plain.decides, recounts_replay Topic.decides_header⟩

/-- A list that is written, deleted, and written again under another casing. -/
def coinWrites : List (Write LevelledList) :=
  [⟨⟨"gold", 0, 0, []⟩, false, some 0⟩, ⟨⟨"GOLD", 0, 0, []⟩, true, some 1⟩,
    ⟨⟨"silver", 0, 0, []⟩, false, none⟩, ⟨⟨"Gold", 1, 0, []⟩, false, some 2⟩]

theorem Table.replay_recounts_coins :
    Record.IsPlain LevelledList ∧
      ((empty : Table LevelledList).replay coinWrites).1.ids = ["Gold", "silver"] ∧
      ((empty : Table LevelledList).replay coinWrites).1.origin? "gOLD" = some 2 ∧
      ((empty : Table LevelledList).replay coinWrites).2[3]? = some .revived := by
  have plain : Record.IsPlain LevelledList := fun _ _ => rfl
  have h := Table.replay_recounts.1 plain coinWrites
  exact ⟨plain, h.ids.trans (by decide), (h.origin _).trans (by decide),
    (h.outcomes 3).trans (by decide)⟩

end ContentLayers
