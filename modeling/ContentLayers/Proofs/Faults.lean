import ContentLayers.Proofs.Reachable
import ContentLayers.Store.Indices

/-!
# Faults

Reading takes bytes for granted whose number was compared before. Tables and topics take for granted
that their indices name positions that are there, and that a live record is counted. Here these are
checked, with a fault where one does not hold. None is met, and the results are the same.
-/

namespace ContentLayers

/-- What must never be met. -/
inductive Fault where
  | misuse (m : Misuse)
  /-- A position beyond the last entry. -/
  | outOfBounds
  /-- Fewer live records than none. -/
  | underflow
  deriving DecidableEq

namespace Fault

variable {α β : Type}

theorem ok_bind (a : α) (next : α → Except Fault β) : (Except.ok a >>= next) = next a := rfl

/-- The entries that pass a test, each tested in turn. -/
def tryFilter (test : α → Except Fault Bool) : List α → Except Fault (List α)
  | [] => .ok []
  | a :: as => do
    let passed ← test a
    let rest ← tryFilter test as
    return if passed then a :: rest else rest

theorem tryFilter_eq {test : α → Except Fault Bool} {p : α → Bool} (same : ∀ a, test a = .ok (p a))
    (as : List α) : tryFilter test as = .ok (as.filter p) := by
  induction as with
  | nil => rfl
  | cons a as ih =>
    rw [tryFilter, same, ih, List.filter_cons]
    rfl

/-- The bytes before a position and those from it on. -/
def trySplit (n : Nat) (bs : Bytes) : Except Fault (Bytes × Bytes) :=
  if n ≤ bs.length then .ok (bs.take n, bs.drop n) else .error .outOfBounds

theorem trySplit_eq {n : Nat} {bs : Bytes} (enough : n ≤ bs.length) :
    trySplit n bs = .ok (bs.take n, bs.drop n) := if_pos enough

end Fault

namespace ChunkHeader

def tryRead (bs : Bytes) : Except Fault (Except StreamError (ChunkHeader × Bytes)) :=
  if bs.length < size then .ok (.error .truncatedHeader)
  else do
    let (tag, others) ← Fault.trySplit 4 bs
    let (flags, others) ← Fault.trySplit 4 others
    let (length, _) ← Fault.trySplit 4 others
    let (_, body) ← Fault.trySplit size bs
    return .ok
      (⟨.ofBytes tag, .ofNat (Bytes.toNatLE flags), .ofNat (Bytes.toNatLE length)⟩, body)

theorem tryRead_eq (bs : Bytes) : tryRead bs = .ok (read bs) := by
  unfold tryRead read
  by_cases short : bs.length < size
  · rw [if_pos short, Bytes.split?_eq_none_iff.mpr short]
  have enough : 12 ≤ bs.length := Nat.le_of_not_lt short
  have front : (bs.take 12).length = 12 := List.length_take_of_le enough
  have others : 4 ≤ (bs.drop 4).length := by rw [List.length_drop]; omega
  have last : 4 ≤ ((bs.drop 4).drop 4).length := by simp only [List.length_drop]; omega
  have first : 4 ≤ bs.length := by omega
  rw [if_neg short]
  simp only [Fault.trySplit_eq first, Fault.trySplit_eq others, Fault.trySplit_eq last, size,
    Fault.trySplit_eq enough, Fault.ok_bind]
  simp only [Bytes.split?, front, if_true, List.take_take, List.drop_take, List.drop_drop]
  rfl

end ChunkHeader

namespace Chunk

def tryRead (bs : Bytes) : Except Fault (Except StreamError (Chunk × Bytes)) := do
  match ← ChunkHeader.tryRead bs with
  | .error e => return .error e
  | .ok (header, body) =>
    if body.length < header.length.toNat then
      return .error (.truncatedPayload header.length body.length)
    else
      let (payload, rest) ← Fault.trySplit header.length.toNat body
      return .ok (⟨header.tag, header.flags, payload⟩, rest)

theorem tryRead_eq (bs : Bytes) : tryRead bs = .ok (read bs) := by
  rw [tryRead, ChunkHeader.tryRead_eq, Fault.ok_bind, read]
  cases ChunkHeader.read bs with
  | error e => rfl
  | ok found =>
    obtain ⟨header, body⟩ := found
    dsimp only
    by_cases short : body.length < header.length.toNat
    · rw [if_pos short, Bytes.split?_eq_none_iff.mpr short]
      rfl
    · have enough := Nat.le_of_not_lt short
      rw [if_neg short, Fault.trySplit_eq enough, Bytes.split?, List.length_take_of_le enough,
        if_pos rfl]
      rfl

end Chunk

namespace Roster

variable {α : Type} {idOf : α → String} {r : Roster α}

def tryFind (r : Roster α) (id : String) : Except Fault (Option α) :=
  match r.index[fold id]? with
  | none => .ok none
  | some position =>
    match r.entries[position]? with
    | none => .error .outOfBounds
    | some a => .ok (some a)

def tryPut (r : Roster α) (id : String) (a : α) : Except Fault (Roster α) :=
  match r.index[fold id]? with
  | none => .ok ⟨r.entries.push a, r.index.insert (fold id) r.entries.size⟩
  | some position =>
    if position < r.entries.size then .ok { r with entries := r.entries.setIfInBounds position a }
    else .error .outOfBounds

theorem Valid.tryFind_eq (h : r.Valid idOf) (id : String) : r.tryFind id = .ok (r.find? id) := by
  unfold tryFind find?
  cases known : r.index[fold id]? with
  | none => rfl
  | some position =>
    obtain ⟨a, held, _⟩ := (h _ _).mp known
    simp [held]

theorem Valid.tryPut_eq (h : r.Valid idOf) (id : String) (a : α) :
    r.tryPut id a = .ok (r.put id a) := by
  unfold tryPut Roster.put
  cases known : r.index[fold id]? with
  | none => rfl
  | some position =>
    obtain ⟨_, held, _⟩ := (h _ _).mp known
    exact if_pos (Array.getElem?_eq_some_iff.mp held).1

end Roster

namespace Table

variable {α : Type}

def trySearch (t : Table α) (id : String) : Except Fault (Option α) :=
  (t.slots.tryFind id).map fun found => (found.filter (·.live)).map (·.record)

def tryContains (t : Table α) (id : String) : Except Fault Bool := (t.trySearch id).map (·.isSome)

variable [Record α] {t : Table α}

def tryUpsert (t : Table α) (record : α) (deleted : Bool) (origin : Option Nat) :
    Except Fault (Table α × Outcome) := do
  let id := Record.id record
  match ← t.slots.tryFind id with
  | none =>
    let slots ← t.slots.tryPut id ⟨record, !deleted, origin⟩
    return if deleted then (⟨slots, t.live⟩, .tombstoned false)
      else (⟨slots, t.live + 1⟩, .inserted)
  | some old =>
    let slots ← t.slots.tryPut id ⟨Record.inherit record old.record, !deleted, origin⟩
    match old.live, deleted with
    | true, true =>
      match t.live with
      | 0 => throw .underflow
      | live + 1 => return (⟨slots, live⟩, .tombstoned true)
    | false, true => return (⟨slots, t.live⟩, .tombstoned true)
    | true, false => return (⟨slots, t.live⟩, .replaced old.origin)
    | false, false => return (⟨slots, t.live + 1⟩, .revived)

theorem Valid.trySearch_eq (h : t.Valid) (id : String) : t.trySearch id = .ok (t.search id) := by
  rw [trySearch, h.slots.tryFind_eq]
  rfl

theorem Valid.tryContains_eq (h : t.Valid) (id : String) :
    t.tryContains id = .ok (t.contains id) := by
  rw [tryContains, h.trySearch_eq]
  rfl

/-- A live record is counted. -/
theorem Valid.live_pos (h : t.Valid) {id : String} {old : Slot α}
    (found : t.slots.find? id = some old) (live : old.live = true) : 0 < t.live := by
  rw [h.live, List.countP_pos_iff]
  exact ⟨old, (h.slots.find?_eq_some.mp found).1, live⟩

def tryReplay : Table α → List (Write α) → Except Fault (Table α)
  | t, [] => .ok t
  | t, w :: ws => do
    let (t, _) ← t.tryUpsert w.record w.deleted w.origin
    t.tryReplay ws

theorem Valid.tryUpsert_eq (h : t.Valid) (record : α) (deleted : Bool) (origin : Option Nat) :
    t.tryUpsert record deleted origin = .ok (t.upsert record deleted origin) := by
  simp only [tryUpsert, upsert, h.slots.tryFind_eq, h.slots.tryPut_eq, Fault.ok_bind]
  cases found : t.slots.find? (Record.id record) with
  | none => cases deleted <;> rfl
  | some old =>
    obtain ⟨older, live, origin'⟩ := old
    cases live <;> cases deleted
    case true.true =>
      have counted := Nat.succ_pred_eq_of_pos (h.live_pos found rfl)
      rw [← counted]
      rfl
    all_goals rfl

theorem Valid.tryReplay_eq (h : t.Valid) (keeps : Record.KeepsId α) (log : List (Write α)) :
    t.tryReplay log = .ok (t.replay log).1 := by
  induction log generalizing t with
  | nil => rfl
  | cons w ws ih =>
    rw [tryReplay, h.tryUpsert_eq, Fault.ok_bind]
    exact ih (h.write keeps)

end Table

def Topic.tryMerge (t : Topic) (info : Info) (deleted : Bool) :
    Except Fault (Topic × InfoMerge) := do
  match ← t.slots.tryFind info.id, deleted with
  | some slot, true =>
    let slots ← t.slots.tryPut info.id { slot with live := false }
    return ({ t with slots }, .markedDeleted)
  | some _, false =>
    let slots ← t.slots.tryPut info.id ⟨info, true⟩
    return ({ t with slots }, .updated)
  | none, true => return (t, .ignored)
  | none, false =>
    let slots ← t.slots.tryPut info.id ⟨info, true⟩
    return ({ t with slots }, .appended)

theorem Topic.Built.tryMerge_eq {t : Topic} (h : t.Built) (info : Info) (deleted : Bool) :
    t.tryMerge info deleted = .ok (t.merge info deleted) := by
  simp only [tryMerge, Topic.merge, h.valid.tryFind_eq, h.valid.tryPut_eq, Fault.ok_bind]
  cases t.slots.find? info.id <;> cases deleted <;> rfl

namespace Table

def tryMergeInfo (topics : Table Topic) (active : Option String) (info : Info) (deleted : Bool) :
    Except Fault (Option (Table Topic × InfoMerge)) := do
  match active with
  | none => return none
  | some id =>
    match ← topics.slots.tryFind id with
    | none => return none
    | some slot =>
      let (topic, merge) ← slot.record.tryMerge info deleted
      let slots ← topics.slots.tryPut id { slot with record := topic }
      return some ({ topics with slots }, merge)

end Table

theorem Kind.Sound.tryMergeInfo_eq {topics : Table Topic} (h : Kind.dialogue.Sound topics)
    (active : Option String) (info : Info) (deleted : Bool) :
    topics.tryMergeInfo active info deleted = .ok (topics.mergeInfo active info deleted) := by
  cases active with
  | none => rfl
  | some id =>
    simp only [Table.tryMergeInfo, Table.mergeInfo, h.valid.slots.tryFind_eq,
      h.valid.slots.tryPut_eq, Fault.ok_bind]
    cases found : topics.slots.find? id with
    | none => simp [found, pure, Except.pure]
    | some slot =>
      have built : slot.record.Built := h.holds slot (h.valid.slots.find?_eq_some.mp found).1
      simp only [built.tryMerge_eq, Fault.ok_bind, Option.bind_some, found]
      rfl

def Shelf.tryLoad (s : Shelf) (c : Chunk) (file : Nat) :
    Except Fault (Shelf × Except StreamError (String × Outcome)) :=
  match (decodePayload c.payload : Except StreamError s.kind.Carrier) with
  | .error e => .ok (s, .error e)
  | .ok record => do
    let (table, outcome) ← s.table.tryUpsert record c.isDeleted (some file)
    return (⟨s.kind, table⟩, .ok (Record.id record, outcome))

theorem Shelf.tryLoad_eq {s : Shelf} (h : s.table.Valid) (c : Chunk) (file : Nat) :
    s.tryLoad c file = .ok (s.load c file) := by
  unfold tryLoad load
  cases (decodePayload c.payload : Except StreamError s.kind.Carrier) with
  | error e => rfl
  | ok record =>
    simp only [h.tryUpsert_eq, Fault.ok_bind]
    rfl

namespace Indices

def tryDanglingClasses (npcs : Table Npc) (classes : Table ActorClass) :
    Except Fault (List Dangling) := do
  let named := npcs.records.filter (·.profession != "")
  let missing ← Fault.tryFilter (fun npc => (classes.tryContains npc.profession).map (!·)) named
  return missing.map fun npc => ⟨.npc, npc.id, npc.profession⟩

def tryDanglingScripts (starts : Table StartScript) (scripts : Table Script) :
    Except Fault (List Dangling) := do
  let missing ←
    Fault.tryFilter (fun start => (scripts.tryContains start.script).map (!·)) starts.records
  return missing.map fun start => ⟨.startScript, start.id, start.script⟩

theorem tryDanglingClasses_eq (npcs : Table Npc) {classes : Table ActorClass}
    (valid : classes.Valid) :
    tryDanglingClasses npcs classes = .ok (danglingClasses npcs classes) := by
  have test (npc : Npc) : (classes.tryContains npc.profession).map (!·) =
      .ok (!classes.contains npc.profession) := by
    rw [valid.tryContains_eq]
    rfl
  rw [tryDanglingClasses, Fault.tryFilter_eq test, Fault.ok_bind, List.filter_filter,
    danglingClasses]
  simp only [Bool.and_comm]
  rfl

theorem tryDanglingScripts_eq (starts : Table StartScript) {scripts : Table Script}
    (valid : scripts.Valid) :
    tryDanglingScripts starts scripts = .ok (danglingScripts starts scripts) := by
  have test (start : StartScript) : (scripts.tryContains start.script).map (!·) =
      .ok (!scripts.contains start.script) := by
    rw [valid.tryContains_eq]
    rfl
  rw [tryDanglingScripts, Fault.tryFilter_eq test]
  rfl

end Indices

namespace Shelf

/-- The first of some shelves that holds a live record with the id in the world. -/
def tryScan : List Shelf → String → Except Fault (Option Kind)
  | [], _ => .ok none
  | shelf :: shelves, id => do
    if shelf.kind.referenceable then
      if ← shelf.table.tryContains id then return some shelf.kind
      else tryScan shelves id
    else tryScan shelves id

theorem tryScan_eq {shelves : List Shelf} (valid : ∀ shelf ∈ shelves, shelf.table.Valid)
    (id : String) :
    tryScan shelves id = .ok ((shelves.find? fun shelf =>
      shelf.kind.referenceable && shelf.contains id).map (·.kind)) := by
  induction shelves with
  | nil => rfl
  | cons shelf shelves ih =>
    rw [List.forall_mem_cons] at valid
    rw [tryScan, valid.1.tryContains_eq, ih valid.2, Fault.ok_bind, List.find?_cons,
      Shelf.contains]
    cases shelf.kind.referenceable <;> cases shelf.table.contains id <;> rfl

end Shelf

end ContentLayers
