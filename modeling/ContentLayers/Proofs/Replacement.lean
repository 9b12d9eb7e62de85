import ContentLayers.Proofs.Reachable

/-!
# Records that replace others

What a chain of records leaves of an id. Each hands on a part of itself to the next, and it does not
matter which of them are put together first. So a chain that is written twice leaves what it left
the first time.
-/

namespace ContentLayers

namespace CustomCell

open MsgPack

variable {cells : List CustomCell}

theorem inherit_self (row : Row (cells.map column)) : inherit cells row row = row := by
  induction cells with
  | nil => rfl
  | cons cell cells ih =>
    obtain ⟨first, rest⟩ := row
    rw [inherit, ite_self, ih]

theorem inherit_assoc (a b c : Row (cells.map column)) :
    inherit cells (inherit cells a b) c = inherit cells a (inherit cells b c) := by
  induction cells with
  | nil => rfl
  | cons cell cells ih =>
    obtain ⟨a, as⟩ := a
    obtain ⟨b, bs⟩ := b
    obtain ⟨c, cs⟩ := c
    simp only [inherit, ih]
    cases cell.handedOn <;> rfl

/-- The first cell is handed on and the second is not. -/
example : inherit [⟨"uses", .uint8, true⟩, ⟨"title", .text, false⟩] ((1 : UInt8), "new", ())
    ((7 : UInt8), "old", ()) = ((7 : UInt8), "new", ()) := rfl

end CustomCell

/-- Replacing is associative, and a record that replaces itself stays as it is. -/
structure Record.Settles (α : Type) [Record α] : Prop where
  self : ∀ a : α, inherit a a = a
  assoc : ∀ a b c : α, inherit (inherit a b) c = inherit a (inherit b c)

namespace Kind

/-- Whatever a kind hands on, it settles. -/
theorem settles (kind : Kind) : Record.Settles kind.Carrier := by
  cases kind with
  | custom k =>
    refine ⟨fun a => ?_, fun a b c => ?_⟩
    · exact congrArg (CustomRecord.mk a.id) (CustomCell.inherit_self a.cells)
    · exact congrArg (CustomRecord.mk a.id) (CustomCell.inherit_assoc a.cells b.cells c.cells)
  | _ => exact ⟨fun _ => rfl, fun _ _ _ => rfl⟩

/-- A record as a file writes it: a topic has no infos yet. -/
def bare : (kind : Kind) → kind.Carrier → kind.Carrier
  | .dialogue, topic => { topic with slots := .empty }
  | _, record => record

/-- The infos gathered in a record; only a topic has any. -/
def infoSlots : (kind : Kind) → kind.Carrier → Roster InfoSlot
  | .dialogue, topic => topic.slots
  | _, _ => .empty

variable {kind : Kind} {newer older record other : kind.Carrier}

theorem bare_bare : kind.bare (kind.bare record) = kind.bare record := by
  cases kind <;> rfl

theorem bare_inherit_bare :
    kind.bare (Record.inherit newer (kind.bare older)) =
      kind.bare (Record.inherit newer older) := by
  cases kind <;> rfl

theorem bare_inherit_of_bare :
    kind.bare (Record.inherit (kind.bare newer) older) =
      kind.bare (Record.inherit newer older) := by
  cases kind <;> rfl

theorem infoSlots_inherit : kind.infoSlots (Record.inherit newer older) = kind.infoSlots older := by
  cases kind <;> rfl

theorem id_bare : Record.id (kind.bare record) = Record.id record := by
  cases kind <;> rfl

/-- A record is what is written of it and the infos that it gathered. -/
theorem ext_record (same : kind.bare record = kind.bare other)
    (infos : kind.infoSlots record = kind.infoSlots other) : record = other := by
  cases kind with
  | dialogue =>
    obtain ⟨id, kind, slots⟩ := record
    obtain ⟨id', kind', slots'⟩ := other
    simp only [bare, Topic.mk.injEq] at same
    obtain ⟨rfl, rfl, _⟩ := same
    obtain rfl : slots = slots' := infos
    rfl
  | _ => exact same

theorem infoSlots_decoded {bs : Bytes} (decoded : decodePayload bs = .ok record) :
    kind.infoSlots record = .empty := by
  cases kind with
  | dialogue =>
    obtain ⟨id, kind, rfl⟩ := decodePayload_topic decoded
    rfl
  | _ => rfl

/-- A record and whether it is live, when it is written over what was there. -/
def laid (kind : Kind) (old : Option (kind.Carrier × Bool)) (content : kind.Carrier × Bool) :
    kind.Carrier × Bool :=
  match old with
  | none => (kind.bare content.1, content.2)
  | some older => (kind.bare (Record.inherit content.1 older.1), content.2)

/-- What a chain of records leaves of what was there. -/
def layAll (kind : Kind) (old : Option (kind.Carrier × Bool))
    (chain : List (kind.Carrier × Bool)) : Option (kind.Carrier × Bool) :=
  chain.foldl (fun left content => some (kind.laid left content)) old

variable {old : Option (kind.Carrier × Bool)} {content next : kind.Carrier × Bool}
  {chain : List (kind.Carrier × Bool)}

@[simp] theorem snd_laid : (kind.laid old content).2 = content.2 := by
  cases old <;> rfl

theorem laid_bare : kind.laid old (kind.bare content.1, content.2) = kind.laid old content := by
  cases old with
  | none => rw [laid, laid, bare_bare]
  | some older => rw [laid, laid, bare_inherit_of_bare]

/-- Two records may be put together before they are written. -/
theorem laid_laid : kind.laid (some (kind.laid old content)) next =
    kind.laid old (kind.laid (some content) next) := by
  cases old with
  | none => simp only [laid, bare_inherit_bare, bare_bare]
  | some older => simp only [laid, bare_inherit_bare, bare_inherit_of_bare, kind.settles.assoc]

theorem laid_twice : kind.laid (some (kind.laid old content)) content = kind.laid old content := by
  have itself : kind.laid (some content) content = (kind.bare content.1, content.2) := by
    rw [laid, kind.settles.self]
  rw [laid_laid, itself, laid_bare]

theorem layAll_append (more : List (kind.Carrier × Bool)) :
    kind.layAll old (chain ++ more) = kind.layAll (kind.layAll old chain) more :=
  List.foldl_append

theorem layAll_concat :
    kind.layAll old (chain ++ [content]) = some (kind.laid (kind.layAll old chain) content) :=
  layAll_append [content]

/-- The last record of a chain tells whether the id is live. -/
theorem layAll_live (old : Option (kind.Carrier × Bool)) (chain : List (kind.Carrier × Bool)) :
    (kind.layAll old chain).map (·.2) = (chain.getLast?.map (·.2)).or (old.map (·.2)) := by
  induction chain using List.reverseRecOn with
  | nil => rfl
  | append_singleton chain content _ => simp [layAll_concat]

/-- A chain is empty or comes to one record. -/
theorem layAll_cases (chain : List (kind.Carrier × Bool)) :
    chain = [] ∨ ∃ whole, ∀ old, kind.layAll old chain = some (kind.laid old whole) := by
  induction chain using List.reverseRecOn with
  | nil => exact Or.inl rfl
  | append_singleton chain content ih =>
    refine Or.inr ?_
    obtain rfl | ⟨whole, put⟩ := ih
    · exact ⟨content, fun old => rfl⟩
    · exact ⟨kind.laid (some whole) content, fun old => by rw [layAll_concat, put, laid_laid]⟩

/-- **A chain that is written twice leaves what it left the first time.** -/
theorem layAll_layAll (old : Option (kind.Carrier × Bool)) (chain : List (kind.Carrier × Bool)) :
    kind.layAll (kind.layAll old chain) chain = kind.layAll old chain := by
  obtain rfl | ⟨whole, put⟩ := kind.layAll_cases chain
  · rfl
  · rw [put, put, laid_twice]

end Kind

end ContentLayers
