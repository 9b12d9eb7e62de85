import ContentLayers.Proofs.CaselessLoads

/-!
# Up to case

Files whose records differ only in the case of ids and references lead to stores that differ only in
case, with indices that differ only in case.
-/

namespace ContentLayers

namespace Store

variable {s t : Store}

/-- Two stores find and draw the same but for case. -/
structure SameAnswers (s t : Store) : Prop where
  find : ∀ id other, fold id = fold other → s.find id = t.find other
  draw : ∀ {σ : Type} (dice : Dice σ) (list other : LevelledList), list.caseless = other.caseless →
    ∀ (role : ListRole) (level : Int) (state : σ),
      (s.draw dice list role level state).1.pick.map fold =
          (t.draw dice other role level state).1.pick.map fold ∧
        (s.draw dice list role level state).2 = (t.draw dice other role level state).2

/-- Two stores differ only in case, and so do the indices that are derived of them. -/
structure SameUpToCase (s t : Store) : Prop where
  slots : ∀ kind, (s.table kind).slots.toList.map (Slot.map kind.caseless) =
    (t.table kind).slots.toList.map (Slot.map kind.caseless)
  infos : (s.table .dialogue).slots.toList.map (fun slot => slot.record.infos.map Info.caseless) =
    (t.table .dialogue).slots.toList.map fun slot => slot.record.infos.map Info.caseless
  owners : s.setUp.indices.owners = t.setUp.indices.owners
  settings : s.setUp.indices.settings = t.setUp.indices.settings
  sorted : s.setUp.indices.sorted.map (fun (kind, ids) => (kind, ids.map fold)) =
    t.setUp.indices.sorted.map fun (kind, ids) => (kind, ids.map fold)
  dangling : s.setUp.indices.dangling.map Dangling.caseless =
    t.setUp.indices.dangling.map Dangling.caseless
  answers : s.SameAnswers t
  answersAfter : s.setUp.SameAnswers t.setUp

theorem sameAnswers_of_caseless (same : s.caseless = t.caseless) : s.SameAnswers t where
  find id other folded := by
    rw [← find_caseless, same, find_caseless, ← find_fold, folded, find_fold]
  draw dice list other lists role level state := by
    have first := s.drawWithin_caseless dice level maxListDepth list role state
    have second := t.drawWithin_caseless dice level maxListDepth other role state
    rw [← same, ← lists] at second
    exact ⟨first.1.symm.trans second.1, first.2.symm.trans second.2⟩

theorem Sound.sameUpToCase (h : s.Sound) (h' : t.Sound) (same : s.caseless = t.caseless) :
    s.SameUpToCase t := by
  have setUp : s.setUp.caseless = t.setUp.caseless := by
    rw [← h.setUp_caseless, ← h'.setUp_caseless, same]
  have slots (kind : Kind) : (s.table kind).slots.toList.map (Slot.map kind.caseless) =
      (t.table kind).slots.toList.map (Slot.map kind.caseless) := by
    have tables : (s.table kind).map kind.caseless = (t.table kind).map kind.caseless := by
      rw [← table_caseless, ← table_caseless, same]
    rw [← Roster.toList_map, ← Roster.toList_map]
    exact congrArg (·.slots.toList) tables
  have infos (topics : List (Slot Topic)) :
      topics.map (fun slot => slot.record.infos.map Info.caseless) =
        (topics.map (Slot.map Topic.caseless)).map fun slot => slot.record.infos := by
    simp [Slot.map, Topic.infos_caseless]
  refine ⟨slots, ?_, congrArg (·.indices.owners) setUp, congrArg (·.indices.settings) setUp,
    congrArg (·.indices.sorted) setUp, congrArg (·.indices.dangling) setUp,
    sameAnswers_of_caseless same, sameAnswers_of_caseless setUp⟩
  rw [infos, infos]
  exact congrArg _ (slots .dialogue)

theorem Sound.loadAll (h : s.Sound) (files : List (Feed × Nat)) : (s.loadAll files).Sound := by
  induction files generalizing s with
  | nil => exact h
  | cons file files ih => exact ih (h.load file.1 file.2)

theorem Sound.meets (h : s.Sound) : s.Meets s.kinds where
  topics := by
    obtain ⟨table, found⟩ := Option.isSome_iff_exists.mp h.dialogue
    exact List.mem_map_of_mem (f := (·.kind)) (shelf?_eq_some (table?_eq_some.mp found)).1
  shelves _ mem := List.mem_map_of_mem mem

/-- **Case is never observed.** Files whose records differ only in the case of ids and references
come to the same when they are loaded: file by file the same counts, or the same error at the same
record, and in the end stores that differ only in case. -/
theorem loadAll_up_to_case {s : Store} (reachable : s.Reachable) {files others : List (Feed × Nat)}
    (alike : List.Forall₂ (SameFiles s.kinds) files others) :
    (s.resultsAll files).map outcome = (s.resultsAll others).map outcome ∧
      (s.loadAll files).SameUpToCase (s.loadAll others) := by
  have sound := reachable.sound
  obtain ⟨final, results⟩ := loadAll_congr_caseless sound sound.meets rfl alike
  exact ⟨results, (sound.loadAll files).sameUpToCase (sound.loadAll others) final⟩

end Store

theorem Chunk.sameUpToCase_of_kind {kind : Kind} (builtin : kind ∈ Kind.builtins) {flags : UInt32}
    {bs cs : Bytes}
    (decoded : (decodePayload bs : Except StreamError kind.Carrier).toOption.map kind.caseless =
      (decodePayload cs : Except StreamError kind.Carrier).toOption.map kind.caseless) :
    Chunk.SameUpToCase Kind.builtins ⟨kind.tag, flags, bs⟩ ⟨kind.tag, flags, cs⟩ where
  tag := rfl
  flags := rfl
  record other mem named := by
    have distinct : ∀ k ∈ Kind.builtins, ∀ l ∈ Kind.builtins, k.tag = l.tag → k = l := by decide
    obtain rfl := distinct other mem kind builtin named
    exact decoded
  info named := by
    have unreserved : ∀ k ∈ Kind.builtins, k.tag ≠ Kind.infoTag := by decide
    exact absurd named (unreserved kind builtin)

/-- The topic "Aa" with the info "X", an npc of the class "M", and a record that cannot be decoded
in a file after them. -/
def mixedCaseFiles : List (Feed × Nat) := [
  (⟨"one", none, [⟨Kind.dialogue.tag, 0, [0x81, 0xA2, 0x69, 0x64, 0xA2, 0x41, 0x61]⟩,
    ⟨Kind.infoTag, 0, [0x81, 0xA2, 0x69, 0x64, 0xA1, 0x58]⟩,
    ⟨Kind.npc.tag, 0, [0x81, 0xA5, 0x63, 0x6C, 0x61, 0x73, 0x73, 0xA1, 0x4D]⟩], none⟩, 0),
  (⟨"two", none, [⟨Kind.npc.tag, 0, [0xC1]⟩], none⟩, 1)]

/-- The same in small letters. -/
def lowerCaseFiles : List (Feed × Nat) := [
  (⟨"1", none, [⟨Kind.dialogue.tag, 0, [0x81, 0xA2, 0x69, 0x64, 0xA2, 0x61, 0x61]⟩,
    ⟨Kind.infoTag, 0, [0x81, 0xA2, 0x69, 0x64, 0xA1, 0x78]⟩,
    ⟨Kind.npc.tag, 0, [0x81, 0xA5, 0x63, 0x6C, 0x61, 0x73, 0x73, 0xA1, 0x6D]⟩], none⟩, 0),
  (⟨"2", none, [⟨Kind.npc.tag, 0, []⟩], none⟩, 1)]

theorem sameFiles_mixedCase :
    List.Forall₂ (Store.SameFiles Store.new.kinds) mixedCaseFiles lowerCaseFiles := by
  have kinds : Store.new.kinds = Kind.builtins := by decide
  rw [kinds]
  have unreserved : ∀ kind ∈ Kind.builtins, kind.tag ≠ Kind.infoTag := by decide
  refine .cons ⟨⟨.cons ?topic (.cons ?info (.cons ?npc .nil)), rfl⟩, rfl⟩
    (.cons ⟨⟨.cons ?broken .nil, rfl⟩, rfl⟩ .nil)
  case topic => exact Chunk.sameUpToCase_of_kind (by decide) (by cbv)
  case info => exact ⟨rfl, rfl, fun kind mem named => absurd named (unreserved kind mem),
    fun _ => by cbv⟩
  case npc => exact Chunk.sameUpToCase_of_kind (by decide) (by cbv)
  case broken => exact Chunk.sameUpToCase_of_kind (by decide) (by cbv)

theorem Store.loadAll_up_to_case_mixed :
    Store.new.Reachable ∧ List.Forall₂ (SameFiles new.kinds) mixedCaseFiles lowerCaseFiles ∧
      (new.loadAll mixedCaseFiles).SameUpToCase (new.loadAll lowerCaseFiles) :=
  ⟨.new, sameFiles_mixedCase, (loadAll_up_to_case .new sameFiles_mixedCase).2⟩

end ContentLayers
