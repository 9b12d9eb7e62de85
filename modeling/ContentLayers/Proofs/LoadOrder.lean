import ContentLayers.Proofs.Agreement
import ContentLayers.Proofs.FileContents

/-!
# Load order

Two files that write no id in common may be loaded in either order. Slots may then stand in another
order, which no look-up, no index but the dangling references, and no draw shows.
-/

namespace ContentLayers

open History

namespace Kind

variable {kind : Kind} {earlier later : List Chunk} {old a b ab ba : Table kind.Carrier}
  {q : String}

/-- The later file leaves the id alone, so the earlier one finds there what it would find first. -/
theorem Gains.alike_swapped (a_first : kind.Gains earlier old a) (then_b : kind.Gains later a ab)
    (b_first : kind.Gains later old b) (then_a : kind.Gains earlier b ba)
    (silent : last? kind.contentId (kind.contents later) q = none) : kind.Alike ab ba q :=
  have found : kind.Alike old b q := (b_first.alike_of_silent silent).symm
  (then_b.alike_of_silent silent).trans (a_first.alike then_a found)

/-- No id has records in both files. -/
def Apart (kind : Kind) (earlier later : List Chunk) : Prop :=
  ∀ x ∈ kind.contents earlier, ∀ y ∈ kind.contents later,
    fold (kind.contentId x) ≠ fold (kind.contentId y)

instance (kind : Kind) (earlier later : List Chunk) : Decidable (kind.Apart earlier later) :=
  inferInstanceAs (Decidable (∀ x ∈ kind.contents earlier, ∀ y ∈ kind.contents later,
    fold (kind.contentId x) ≠ fold (kind.contentId y)))

theorem Apart.silent (apart : kind.Apart earlier later) (q : String) :
    last? kind.contentId (kind.contents earlier) q = none ∨
      last? kind.contentId (kind.contents later) q = none := by
  by_contra both
  simp only [not_or, last?_eq_none, not_forall, not_not] at both
  obtain ⟨⟨x, mem, here⟩, y, mem', there⟩ := both
  exact apart x mem y mem' (here.trans there.symm)

theorem Gains.alike_of_apart (apart : kind.Apart earlier later) (a_first : kind.Gains earlier old a)
    (then_b : kind.Gains later a ab) (b_first : kind.Gains later old b)
    (then_a : kind.Gains earlier b ba) (q : String) : kind.Alike ab ba q := by
  obtain silent | silent := apart.silent q
  · exact (b_first.alike_swapped then_a a_first then_b silent).symm
  · exact a_first.alike_swapped then_b b_first then_a silent

end Kind

namespace Store

/-- No kind has an id with records in both files. -/
def Apart (s : Store) (a b : Feed) : Prop := ∀ kind ∈ s.kinds, kind.Apart a.records b.records

/-- Two stores give the same answers, but for the order of records and where they are from. -/
structure SameButOrder (s t : Store) : Prop where
  search : ∀ kind id, (s.table kind).search id = (t.table kind).search id
  isTombstoned : ∀ kind id, (s.table kind).isTombstoned id = (t.table kind).isTombstoned id
  /-- Also a deleted topic has its infos. -/
  infos : ∀ id, ((s.table .dialogue).slots.find? id).map (·.record.slots) =
    ((t.table .dialogue).slots.find? id).map (·.record.slots)
  sorted : s.setUp.indices.sorted = t.setUp.indices.sorted
  owners : s.setUp.indices.owners = t.setUp.indices.owners
  settings : s.setUp.indices.settings = t.setUp.indices.settings
  dangling : s.setUp.indices.dangling.Perm t.setUp.indices.dangling
  draw : ∀ {σ : Type} (dice : Dice σ) (list : LevelledList) (role : ListRole) (level : Int)
    (state : σ),
    s.draw dice list role level state = t.draw dice list role level state ∧
      s.setUp.draw dice list role level state = t.setUp.draw dice list role level state

variable {s t : Store}

theorem Reachable.sameButOrder (h : s.Reachable) (h' : t.Reachable) (kinds : s.kinds = t.kinds)
    (content : ∀ kind q, ((s.table kind).slots.find? q).map Slot.content =
      ((t.table kind).slots.find? q).map Slot.content) : s.SameButOrder t := by
  have agrees := agrees_of_content kinds content
  refine ⟨agrees.search, fun kind id => ?_, fun id => ?_, agrees.sorted h.sound h'.sound,
    agrees.owners h.sound h'.sound, agrees.settings h.sound h'.sound,
    agrees.dangling h.sound h'.sound, fun dice list role level state => ⟨?_, ?_⟩⟩
  · rw [Table.isTombstoned_eq_content, content, ← Table.isTombstoned_eq_content]
  · have same := congrArg (Option.map fun held : Topic × Bool => held.1.slots)
      (content .dialogue id)
    simpa [Function.comp_def, Slot.content] using same
  · exact agrees.draw h.sound h'.sound h.fresh h'.fresh dice list role level state
  · exact agrees.setUp.draw h.setUp.sound h'.setUp.sound h.setUp.fresh h'.setUp.fresh dice list role
      level state

/-- A file that loads also loads after another one. -/
theorem Sound.loads_after (h : s.Sound) {a b : Feed} {i k : Nat} {stats : FileStats}
    (loaded : (s.load b k).result = .ok stats) (j : Nat) :
    ∃ stats, ((s.load a i).store.load b j).result = .ok stats := by
  have after : (s.load a i).store.Sound := h.load a i
  obtain ⟨proper, accepts⟩ := (h.load_succeeds_iff b k).mp ⟨stats, loaded⟩
  exact (after.load_succeeds_iff b j).mpr
    ⟨proper, accepts.congr h after (h.kinds_load a i).symm⟩

/-- **The order of files that do not conflict does not matter.** When two files load and no kind has
an id with records in both, both load in either order, and the stores that they leave give the same
answers. -/
theorem load_order (reachable : s.Reachable) {a b : Feed} {i k : Nat} {stats stats' : FileStats}
    (loaded : (s.load a i).result = .ok stats) (loaded' : (s.load b k).result = .ok stats')
    (apart : s.Apart a b) (j l : Nat) :
    let ab := (s.load a i).store.load b j
    let ba := (s.load b k).store.load a l
    (∃ stats, ab.result = .ok stats) ∧ (∃ stats, ba.result = .ok stats) ∧
      ab.store.SameButOrder ba.store := by
  intro ab ba
  have h := reachable.sound
  obtain ⟨last, ended⟩ : ∃ stats, ab.result = .ok stats := h.loads_after loaded' j
  obtain ⟨last', ended'⟩ : ∃ stats, ba.result = .ok stats := h.loads_after loaded l
  have a_first := h.gains_of_ok loaded
  have then_b := a_first.sound.gains_of_ok ended
  have b_first := h.gains_of_ok loaded'
  have then_a := b_first.sound.gains_of_ok ended'
  have kinds : ab.store.kinds = s.kinds := then_b.kinds.trans a_first.kinds
  have kinds' : ba.store.kinds = s.kinds := then_a.kinds.trans b_first.kinds
  refine ⟨⟨last, ended⟩, ⟨last', ended'⟩, ?_⟩
  refine ((reachable.load a i).load b j).sameButOrder ((reachable.load b k).load a l)
    (kinds.trans kinds'.symm) fun kind q => ?_
  by_cases declared : kind ∈ s.kinds
  · have alike := Kind.Gains.alike_of_apart (apart kind declared) (a_first.tables kind declared)
      (then_b.tables kind (a_first.kinds ▸ declared)) (b_first.tables kind declared)
      (then_a.tables kind (b_first.kinds ▸ declared)) q
    exact alike.map_content_eq
  · have undeclared : kind ∉ ab.store.kinds := kinds ▸ declared
    rw [then_b.sound.table_eq_of_undeclared then_a.sound (kinds.trans kinds'.symm) undeclared]

/-- A topic with an info, and the deletion of a book. -/
def rumourFeed : Feed where
  name := "rumour"
  announced := none
  records := [⟨Kind.dialogue.tag, 0, [0x80]⟩, ⟨Kind.infoTag, 0, [0x80]⟩,
    ⟨Kind.book.tag, Chunk.deletedFlag, [0x80]⟩]
  failure := none

/-- A list and a weapon with the id of that topic. -/
def armouryFeed : Feed where
  name := "armoury"
  announced := none
  records := [⟨Kind.itemList.tag, 0, [0x80]⟩, ⟨Kind.weapon.tag, 0, [0x80]⟩]
  failure := none

theorem load_order_rumour :
    let ab := (Store.new.load rumourFeed 0).store.load armouryFeed 1
    let ba := (Store.new.load armouryFeed 0).store.load rumourFeed 1
    (∃ stats, (Store.new.load rumourFeed 0).result = .ok stats) ∧
      (∃ stats, (Store.new.load armouryFeed 0).result = .ok stats) ∧
      Store.new.Apart rumourFeed armouryFeed ∧ (∃ stats, ab.result = .ok stats) ∧
      (∃ stats, ba.result = .ok stats) ∧ ab.store.SameButOrder ba.store := by
  intro ab ba
  obtain ⟨stats, loaded⟩ : ∃ stats, (Store.new.load rumourFeed 0).result = .ok stats := ⟨_, by rfl⟩
  obtain ⟨stats', loaded'⟩ : ∃ stats, (Store.new.load armouryFeed 0).result = .ok stats :=
    ⟨_, by rfl⟩
  have apart : Store.new.Apart rumourFeed armouryFeed := by
    show ∀ kind ∈ Store.new.kinds, kind.Apart rumourFeed.records armouryFeed.records
    decide
  exact ⟨⟨stats, loaded⟩, ⟨stats', loaded'⟩, apart, load_order .new loaded loaded' apart 1 1⟩

end Store

end ContentLayers
