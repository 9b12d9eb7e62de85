import ContentLayers.Proofs.Buffers
import ContentLayers.Proofs.FileContents

/-!
# Loading a file again

A file that is loaded a second time finds its own last records in the slots and its own infos in the
topics. It changes nothing, whatever it writes, deletes and brings back.
-/

namespace ContentLayers

open History

namespace Kind

variable {kind : Kind} {records : List Chunk} {t u old once twice : Table kind.Carrier}

theorem Sound.valid_infosAt (h : kind.Sound t) (q : String) :
    (kind.infosAt t q).Valid Topic.infoId := by
  rw [infosAt]
  cases found : t.slots.find? q with
  | none => exact Roster.valid_empty _
  | some slot =>
    have held := h.holds slot (h.valid.slots.find?_eq_some.mp found).1
    cases kind with
    | dialogue => exact Topic.Built.valid held
    | _ => exact Roster.valid_empty _

theorem Gains.keys_again (first : kind.Gains records old once)
    (second : kind.Gains records once twice) :
    twice.slots.keys Table.slotId = once.slots.keys Table.slotId := by
  rw [second.keys, first.keys, eraseDups_eraseDups_append]
  exact eraseDups_append_of_subset fun key => List.mem_append_right _

/-- The second time, the records and the infos leave what they left the first time. -/
theorem Gains.content_again (sound : kind.Sound old) (first : kind.Gains records old once)
    (second : kind.Gains records once twice) (q : String) :
    (twice.slots.find? q).map Slot.content = (once.slots.find? q).map Slot.content := by
  refine Alike.map_content_eq ⟨?_, ?_⟩
  · rw [second.own, first.own, layAll_layAll]
  · rw [second.infos, first.infos, InfoWrite.mergeAll_mergeAll (sound.valid_infosAt q)]

end Kind

/-- The slots decide the number of live ones, and are decided by what they hold and where it is
from. -/
theorem Table.Valid.eq_of_content {α : Type} [Record α] {t u : Table α} (h : t.Valid) (h' : u.Valid)
    (keys : t.slots.keys slotId = u.slots.keys slotId)
    (content : ∀ q, (t.slots.find? q).map Slot.content = (u.slots.find? q).map Slot.content)
    (origin : ∀ q, (t.slots.find? q).map (·.origin) = (u.slots.find? q).map (·.origin)) :
    t = u := by
  have slots : t.slots = u.slots := by
    refine h.slots.eq_of_find? h'.slots keys fun q => ?_
    have content := content q
    have origin := origin q
    cases found : t.slots.find? q with
    | none =>
      rw [found] at origin
      exact (Option.map_eq_none_iff.mp origin.symm).symm
    | some slot =>
      rw [found] at content origin
      obtain ⟨other, found', same⟩ := Option.map_eq_some_iff.mp content.symm
      rw [found'] at origin ⊢
      obtain ⟨record, live, file⟩ := slot
      obtain ⟨record', live', file'⟩ := other
      simp_all [Slot.content]
  have live : t.live = u.live := by rw [h.live, h'.live, slots]
  obtain ⟨slots, live⟩ := t
  simp_all

namespace Store

variable {s : Store}

theorem Sound.table_load_again (h : s.Sound) {kind : Kind} (declared : kind ∈ s.kinds) (feed : Feed)
    (index : Nat) :
    let once := (s.load feed index).store
    (once.load feed index).store.table kind = once.table kind := by
  intro once
  obtain ⟨again, kinds, first⟩ := h.gains_load feed index
  have declared' : kind ∈ once.kinds := kinds ▸ declared
  have stops := (h.load_stops_alike again kinds.symm feed index index).1
  have first := first kind declared
  have second := (again.gains_load feed index).tables kind declared'
  rw [stops] at second
  refine ((again.load feed index).table kind).valid.eq_of_content (again.table kind).valid
    (first.keys_again second) (first.content_again (h.table kind) second) fun q => ?_
  rw [again.origin_load declared', stops, h.origin_load declared]
  cases last? kind.contentId (kind.contents (feed.records.take (s.load feed index).applied)) q <;>
    simp

/-- What a second load of a file leaves and answers is what the first one did: every table is the
same, as many records are applied, and it fails where the first one failed. -/
structure Repeats (once twice : Loaded Store) : Prop where
  shelves : twice.store.shelves = once.store.shelves
  applied : twice.applied = once.applied
  failure : ∀ e, twice.result = .error e ↔ once.result = .error e

theorem Sound.repeats (h : s.Sound) (feed : Feed) (index : Nat) :
    Repeats (s.load feed index) ((s.load feed index).store.load feed index) := by
  have again : (s.load feed index).store.Sound := h.load feed index
  have kinds : (s.load feed index).store.kinds = s.kinds := h.kinds_load feed index
  obtain ⟨applied, failure⟩ := h.load_stops_alike again kinds.symm feed index index
  refine ⟨?_, applied, failure⟩
  rw [(again.load feed index).shelves_eq, again.kinds_load, again.shelves_eq, kinds]
  exact List.map_congr_left fun kind declared =>
    congrArg (Shelf.mk kind) (h.table_load_again declared feed index)

/-- **Loading a file again changes nothing.** The second load, under the same index, repeats the
first, whatever the file delivers. So it does for a buffer that is loaded from its start, rewound
and loaded again. All kinds may be declared, those that hand cells on too: what a kind hands on
settles (`Kind.settles`), and no more is asked of it. -/
theorem load_again (reachable : s.Reachable) (index : Nat) :
    (∀ feed : Feed, Repeats (s.load feed index) ((s.load feed index).store.load feed index)) ∧
      ∀ b : Buffer, b.cursor = 0 →
        let once := s.loadBuffer b index
        Repeats once.1 (once.1.store.loadBuffer once.2.rewind index).1 := by
  refine ⟨fun feed => reachable.sound.repeats feed index, fun b start => ?_⟩
  intro once
  rw [s.rewind_loadBuffer start, loadBuffer_fst, loadBuffer_fst]
  exact reachable.sound.repeats b.feed index

/-- An info is deleted before it is written, the topic is deleted at last, and a book is refused.
The deletion finds its info only when the file comes again. -/
def relicFeed : Feed where
  name := "relic"
  announced := none
  records := [⟨Kind.dialogue.tag, 0, [0x80]⟩, ⟨Kind.infoTag, Chunk.deletedFlag, [0x80]⟩,
    ⟨Kind.infoTag, 0, [0x80]⟩, ⟨Kind.dialogue.tag, Chunk.deletedFlag, [0x80]⟩,
    ⟨Kind.book.tag, 0, []⟩]
  failure := none

def relicBuffer : Buffer := ⟨relicFeed.name, relicFeed.records.toArray, 0⟩

theorem load_again_relic :
    ((Store.new.load relicFeed 2).store.load relicFeed 2).store.shelves =
        (Store.new.load relicFeed 2).store.shelves ∧
      ((Store.new.load relicFeed 2).store.load relicFeed 2).applied = 4 ∧
      (Store.new.load relicFeed 2).result = .error (.decode Kind.book.tag 4 .payloadDecode) ∧
      ((Store.new.load relicFeed 2).store.load relicFeed 2).result =
        .error (.decode Kind.book.tag 4 .payloadDecode) ∧
      let once := Store.new.loadBuffer relicBuffer 2
      let twice := once.1.store.loadBuffer once.2.rewind 2
      twice.1.store.shelves = once.1.store.shelves ∧ twice.1.applied = 4 ∧
        twice.1.result = .error (.decode Kind.book.tag 4 .payloadDecode) := by
  obtain ⟨feeds, buffers⟩ := load_again .new 2
  have fed := feeds relicFeed
  have rewound := buffers relicBuffer rfl
  have four : (Store.new.load relicFeed 2).applied = 4 := by rfl
  have failed : (Store.new.load relicFeed 2).result =
      .error (.decode Kind.book.tag 4 .payloadDecode) := by rfl
  have held : (Store.new.loadBuffer relicBuffer 2).1.applied = 4 := by
    rw [loadBuffer_fst]
    rfl
  have refused : (Store.new.loadBuffer relicBuffer 2).1.result =
      .error (.decode Kind.book.tag 4 .payloadDecode) := by
    rw [loadBuffer_fst]
    rfl
  exact ⟨fed.shelves, fed.applied.trans four, failed, (fed.failure _).mpr failed,
    rewound.shelves, rewound.applied.trans held, (rewound.failure _).mpr refused⟩

end Store

end ContentLayers
