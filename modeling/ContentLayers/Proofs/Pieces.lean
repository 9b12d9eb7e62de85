import ContentLayers.Proofs.Agreement
import ContentLayers.Proofs.FileContents
import ContentLayers.Store.Session

/-!
# A file in pieces

A file may be cut wherever each info keeps a header before it in its piece. The pieces leave what
the whole file leaves, in however many sessions they are loaded.
-/

namespace ContentLayers

open History

namespace Dialogue

/-- Each info has a header before it. -/
def Headed : List Chunk → Prop :=
  Each fun earlier c => c.tag = Kind.infoTag → ∃ d ∈ earlier, d.tag = Kind.dialogue.tag

instance (records : List Chunk) : Decidable (Headed records) :=
  inferInstanceAs (Decidable (Each _ records))

variable {earlier records : List Chunk} {c : Chunk}

theorem headers_append :
    headers (earlier ++ records) = headers earlier ++ headers records :=
  List.filterMap_append

/-- Headers of a piece hide those before it. -/
theorem owned_append (headed : c.infoWrite? = none ∨ headers records ≠ []) :
    owned (earlier ++ records) c = owned records c := by
  obtain noInfo | headed := headed
  · simp [owned, noInfo]
  · obtain ⟨header, last⟩ := Option.ne_none_iff_exists'.mp (mt List.getLast?_eq_none_iff.mp headed)
    simp [owned, headers_append, List.getLast?_append, last]

/-- Each info belongs to a header of its own list. -/
def OwnsInfos : List Chunk → Prop :=
  Each fun earlier c => c.infoWrite? = none ∨ headers earlier ≠ []

theorem attributed_append (headed : OwnsInfos records) :
    attributed (earlier ++ records) = attributed earlier ++ attributed records := by
  induction records using List.reverseRecOn with
  | nil => simp [attributed]
  | append_singleton records c ih =>
    obtain ⟨front, last⟩ := each_concat.mp headed
    rw [← List.append_assoc, attributed_concat, attributed_concat, ih front, owned_append last,
      List.append_assoc]

end Dialogue

namespace Kind

variable {kind : Kind} {earlier records : List Chunk} {old mid new : Table kind.Carrier}

theorem infosOf_append (headed : Dialogue.OwnsInfos records) (q : String) :
    kind.infosOf (earlier ++ records) q = kind.infosOf earlier q ++ kind.infosOf records q := by
  simp only [infosOf, Dialogue.attributed_append headed, Dialogue.infosOf, List.filter_append,
    List.map_append]
  split <;> rfl

theorem Gains.append (first : kind.Gains earlier old mid) (second : kind.Gains records mid new)
    (headed : Dialogue.OwnsInfos records) : kind.Gains (earlier ++ records) old new := by
  have listed :
      kind.contents (earlier ++ records) = kind.contents earlier ++ kind.contents records :=
    List.filterMap_append
  refine ⟨?_, fun q => ?_, fun q => ?_⟩
  · rw [second.keys, first.keys, eraseDups_eraseDups_append, listed, List.map_append,
      List.append_assoc]
  · rw [second.own, first.own, contentsOf, contentsOf, contentsOf, listed, List.filter_append,
      layAll_append]
  · rw [second.infos, first.infos, infosOf_append headed, InfoWrite.mergeAll_append]

end Kind

namespace Store

variable {s : Store} {earlier records : List Chunk} {c : Chunk} {e : FormatError}

/-- A reason to refuse a record in a piece is one in the whole file, unless a header before the
piece takes the record. -/
theorem Rejection.behind (rejection : s.Rejection records c e)
    (headed : c.tag = Kind.infoTag → ∃ d ∈ records, d.tag = Kind.dialogue.tag) :
    ∃ e, s.Rejection (earlier ++ records) c e := by
  cases rejection with
  | undecodable kind cause declared named undecodable =>
    exact ⟨_, .undecodable kind cause declared named undecodable⟩
  | undecodableInfo cause named undecodable => exact ⟨_, .undecodableInfo cause named undecodable⟩
  | orphan info named decoded headless =>
    obtain ⟨d, mem, header⟩ := headed named
    exact absurd header (headless d mem)
  | unsupported noInfo undeclared required => exact ⟨_, .unsupported noInfo undeclared required⟩

theorem Accepts.piece (accepts : s.Accepts (earlier ++ records))
    (headed : Dialogue.Headed records) : s.Accepts records := by
  have behind := (each_append.mp accepts).2
  intro i c held e rejection
  obtain ⟨e', rejection'⟩ := rejection.behind (headed i c held)
  exact behind i c held e' rejection'

/-- A header that is accepted can be read. -/
theorem Accepts.header? (h : s.Sound) (accepts : s.Accepts records) {d : Chunk} (mem : d ∈ records)
    (named : d.tag = Kind.dialogue.tag) : d.header?.isSome = true := by
  obtain ⟨i, held⟩ := List.getElem?_of_mem mem
  cases decoded : (decodePayload d.payload : Except StreamError Topic) with
  | ok topic => rw [Chunk.header?_decoded named decoded, Option.isSome_some]
  | error cause =>
    exact absurd (.undecodable .dialogue cause h.dialogue named.symm decoded) (accepts i d held _)

theorem Accepts.ownsInfos (h : s.Sound) (accepts : s.Accepts records)
    (headed : Dialogue.Headed records) : Dialogue.OwnsInfos records := by
  intro i c held
  by_cases info : c.tag = Kind.infoTag
  · obtain ⟨d, mem, header⟩ := headed i c held info
    obtain ⟨topic, read⟩ := Option.isSome_iff_exists.mp
      (accepts.header? h (List.mem_of_mem_take mem) header)
    exact Or.inr (List.ne_nil_of_mem (List.mem_filterMap.mpr ⟨d, mem, read⟩))
  · exact Or.inl (Chunk.infoWrite?_eq_none info)

/-- A piece is accepted after those before it, and adds to the tables what its records do in the
whole file. -/
theorem Gains.load {t : Store} (h : s.Sound) (gains : s.Gains earlier t) {feed : Feed}
    (proper : feed.failure = none) (headed : Dialogue.Headed feed.records)
    (accepts : s.Accepts (earlier ++ feed.records)) (index : Nat) :
    (∃ stats, (t.load feed index).result = .ok stats) ∧
      s.Gains (earlier ++ feed.records) (t.load feed index).store := by
  have piece := accepts.piece headed
  have loaded := (gains.sound.load_succeeds_iff feed index).mpr
    ⟨proper, piece.congr h gains.sound gains.kinds.symm⟩
  obtain ⟨stats, result⟩ := loaded
  have more := gains.sound.gains_of_ok result
  refine ⟨⟨stats, result⟩, more.sound, more.kinds.trans gains.kinds, fun kind declared => ?_⟩
  have declared' : kind ∈ t.kinds := gains.kinds ▸ declared
  exact (gains.tables kind declared).append (more.tables kind declared')
    (piece.ownsInfos h headed)

/-- The stores are the same, but for where records are from. -/
structure SameContents (s t : Store) : Prop where
  kinds : s.kinds = t.kinds
  contents : ∀ kind, (s.table kind).slots.toList.map Slot.content =
    (t.table kind).slots.toList.map Slot.content
  live : ∀ kind, (s.table kind).live = (t.table kind).live
  indices : s.setUp.indices = t.setUp.indices

variable {t u : Store}

/-- Stores that gained the same from the same hold the same. -/
theorem Gains.map_content_eq (first : s.Gains records t) (second : s.Gains records u) (kind : Kind)
    (q : String) : ((t.table kind).slots.find? q).map Slot.content =
      ((u.table kind).slots.find? q).map Slot.content := by
  by_cases declared : kind ∈ s.kinds
  · have began : kind.Alike (s.table kind) (s.table kind) q := ⟨rfl, rfl⟩
    have same := (first.tables kind declared).alike (second.tables kind declared) began
    exact same.map_content_eq
  · have kinds := first.kinds.trans second.kinds.symm
    rw [first.sound.table_eq_of_undeclared second.sound kinds (first.kinds ▸ declared)]

theorem Gains.keys_eq (first : s.Gains records t) (second : s.Gains records u) (kind : Kind) :
    (t.table kind).slots.keys Table.slotId = (u.table kind).slots.keys Table.slotId := by
  by_cases declared : kind ∈ s.kinds
  · exact (first.tables kind declared).keys.trans (second.tables kind declared).keys.symm
  · have kinds := first.kinds.trans second.kinds.symm
    rw [first.sound.table_eq_of_undeclared second.sound kinds (first.kinds ▸ declared)]

theorem Gains.sameContents (first : s.Gains records t) (second : s.Gains records u) :
    t.SameContents u := by
  have content := first.map_content_eq second
  have contents (kind : Kind) := (first.sound.table kind).valid.map_content_toList
    (second.sound.table kind).valid (first.keys_eq second kind) (content kind)
  have agrees := agrees_of_content (first.kinds.trans second.kinds.symm) content
  refine ⟨agrees.kinds, contents, fun kind => ?_, ?_⟩
  · rw [(first.sound.table kind).valid.live_eq_content, contents,
      ← (second.sound.table kind).valid.live_eq_content]
  · refine agrees.derive_eq first.sound second.sound fun kind => ?_
    rw [Table.records_eq_content, contents, ← Table.records_eq_content]

end Store

/-- What may be done with pieces of a file: a piece is loaded, a new session begins on the store as
it is, or the indices are derived. -/
inductive Stage where
  | piece (feed : Feed)
  | session
  | setUp

namespace Stage

def records : Stage → List Chunk
  | piece feed => feed.records
  | session | setUp => []

/-- A piece that ends properly and begins its own topics. -/
def Whole : Stage → Prop
  | piece feed => feed.failure = none ∧ Dialogue.Headed feed.records
  | session | setUp => True

instance : DecidablePred Whole
  | piece feed => inferInstanceAs (Decidable (feed.failure = none ∧ Dialogue.Headed feed.records))
  | session | setUp => inferInstanceAs (Decidable True)

end Stage

namespace Session

/-- Goes through stages up to the first piece that fails. -/
def proceed : Session → List Stage → Except LoadError Session
  | s, [] => .ok s
  | s, .piece feed :: stages =>
    let step := s.apply feed
    match step.result with
    | .ok _ => step.session.proceed stages
    | .error e => .error e
  | s, .session :: stages => (start s.store).proceed stages
  | s, .setUp :: stages => { s with store := s.store.setUp }.proceed stages

theorem apply_ok {s : Session} {feed : Feed} {stats : FileStats}
    (loaded : (s.store.load feed s.nextIndex).result = .ok stats) :
    (s.apply feed).result = .ok stats ∧
      (s.apply feed).session.store = (s.store.load feed s.nextIndex).store := by
  simp [apply, loaded]

theorem proceed_gains {s : Store} (h : s.Sound) (session : Session) {earlier : List Chunk}
    (gains : s.Gains earlier session.store) {stages : List Stage}
    (whole : ∀ stage ∈ stages, stage.Whole)
    (accepts : s.Accepts (earlier ++ stages.flatMap Stage.records)) :
    ∃ ended, session.proceed stages = .ok ended ∧
      s.Gains (earlier ++ stages.flatMap Stage.records) ended.store := by
  induction stages generalizing session earlier with
  | nil => exact ⟨session, rfl, by simpa using gains⟩
  | cons stage stages ih =>
    obtain ⟨first, rest⟩ := List.forall_mem_cons.mp whole
    rw [List.flatMap_cons, ← List.append_assoc] at accepts ⊢
    cases stage with
    | piece feed =>
      obtain ⟨proper, headed⟩ := first
      have front := (each_append.mp accepts).1
      obtain ⟨⟨stats, loaded⟩, gains⟩ := gains.load h proper headed front session.nextIndex
      obtain ⟨result, store⟩ := apply_ok loaded
      rw [← store] at gains
      rw [proceed, result]
      exact ih _ gains rest accepts
    | session =>
      have same : s.Gains (earlier ++ []) (start session.store).store := by
        rwa [List.append_nil]
      exact ih _ same rest accepts
    | setUp =>
      have same : s.Gains (earlier ++ []) session.store.setUp := by
        rw [List.append_nil]
        exact ⟨gains.sound.of_shelves rfl, gains.kinds, gains.tables⟩
      exact ih _ same rest accepts

end Session

/-- **A file may be cut into pieces.** When a file loads and each of its pieces begins with a header
before any info, the pieces load too, in however many sessions, and leave what the file leaves. -/
theorem Store.load_in_pieces {s : Store} (reachable : s.Reachable) {feed : Feed} {index : Nat}
    {stats : FileStats} (loaded : (s.load feed index).result = .ok stats) {stages : List Stage}
    (cut : stages.flatMap Stage.records = feed.records) (whole : ∀ stage ∈ stages, stage.Whole)
    (files : Array FileStats) (next : Nat) :
    ∃ ended, (Session.mk s next files).proceed stages = .ok ended ∧
      ended.store.SameContents (s.load feed index).store := by
  have h := reachable.sound
  have accepts := ((h.load_succeeds_iff feed index).mp ⟨stats, loaded⟩).2
  obtain ⟨ended, result, gains⟩ := Session.proceed_gains h ⟨s, next, files⟩ h.gains_nil whole
    (by rwa [cut, List.nil_append])
  rw [List.nil_append, cut] at gains
  exact ⟨ended, result, gains.sameContents (h.gains_of_ok loaded)⟩

/-- A topic with an info, a book, and the deletion of both the topic and the info. -/
def loreFeed : Feed where
  name := "lore"
  announced := none
  records := [⟨Kind.dialogue.tag, 0, [0x80]⟩, ⟨Kind.infoTag, 0, [0x80]⟩, ⟨Kind.book.tag, 0, [0x80]⟩,
    ⟨Kind.dialogue.tag, Chunk.deletedFlag, [0x80]⟩, ⟨Kind.infoTag, Chunk.deletedFlag, [0x80]⟩]
  failure := none

/-- The deletions come in a session of their own, after the indices were derived. -/
def loreStages : List Stage := [
  .piece ⟨"lore, part 1", none, loreFeed.records.take 2, none⟩,
  .piece ⟨"lore, part 2", some 1, (loreFeed.records.drop 2).take 1, none⟩,
  .setUp, .session, .setUp,
  .piece ⟨"lore, part 3", none, loreFeed.records.drop 3, none⟩]

theorem Store.load_in_pieces_lore :
    ∃ stats ended, (Store.new.load loreFeed 5).result = .ok stats ∧
      (Session.start Store.new).proceed loreStages = .ok ended ∧
      ended.store.SameContents (Store.new.load loreFeed 5).store := by
  obtain ⟨stats, loaded⟩ : ∃ stats, (Store.new.load loreFeed 5).result = .ok stats := ⟨_, by rfl⟩
  have whole : ∀ stage ∈ loreStages, stage.Whole := by
    decide
  obtain ⟨ended, result, same⟩ := Store.load_in_pieces .new loaded (by rfl) whole #[] 0
  exact ⟨stats, ended, loaded, result, same⟩

end ContentLayers
