import ContentLayers.Proofs.Acceptance
import ContentLayers.Proofs.InfoSlots
import ContentLayers.Proofs.Replacement
import ContentLayers.Proofs.TopicHistory

/-!
# What a file leaves in a table

The table of a kind after a file is decided by the table before it and by the records of the file:
new ids come after those that were there, the records for an id are laid over what its slot held,
and infos go on to the slots of the topics that they follow.
-/

namespace ContentLayers

open History

namespace Kind

/-- What a slot has from the records for its id. -/
def own (kind : Kind) (slot : Slot kind.Carrier) : kind.Carrier × Bool :=
  (kind.bare slot.record, slot.live)

end Kind

namespace Chunk

/-- What a record leaves in the table of a kind: a record and whether it is live. -/
def content? (kind : Kind) (c : Chunk) : Option (kind.Carrier × Bool) :=
  if c.tag = kind.tag then (decodePayload c.payload).toOption.map (·, !c.isDeleted) else none

variable {kind : Kind} {c : Chunk}

theorem content?_decoded {record : kind.Carrier} (named : c.tag = kind.tag)
    (decoded : decodePayload c.payload = .ok record) :
    c.content? kind = some (record, !c.isDeleted) := by
  rw [content?, if_pos named, decoded]
  rfl

theorem content?_eq_none (other : c.tag ≠ kind.tag) : c.content? kind = none := by
  rw [content?, if_neg other]

theorem content?_of_header? {header : Topic} (held : c.header? = some header) :
    c.content? .dialogue = some (header, !c.isDeleted) := by
  rw [header?] at held
  split at held
  · rename_i named
    rw [content?, if_pos named]
    exact congrArg (Option.map _) held
  · cases held

end Chunk

namespace Kind

def contentId (kind : Kind) (content : kind.Carrier × Bool) : String := Record.id content.1

@[simp] theorem contentId_mk {kind : Kind} (record : kind.Carrier) (live : Bool) :
    kind.contentId (record, live) = Record.id record := rfl

/-- What the records of a file leave in the table of a kind. -/
def contents (kind : Kind) (records : List Chunk) : List (kind.Carrier × Bool) :=
  records.filterMap (Chunk.content? kind)

/-- What the records of a file leave under one id. -/
def contentsOf (kind : Kind) (records : List Chunk) (id : String) : List (kind.Carrier × Bool) :=
  (kind.contents records).filter fun content => sameFolded (kind.contentId content) id

/-- The infos of a file that follow headers with an id. -/
def infosOf (kind : Kind) (records : List Chunk) (id : String) : List InfoWrite :=
  if kind = .dialogue then Dialogue.infosOf (Dialogue.attributed records) id else []

/-- The infos gathered under an id. -/
def infosAt (kind : Kind) (t : Table kind.Carrier) (id : String) : Roster InfoSlot :=
  ((t.slots.find? id).map fun slot => kind.infoSlots slot.record).getD .empty

/-- The table after a file, told from the table before it and the records of the file. -/
structure Gains (kind : Kind) (records : List Chunk) (old new : Table kind.Carrier) : Prop where
  keys : new.slots.keys Table.slotId = (old.slots.keys Table.slotId ++
    (kind.contents records).map fun content => fold (kind.contentId content)).eraseDups
  own : ∀ q, (new.slots.find? q).map kind.own =
    kind.layAll ((old.slots.find? q).map kind.own) (kind.contentsOf records q)
  infos : ∀ q, kind.infosAt new q =
    InfoWrite.mergeAll (kind.infosAt old q) (kind.infosOf records q)

end Kind

namespace Loading

/-- What a record does to the table of a kind. -/
inductive TableStep (kind : Kind) (l : Loading Store) (c : Chunk) (next : Loading Store) : Prop
  | written (w : Write kind.Carrier) (content : c.content? kind = some (w.record, !w.deleted))
      (noInfo : c.infoWrite? = none) (empty : kind.infoSlots w.record = .empty)
      (origin : w.origin = some l.stats.index)
      (changed : next.store.table kind = ((l.store.table kind).write w).1)
  | merged (w : InfoWrite) (id : String) (slot new : Slot kind.Carrier) (topics : kind = .dialogue)
      (noContent : c.content? kind = none) (held : c.infoWrite? = some w)
      (opened : l.active = some id)
      (found : (l.store.table kind).slots.find? id = some slot)
      (changed : next.store.table kind =
        { l.store.table kind with slots := (l.store.table kind).slots.put id new })
      (own : kind.own new = kind.own slot) (origin : new.origin = slot.origin)
      (infos : kind.infoSlots new.record = InfoWrite.merged (kind.infoSlots slot.record) w)
  | other (noContent : c.content? kind = none) (noInfo : kind = .dialogue → c.infoWrite? = none)
      (same : next.store.table kind = l.store.table kind)

variable {l m next : Loading Store} {c : Chunk} {kind : Kind} {records : List Chunk}

theorem TableStep.of_decoded {record : kind.Carrier} (noInfo : kind.tag ≠ Kind.infoTag)
    (named : c.tag = kind.tag) (decoded : decodePayload c.payload = .ok record)
    (changed : next.store.table kind = ((l.store.table kind).write (l.writeOf c record)).1) :
    TableStep kind l c next :=
  .written (l.writeOf c record) (Chunk.content?_decoded named decoded)
    (Chunk.infoWrite?_eq_none (named.trans_ne noInfo)) (Kind.infoSlots_decoded decoded) rfl changed

theorem Step.topic_table (h : Step l c next) (declared : (l.store.table? .dialogue).isSome = true) :
    TableStep .dialogue l c next := by
  cases h.topics declared with
  | header topic named decoded _ written =>
    exact .of_decoded Kind.infoTag_ne_dialogue.symm named decoded written
  | info info merge named decoded _ merged =>
    obtain ⟨id, slot, opened, found, changed, _⟩ := Table.mergeInfo_eq_some.mp merged
    have held := Chunk.infoWrite?_decoded named decoded
    have noContent : c.content? .dialogue = none :=
      Chunk.content?_eq_none (named.trans_ne Kind.infoTag_ne_dialogue)
    refine .merged ⟨info, c.isDeleted⟩ id slot _ rfl noContent held opened found changed ?_ rfl ?_
    · simp [Kind.own, Kind.bare, Table.mergedSlot]
    · exact slot.record.slots_merge ⟨info, c.isDeleted⟩
  | other other noInfo _ same =>
    exact .other (Chunk.content?_eq_none other) (fun _ => Chunk.infoWrite?_eq_none noInfo) same

theorem Step.table (h : Step l c next) (sound : l.Sound)
    (declared : (l.store.table? kind).isSome = true) : TableStep kind l c next := by
  by_cases topics : kind = .dialogue
  · subst topics
    exact h.topic_table declared
  have away (tag : Tag) (other : kind.tag ≠ tag) (named : c.tag = tag) : c.content? kind = none :=
    Chunk.content?_eq_none (named.trans_ne other.symm)
  cases h with
  | topic topic named decoded =>
    have apart : kind.tag ≠ Kind.dialogue.tag := fun same =>
      topics (Store.eq_of_tag declared sound.store.dialogue same)
    exact .other (away _ apart named) (fun same => absurd same topics)
      (Store.table_setShelf_of_ne sound.store.dialogue (Ne.symm topics))
  | info info _ _ named =>
    have apart := sound.store.tag_ne_infoTag declared
    exact .other (away _ apart named) (fun same => absurd same topics)
      (Store.table_setShelf_of_ne sound.store.dialogue (Ne.symm topics))
  | record held table record _ _ found decoded =>
    have known := Store.isSome_table?_of_shelf? found
    have named : held.tag = c.tag := (Store.shelf?_eq_some found).2
    by_cases same : held = kind
    · subst same
      rw [← named] at found
      have here : l.store.table held = table := by
        rw [Store.table, Store.table?_eq_some.mpr found, Option.getD_some]
      refine .of_decoded (sound.store.tag_ne_infoTag declared) named.symm decoded ?_
      rw [here]
      exact Store.table_setShelf known
    · have apart : kind.tag ≠ held.tag := fun tagged =>
        same (Store.eq_of_tag known declared tagged.symm)
      exact .other (away _ apart named.symm) (fun same => absurd same topics)
        (Store.table_setShelf_of_ne known same)
  | skipped _ _ unknown =>
    have apart : kind.tag ≠ c.tag := by
      intro tagged
      obtain ⟨table, found⟩ := Option.isSome_iff_exists.mp declared
      rw [Store.table?_eq_some, tagged, unknown] at found
      cases found
    exact .other (away _ apart rfl) (fun same => absurd same topics) rfl

end Loading

namespace Kind

variable {kind : Kind} {records : List Chunk} {c : Chunk} {t old new : Table kind.Carrier}
  {q : String}

theorem contents_concat :
    kind.contents (records ++ [c]) = kind.contents records ++ (c.content? kind).toList := by
  cases held : c.content? kind <;> simp [contents, held]

theorem contentsOf_concat_of_some {content : kind.Carrier × Bool}
    (held : c.content? kind = some content) :
    kind.contentsOf (records ++ [c]) q =
      if fold (kind.contentId content) = fold q then kind.contentsOf records q ++ [content]
      else kind.contentsOf records q := by
  simp only [contentsOf, contents_concat, held, Option.toList_some, List.filter_append,
    List.filter_cons, List.filter_nil, sameFolded_iff]
  split
  · rfl
  · rw [List.append_nil]

/-- No record for an id. -/
theorem contentsOf_eq_nil :
    kind.contentsOf records q = [] ↔ last? kind.contentId (kind.contents records) q = none := by
  simp [contentsOf, last?]

theorem infosOf_concat_of_none (noInfo : kind = .dialogue → c.infoWrite? = none) :
    kind.infosOf (records ++ [c]) q = kind.infosOf records q := by
  rw [infosOf, infosOf]
  split
  · rename_i topics
    simp [Dialogue.attributed_concat, Dialogue.owned, noInfo topics]
  · rfl

/-- An info goes to the topic of the last header. -/
theorem infosOf_concat_of_some {w : InfoWrite} {id : String} (topics : kind = .dialogue)
    (held : c.infoWrite? = some w)
    (opened : (Dialogue.headers records).getLast?.map Topic.id = some id) :
    kind.infosOf (records ++ [c]) q =
      if fold id = fold q then kind.infosOf records q ++ [w] else kind.infosOf records q := by
  obtain ⟨header, last, rfl⟩ := Option.map_eq_some_iff.mp opened
  have owned : Dialogue.owned records c = some (header, w) := by
    simp [Dialogue.owned, last, held]
  rw [infosOf, if_pos topics, infosOf, if_pos topics, Dialogue.attributed_concat, owned]
  exact Dialogue.infosOf_concat _ _ _ _

theorem gains_nil (h : t.Valid) : kind.Gains [] t t where
  keys := by simpa [contents] using (eraseDups_of_nodup h.slots.nodup_keys).symm
  own q := by simp [contentsOf, contents, layAll]
  infos q := by
    rw [infosOf]
    split <;> simp [Dialogue.infosOf, Dialogue.attributed, InfoWrite.mergeAll]

theorem infosAt_settled (t : Table kind.Carrier) {w : Write kind.Carrier}
    (bare : kind.infoSlots w.record = .empty) :
    kind.infoSlots (t.settled w).record = kind.infosAt t (Record.id w.record) := by
  rw [infosAt]
  obtain ⟨unknown, fresh⟩ | ⟨old, found, taken⟩ := Table.settled_cases t w
  · rw [unknown, fresh]
    exact bare
  · rw [found, taken]
    exact infoSlots_inherit

theorem infosAt_congr {id : String} (same : fold q = fold id) :
    kind.infosAt t q = kind.infosAt t id := by
  rw [infosAt, infosAt, ← Roster.find?_fold, same, Roster.find?_fold]

/-- A record is written over what its id had. -/
theorem own_settled (t : Table kind.Carrier) (w : Write kind.Carrier) :
    kind.own (t.settled w) =
      kind.laid ((t.slots.find? (Record.id w.record)).map kind.own) (w.record, !w.deleted) := by
  rw [own, Table.live_settled]
  obtain ⟨unknown, fresh⟩ | ⟨old, found, taken⟩ := Table.settled_cases t w
  · rw [unknown, fresh]
    rfl
  · rw [found, taken, Option.map_some, laid, own, bare_inherit_bare]

theorem Gains.written (h : kind.Gains records old t) (valid : t.Valid) {w : Write kind.Carrier}
    (content : c.content? kind = some (w.record, !w.deleted)) (noInfo : c.infoWrite? = none)
    (empty : kind.infoSlots w.record = .empty) :
    kind.Gains (records ++ [c]) old (t.write w).1 := by
  have listed :
      kind.contents (records ++ [c]) = kind.contents records ++ [(w.record, !w.deleted)] := by
    rw [contents_concat, content]
    rfl
  refine ⟨?_, fun q => ?_, fun q => ?_⟩
  · rw [valid.keys_write kind.keepsId, h.keys, listed, List.map_append, ← List.append_assoc,
      List.map_singleton, eraseDups_concat]
    simp only [List.mem_eraseDups]
    rfl
  · rw [valid.find?_write kind.keepsId, contentsOf_concat_of_some content, contentId_mk]
    by_cases same : fold q = fold (Record.id w.record)
    · have here : t.slots.find? (Record.id w.record) = t.slots.find? q := by
        rw [← Roster.find?_fold, ← same, Roster.find?_fold]
      rw [if_pos same, if_pos same.symm, layAll_concat, ← h.own, Option.map_some, own_settled, here]
    · rw [if_neg same, if_neg (Ne.symm same)]
      exact h.own q
  · rw [infosOf_concat_of_none fun _ => noInfo, ← h.infos, infosAt, valid.find?_write kind.keepsId]
    split
    · rename_i same
      rw [infosAt_congr same, ← infosAt_settled t empty]
      rfl
    · rfl

theorem slotId_of_own (valid : t.Valid) {id : String} {slot changed : Slot kind.Carrier}
    (found : t.slots.find? id = some slot) (own : kind.own changed = kind.own slot) :
    fold (Table.slotId changed) = fold id := by
  have bare := congrArg (fun own : kind.Carrier × Bool => Record.id own.1) own
  simp only [Kind.own, id_bare] at bare
  rw [← (valid.slots.find?_eq_some.mp found).2]
  exact congrArg fold bare

/-- An info that is merged changes the infos of one id and nothing else. -/
theorem Gains.merged (h : kind.Gains records old t) (valid : t.Valid) {w : InfoWrite} {id : String}
    {slot changed : Slot kind.Carrier} (noContent : c.content? kind = none)
    (infosOf : ∀ q, kind.infosOf (records ++ [c]) q =
      if fold id = fold q then kind.infosOf records q ++ [w] else kind.infosOf records q)
    (found : t.slots.find? id = some slot) (own : kind.own changed = kind.own slot)
    (infos : kind.infoSlots changed.record = InfoWrite.merged (kind.infoSlots slot.record) w) :
    kind.Gains (records ++ [c]) old { t with slots := t.slots.put id changed } := by
  have listed : kind.contents (records ++ [c]) = kind.contents records := by
    rw [contents_concat, noContent, Option.toList_none, List.append_nil]
  have hid := slotId_of_own valid found own
  refine ⟨?_, fun q => ?_, fun q => ?_⟩
  · have known : fold id ∈ t.slots.keys Table.slotId :=
      valid.slots.isSome_find?.mp (by simp [found])
    rw [listed, ← h.keys]
    exact (valid.slots.keys_put hid).trans (if_pos known)
  · rw [contentsOf, listed, ← contentsOf, ← h.own]
    exact valid.slots.map_find?_put hid found own
  · rw [infosOf q]
    show (((t.slots.put id changed).find? q).map fun slot => kind.infoSlots slot.record).getD _ = _
    rw [valid.slots.find?_put hid]
    by_cases same : fold q = fold id
    · rw [if_pos same, if_pos same.symm, InfoWrite.mergeAll_append, ← h.infos, infosAt_congr same,
        infosAt, found]
      exact infos
    · rw [if_neg same, if_neg (Ne.symm same), ← h.infos]
      rfl

theorem Gains.other (h : kind.Gains records old t) (noContent : c.content? kind = none)
    (noInfo : kind = .dialogue → c.infoWrite? = none) : kind.Gains (records ++ [c]) old t := by
  have listed : kind.contents (records ++ [c]) = kind.contents records := by
    rw [contents_concat, noContent, Option.toList_none, List.append_nil]
  refine ⟨?_, fun q => ?_, fun q => ?_⟩
  · rw [listed, h.keys]
  · rw [contentsOf, listed, ← contentsOf, h.own]
  · rw [infosOf_concat_of_none noInfo, h.infos]

/-- The last record for an id tells whether it is live. -/
theorem Gains.live (h : kind.Gains records old new) (q : String) :
    (new.slots.find? q).map (·.live) =
      ((last? kind.contentId (kind.contents records) q).map (·.2)).or
        ((old.slots.find? q).map (·.live)) := by
  have live := congrArg (Option.map (·.2)) (h.own q)
  rw [layAll_live, Option.map_map, Option.map_map] at live
  exact live

/-- An info that goes to an id follows a header of the file with that id. -/
theorem infosOf_eq_nil (silent : last? kind.contentId (kind.contents records) q = none) :
    kind.infosOf records q = [] := by
  rw [infosOf]
  split
  · rename_i topics
    subst topics
    have headers := last?_eq_none.mp silent
    rw [Dialogue.infosOf, List.map_eq_nil_iff, List.filter_eq_nil_iff]
    rintro ⟨header, w⟩ mem
    obtain ⟨c, mem, held⟩ := List.mem_filterMap.mp (Dialogue.mem_headers_of_attributed mem)
    have content := Chunk.content?_of_header? held
    have other := headers _ (List.mem_filterMap.mpr ⟨c, mem, content⟩)
    rw [contentId_mk] at other
    have id : Record.id header = header.id := rfl
    simpa [sameFolded_iff, id] using other
  · rfl

/-- What two tables have under an id comes from the same records and has the same infos. -/
structure Alike (kind : Kind) (t u : Table kind.Carrier) (q : String) : Prop where
  own : (t.slots.find? q).map kind.own = (u.slots.find? q).map kind.own
  infos : kind.infosAt t q = kind.infosAt u q

variable {u : Table kind.Carrier}

theorem Alike.symm (h : kind.Alike t u q) : kind.Alike u t q := ⟨h.own.symm, h.infos.symm⟩

theorem Alike.trans {v : Table kind.Carrier} (h : kind.Alike t u q) (h' : kind.Alike u v q) :
    kind.Alike t v q :=
  ⟨h.own.trans h'.own, h.infos.trans h'.infos⟩

theorem Alike.map_content_eq (h : kind.Alike t u q) :
    (t.slots.find? q).map Slot.content = (u.slots.find? q).map Slot.content := by
  have own := h.own
  have infos := h.infos
  simp only [infosAt] at infos
  cases found : t.slots.find? q with
  | none =>
    rw [found] at own
    rw [Option.map_eq_none_iff.mp own.symm]
  | some slot =>
    rw [found] at own infos
    obtain ⟨other, found', same⟩ := Option.map_eq_some_iff.mp own.symm
    rw [found'] at infos ⊢
    simp only [Kind.own, Prod.mk.injEq] at same
    simp [Slot.content, ext_record same.1.symm infos, same.2]

/-- The same records do the same to tables that are alike. -/
theorem Gains.alike {old' new' : Table kind.Carrier} (h : kind.Gains records old new)
    (h' : kind.Gains records old' new') (same : kind.Alike old old' q) : kind.Alike new new' q where
  own := by rw [h.own, h'.own, same.own]
  infos := by rw [h.infos, h'.infos, same.infos]

/-- Records for other ids leave an id alone. -/
theorem Gains.alike_of_silent (h : kind.Gains records old new)
    (silent : last? kind.contentId (kind.contents records) q = none) : kind.Alike new old q where
  own := by
    rw [h.own, contentsOf_eq_nil.mpr silent]
    rfl
  infos := by rw [h.infos, infosOf_eq_nil silent, InfoWrite.mergeAll, List.foldl_nil]

end Kind

namespace Loading

variable {l m : Loading Store} {kind : Kind} {records : List Chunk}

theorem Applies.declared (h : l.Sound) (applied : Applies l records m)
    (declared : (l.store.table? kind).isSome = true) : (m.store.table? kind).isSome = true := by
  rw [(applied.sound h).store.isSome_table?, applied.kinds h, ← h.store.isSome_table?]
  exact declared

theorem Applies.gains (h : l.Sound) (applied : Applies l records m) (fresh : l.active = none)
    (declared : (l.store.table? kind).isSome = true) :
    kind.Gains records (l.store.table kind) (m.store.table kind) := by
  induction applied with
  | nil => exact Kind.gains_nil (h.store.table kind).valid
  | @concat records m next c earlier step ih =>
    have sound := earlier.sound h
    have declared := earlier.declared h declared
    have valid := (sound.store.table kind).valid
    cases (Step.of_apply step).table sound declared with
    | written w content noInfo empty _ changed =>
      rw [changed]
      exact ih.written valid content noInfo empty
    | merged w id slot new topics noContent held opened found changed own _ infos =>
      have opened := (earlier.active_eq h fresh).symm.trans opened
      rw [changed]
      exact ih.merged valid noContent (fun q => Kind.infosOf_concat_of_some topics held opened)
        found own infos
    | other noContent noInfo same =>
      rw [same]
      exact ih.other noContent noInfo

/-- A slot is from the last file that wrote a record for its id. -/
theorem Applies.origin (h : l.Sound) (applied : Applies l records m)
    (declared : (l.store.table? kind).isSome = true) (q : String) :
    ((m.store.table kind).slots.find? q).map (·.origin) =
      ((last? kind.contentId (kind.contents records) q).map fun _ => some l.stats.index).or
        (((l.store.table kind).slots.find? q).map (·.origin)) := by
  induction applied with
  | nil => simp [Kind.contents, last?]
  | @concat records m next c earlier step ih =>
    have sound := earlier.sound h
    have declared := earlier.declared h declared
    have valid := (sound.store.table kind).valid
    rw [Kind.contents_concat]
    cases (Step.of_apply step).table sound declared with
    | written w content _ _ origin changed =>
      rw [changed, valid.find?_write kind.keepsId, content, Option.toList_some, last?_concat,
        Kind.contentId_mk]
      by_cases same : fold q = fold (Record.id w.record)
      · rw [if_pos same, if_pos same.symm]
        simp [origin, earlier.counts.1]
      · rw [if_neg same, if_neg (Ne.symm same), ih]
    | merged w id slot new _ noContent _ _ found changed own origin =>
      rw [noContent, Option.toList_none, List.append_nil, ← ih, changed]
      exact valid.slots.map_find?_put (Kind.slotId_of_own valid found own) found origin
    | other noContent _ same => rw [same, noContent, Option.toList_none, List.append_nil, ih]

end Loading

namespace Store

variable {s : Store} {kind : Kind} {feed : Feed} {index : Nat}

theorem Sound.origin_load (h : s.Sound) (declared : kind ∈ s.kinds) (feed : Feed) (index : Nat)
    (q : String) :
    (((s.load feed index).store.table kind).slots.find? q).map (·.origin) =
      ((last? kind.contentId (kind.contents (feed.records.take (s.load feed index).applied)) q).map
        fun _ => some index).or (((s.table kind).slots.find? q).map (·.origin)) := by
  obtain ⟨m, applied, store, _⟩ := load_spec h.distinct feed index
  rw [store]
  exact applied.origin (Loading.sound_start h feed.name index) (h.isSome_table?.mpr declared) q

/-- The tables of the second store are those of the first after some records. -/
structure Gains (s : Store) (records : List Chunk) (t : Store) : Prop where
  sound : t.Sound
  kinds : t.kinds = s.kinds
  tables : ∀ kind ∈ s.kinds, kind.Gains records (s.table kind) (t.table kind)

theorem Sound.gains_nil (h : s.Sound) : s.Gains [] s where
  sound := h
  kinds := rfl
  tables kind _ := Kind.gains_nil (h.table kind).valid

theorem Sound.gains_load (h : s.Sound) (feed : Feed) (index : Nat) :
    s.Gains (feed.records.take (s.load feed index).applied) (s.load feed index).store where
  sound := h.load feed index
  kinds := h.kinds_load feed index
  tables kind declared := by
    obtain ⟨m, applied, store, _⟩ := load_spec h.distinct feed index
    rw [store]
    exact applied.gains (Loading.sound_start h feed.name index) rfl (h.isSome_table?.mpr declared)

/-- A load that succeeds applies all records. -/
theorem Sound.gains_of_ok (h : s.Sound) {stats : FileStats}
    (loaded : (s.load feed index).result = .ok stats) :
    s.Gains feed.records (s.load feed index).store := by
  have gains := h.gains_load feed index
  obtain ⟨_, _, _, ⟨all, _⟩ | ⟨_, e, _, _, failed⟩⟩ := load_spec h.distinct feed index
  · rwa [all, List.take_length] at gains
  · rw [loaded] at failed
    cases failed

end Store

end ContentLayers
