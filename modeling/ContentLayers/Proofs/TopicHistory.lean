import ContentLayers.Proofs.Acceptance

/-!
# Topics as histories

Loading files one after the other gathers in each topic the infos that follow its headers, whatever
became of the headers.
-/

namespace ContentLayers

open History

namespace Chunk

/-- The topic header that a record holds. -/
def header? (c : Chunk) : Option Topic :=
  if c.tag = Kind.dialogue.tag then (decodePayload c.payload).toOption else none

/-- The info that a record holds, or deletes. -/
def infoWrite? (c : Chunk) : Option InfoWrite :=
  if c.tag = Kind.infoTag then
    (decodePayload c.payload).toOption.map fun info => ⟨info, c.isDeleted⟩
  else none

variable {c : Chunk}

theorem header?_decoded {topic : Topic} (named : c.tag = Kind.dialogue.tag)
    (decoded : decodePayload c.payload = .ok topic) : c.header? = some topic := by
  rw [header?, if_pos named, decoded]
  rfl

theorem infoWrite?_decoded {info : Info} (named : c.tag = Kind.infoTag)
    (decoded : decodePayload c.payload = .ok info) : c.infoWrite? = some ⟨info, c.isDeleted⟩ := by
  rw [infoWrite?, if_pos named, decoded]
  rfl

theorem header?_eq_none (other : c.tag ≠ Kind.dialogue.tag) : c.header? = none := by
  rw [header?, if_neg other]

theorem infoWrite?_eq_none (noInfo : c.tag ≠ Kind.infoTag) : c.infoWrite? = none := by
  rw [infoWrite?, if_neg noInfo]

end Chunk

namespace Dialogue

/-- The topic headers of a file. -/
def headers (records : List Chunk) : List Topic := records.filterMap Chunk.header?

/-- The info of a record after others, with the closest header before it. -/
def owned (earlier : List Chunk) (c : Chunk) : Option (Topic × InfoWrite) :=
  (headers earlier).getLast?.bind fun header => c.infoWrite?.map (header, ·)

/-- The infos of a file in order, each with the closest header before it. -/
def attributed (records : List Chunk) : List (Topic × InfoWrite) :=
  (List.range records.length).filterMap fun i => records[i]?.bind (owned (records.take i))

/-- The infos attributed to the headers of a topic. -/
def infosOf (attributed : List (Topic × InfoWrite)) (id : String) : List InfoWrite :=
  (attributed.filter fun entry => sameFolded entry.1.id id).map (·.2)

variable {records : List Chunk} {c : Chunk}

theorem headers_concat : headers (records ++ [c]) = headers records ++ c.header?.toList := by
  cases held : c.header? <;> simp [headers, held]

theorem attributed_concat :
    attributed (records ++ [c]) = attributed records ++ (owned records c).toList :=
  select_concat owned records c

/-- Infos are attributed to headers of their file. -/
theorem mem_headers_of_attributed {entry : Topic × InfoWrite} (mem : entry ∈ attributed records) :
    entry.1 ∈ headers records := by
  induction records using List.reverseRecOn with
  | nil => simp [attributed] at mem
  | append_singleton records c ih =>
    rw [attributed_concat, List.mem_append, Option.mem_toList] at mem
    rw [headers_concat]
    apply List.mem_append_left
    obtain earlier | last := mem
    · exact ih earlier
    · obtain ⟨header, closest, w⟩ := Option.bind_eq_some_iff.mp last
      obtain ⟨_, _, rfl⟩ := Option.map_eq_some_iff.mp w
      exact List.mem_of_getLast? closest

theorem infosOf_concat (entries : List (Topic × InfoWrite)) (header : Topic) (w : InfoWrite)
    (id : String) :
    infosOf (entries ++ [(header, w)]) id =
      if fold header.id = fold id then infosOf entries id ++ [w] else infosOf entries id := by
  by_cases same : fold header.id = fold id <;> simp [infosOf, sameFolded, same]

theorem infosOf_congr (entries : List (Topic × InfoWrite)) {id other : String}
    (same : fold id = fold other) : infosOf entries id = infosOf entries other := by
  simp [infosOf, sameFolded, same]

/-- The topics are what headers and attributed infos tell. -/
structure Tells (headers : List Topic) (entries : List (Topic × InfoWrite))
    (topics : Table Topic) : Prop where
  valid : topics.Valid
  absent : ∀ id, topics.slots.find? id = none →
    last? Topic.id headers id = none ∧ infosOf entries id = []
  held : ∀ id slot, topics.slots.find? id = some slot →
    (last? Topic.id headers id).map Topic.header = some slot.record.header ∧
      slot.record.Gathers (infosOf entries id)

theorem tells_empty : Tells [] [] .empty where
  valid := Table.valid_empty
  absent _ _ := ⟨rfl, rfl⟩
  held id slot found := by simp [Table.empty] at found

variable {hs : List Topic} {entries : List (Topic × InfoWrite)} {topics next : Table Topic}

/-- A header takes over the infos of the topic with its id, or has none. -/
theorem Tells.settled (h : Tells hs entries topics) {w : Write Topic}
    (bare : w.record.slots = .empty) :
    (topics.settled w).record.Gathers (infosOf entries w.record.id) := by
  obtain ⟨unknown, fresh⟩ | ⟨old, found, taken⟩ := Table.settled_cases topics w
  · rw [fresh, (h.absent w.record.id unknown).2]
    exact Topic.gathers_nil bare
  · rw [taken]
    exact (h.held w.record.id old found).2.of_slots rfl

/-- A header that is written, or deletes its topic, keeps the infos. -/
theorem Tells.header (h : Tells hs entries topics) {w : Write Topic}
    (bare : w.record.slots = .empty) :
    Tells (hs ++ [w.record]) entries (topics.write w).1 := by
  have keeps := Topic.decides_header.keepsId
  refine ⟨h.valid.write keeps, fun id unknown => ?_, fun id slot found => ?_⟩
  · rw [h.valid.find?_write keeps] at unknown
    split at unknown
    · cases unknown
    rename_i other
    have apart : fold w.record.id ≠ fold id := fun same => other same.symm
    rw [last?_concat, if_neg apart]
    exact h.absent id unknown
  · rw [h.valid.find?_write keeps] at found
    split at found
    · rename_i same
      have here : fold w.record.id = fold id := same.symm
      obtain rfl := Option.some.inj found
      rw [last?_concat, if_pos here, Table.view_settled Topic.decides_header,
        infosOf_congr entries same]
      exact ⟨rfl, h.settled bare⟩
    · rename_i other
      have apart : fold w.record.id ≠ fold id := fun same => other same.symm
      rw [last?_concat, if_neg apart]
      exact h.held id slot found

theorem Tells.info (h : Tells hs entries topics) {header : Topic} {info : Info} {deleted : Bool}
    {merge : InfoMerge}
    (merged : topics.mergeInfo (some header.id) info deleted = some (next, merge)) :
    Tells hs (entries ++ [(header, ⟨info, deleted⟩)]) next := by
  obtain ⟨id, slot, named, found, rfl, _⟩ := Table.mergeInfo_eq_some.mp merged
  obtain rfl := Option.some.inj named
  have hid := h.valid.slotId_mergedSlot found info deleted
  refine ⟨h.valid.change found hid rfl, fun other unknown => ?_, fun other held place => ?_⟩
  · rw [h.valid.slots.find?_put hid] at unknown
    split at unknown
    · cases unknown
    rename_i apart
    rw [infosOf_concat, if_neg fun same => apart same.symm]
    exact h.absent other unknown
  · rw [h.valid.slots.find?_put hid] at place
    split at place
    · rename_i same
      obtain rfl := Option.some.inj place
      obtain ⟨headed, gathers⟩ := h.held _ slot found
      rw [last?_congr same, infosOf_concat, if_pos same.symm, infosOf_congr entries same, headed]
      exact ⟨by simp [Topic.header, Table.mergedSlot], gathers.merge ⟨info, deleted⟩⟩
    · rename_i apart
      rw [infosOf_concat, if_neg fun same => apart same.symm]
      exact h.held other held place

end Dialogue

namespace Loading

variable {l m : Loading Store} {records : List Chunk}

/-- The active topic is that of the last header. -/
theorem Applies.active_eq (h : l.Sound) (applied : Applies l records m) (fresh : l.active = none) :
    m.active = (Dialogue.headers records).getLast?.map Topic.id := by
  induction applied with
  | nil => exact fresh
  | concat earlier step ih =>
    rw [Dialogue.headers_concat]
    cases (Step.of_apply step).topics (earlier.sound h).store.dialogue with
    | header topic named decoded opened => simp [opened, Chunk.header?_decoded named decoded]
    | info _ _ named _ kept =>
      have noHeader := Chunk.header?_eq_none (named.trans_ne Kind.infoTag_ne_dialogue)
      simp [kept, ih, noHeader]
    | other other _ kept => simp [kept, ih, Chunk.header?_eq_none other]

/-- The topics are those of all headers and infos so far. -/
theorem Applies.tells {hs : List Topic} {entries : List (Topic × InfoWrite)} (h : l.Sound)
    (applied : Applies l records m) (fresh : l.active = none)
    (tells : Dialogue.Tells hs entries (l.store.table .dialogue)) :
    Dialogue.Tells (hs ++ Dialogue.headers records) (entries ++ Dialogue.attributed records)
      (m.store.table .dialogue) := by
  induction applied with
  | nil => simpa [Dialogue.headers, Dialogue.attributed] using tells
  | @concat records m next c earlier step ih =>
    rw [Dialogue.headers_concat, Dialogue.attributed_concat, ← List.append_assoc,
      ← List.append_assoc]
    cases (Step.of_apply step).topics (earlier.sound h).store.dialogue with
    | header topic named decoded _ written =>
      have noInfo := Chunk.infoWrite?_eq_none (named.trans_ne Kind.infoTag_ne_dialogue.symm)
      have noEntry : Dialogue.owned records c = none := by simp [Dialogue.owned, noInfo]
      have bare : (m.writeOf c topic).record.slots = .empty := by
        obtain ⟨id, kind, rfl⟩ := decodePayload_topic decoded
        rfl
      rw [Chunk.header?_decoded named decoded, noEntry, written, Option.toList_none,
        List.append_nil]
      exact ih.header bare
    | info info merge named decoded _ merged =>
      have noHeader := Chunk.header?_eq_none (named.trans_ne Kind.infoTag_ne_dialogue)
      -- an info is merged only after a header of its file
      obtain ⟨id, _, opened, _⟩ := Table.mergeInfo_eq_some.mp merged
      obtain ⟨header, last, rfl⟩ :=
        Option.map_eq_some_iff.mp ((earlier.active_eq h fresh).symm.trans opened)
      have attributed : Dialogue.owned records c = some (header, ⟨info, c.isDeleted⟩) := by
        simp [Dialogue.owned, last, Chunk.infoWrite?_decoded named decoded]
      rw [opened] at merged
      rw [noHeader, attributed, Option.toList_none, List.append_nil]
      exact ih.info merged
    | other other noInfo _ same =>
      have noHeader := Chunk.header?_eq_none other
      have noEntry : Dialogue.owned records c = none := by
        simp [Dialogue.owned, Chunk.infoWrite?_eq_none noInfo]
      rw [noHeader, noEntry, same]
      simpa using ih

end Loading

namespace Store

/-- The store after files that are loaded in order, each with its index. -/
def loadAll (s : Store) : List (Feed × Nat) → Store
  | [] => s
  | (feed, index) :: files => (s.load feed index).store.loadAll files

/-- The records that each of the files gets applied. -/
def appliedAll (s : Store) : List (Feed × Nat) → List (List Chunk)
  | [] => []
  | (feed, index) :: files =>
    feed.records.take (s.load feed index).applied :: (s.load feed index).store.appliedAll files

/-- What each of the files comes to. -/
def resultsAll (s : Store) : List (Feed × Nat) → List (Except FormatError FileStats)
  | [] => []
  | (feed, index) :: files =>
    (s.load feed index).result :: (s.load feed index).store.resultsAll files

/-- Of each file those records are applied that the store takes before any of the files. -/
theorem Sound.takes_appliedAll {s t : Store} (h : s.Sound) (h' : t.Sound) (same : s.kinds = t.kinds)
    (files : List (Feed × Nat)) :
    List.Forall₂ (fun file taken => t.Takes file.1 taken.1 taken.2) files
      ((s.appliedAll files).zip (s.resultsAll files)) := by
  induction files generalizing s with
  | nil => exact .nil
  | cons file files ih =>
    obtain ⟨feed, index⟩ := file
    have first := (h.load_takes feed index).congr h h' same
    have kinds : (s.load feed index).store.kinds = t.kinds := (h.kinds_load feed index).trans same
    exact .cons first (ih (h.load feed index) kinds)

end Store

namespace Dialogue

theorem tells_loadAll {s : Store} (h : s.Sound) {hs : List Topic}
    {entries : List (Topic × InfoWrite)} (tells : Tells hs entries (s.table .dialogue))
    (files : List (Feed × Nat)) :
    Tells (hs ++ (s.appliedAll files).flatMap headers)
      (entries ++ (s.appliedAll files).flatMap attributed) ((s.loadAll files).table .dialogue) := by
  induction files generalizing s hs entries with
  | nil => simpa [Store.appliedAll, Store.loadAll] using tells
  | cons file files ih =>
    obtain ⟨feed, index⟩ := file
    obtain ⟨m, applied, store, _⟩ := Store.load_spec h.distinct feed index
    have began := Loading.sound_start h feed.name index
    have told := applied.tells began rfl tells
    rw [← store] at told
    simp only [Store.appliedAll, Store.loadAll, List.flatMap_cons, ← List.append_assoc]
    exact ih (h.load feed index) told

end Dialogue

/-- A topic as all headers and all attributed infos tell it. -/
structure Topic.Recounts (headers : List Topic) (entries : List (Topic × InfoWrite)) (id : String)
    (t : Topic) : Prop where
  header : (last? Topic.id headers id).map Topic.header = some t.header
  infos : t.infos = InfoWrite.standing (Dialogue.infosOf entries id)
  distinct : (t.infos.map fun info => fold info.id).Nodup
  info? : ∀ q info, t.info? q = some info ↔ info ∈ t.infos ∧ fold info.id = fold q

/-- **A topic is the history of its infos.** Of each file the records up to the first refused one
are applied. A topic has a slot when a header for it was applied, and the last header and the infos
after all of them decide what is in the slot. -/
theorem Store.topics_recount (files : List (Feed × Nat)) (id : String) :
    let applied := Store.new.appliedAll files
    List.Forall₂ (fun file taken => Store.new.Takes file.1 taken.1 taken.2) files
        (applied.zip (Store.new.resultsAll files)) ∧
      match ((Store.new.loadAll files).table .dialogue).slots.find? id with
      | none => ∀ header ∈ applied.flatMap Dialogue.headers, fold header.id ≠ fold id
      | some slot => slot.record.Recounts (applied.flatMap Dialogue.headers)
          (applied.flatMap Dialogue.attributed) id := by
  intro applied
  refine ⟨sound_new.takes_appliedAll sound_new rfl files, ?_⟩
  have empty : Store.new.table .dialogue = .empty := by rfl
  have began : Dialogue.Tells [] [] (Store.new.table .dialogue) := empty ▸ Dialogue.tells_empty
  have tells := Dialogue.tells_loadAll sound_new began files
  rw [List.nil_append, List.nil_append] at tells
  cases found : ((Store.new.loadAll files).table .dialogue).slots.find? id with
  | none => exact last?_eq_none.mp (tells.absent id found).1
  | some slot =>
    obtain ⟨headed, gathers⟩ := tells.held id slot found
    exact ⟨headed, gathers.infos, Topic.nodup_infos gathers.valid,
      fun q info => Topic.info?_eq_some gathers.valid⟩

/-- A topic with two infos; then the topic in other letters, a deletion of the first info, a third
info, and an info behind a record that is refused. -/
def interruptedFiles : List (Feed × Nat) := [
  (⟨"one", none, [⟨Kind.dialogue.tag, 0, [0x81, 0xA2, 0x69, 0x64, 0xA2, 0x41, 0x61]⟩,
    ⟨Kind.infoTag, 0, [0x81, 0xA2, 0x69, 0x64, 0xA1, 0x78]⟩,
    ⟨Kind.infoTag, 0, [0x81, 0xA2, 0x69, 0x64, 0xA1, 0x79]⟩], none⟩, 0),
  (⟨"two", none, [⟨Kind.dialogue.tag, 0, [0x81, 0xA2, 0x69, 0x64, 0xA2, 0x61, 0x61]⟩,
    ⟨Kind.infoTag, Chunk.deletedFlag, [0x81, 0xA2, 0x69, 0x64, 0xA1, 0x58]⟩,
    ⟨Kind.infoTag, 0, [0x81, 0xA2, 0x69, 0x64, 0xA1, 0x7A]⟩,
    ⟨.ascii 'Z' 'Z' 'Z' 'Z', Chunk.requiredFlag, []⟩,
    ⟨Kind.infoTag, 0, [0x81, 0xA2, 0x69, 0x64, 0xA1, 0x77]⟩], none⟩, 1)]

/-- The first file is taken whole. The second stops at its required record, and its records before
that count. -/
theorem Store.topics_recount_interrupted :
    ∃ stats slot,
      List.Forall₂ (fun file taken => Store.new.Takes file.1 taken.1 taken.2) interruptedFiles
        [(interruptedFiles[0].1.records, .ok stats), (interruptedFiles[1].1.records.take 3,
          .error (.unsupportedRequired (.ascii 'Z' 'Z' 'Z' 'Z') 3))] ∧
      ((Store.new.loadAll interruptedFiles).table .dialogue).slots.find? "AA" = some slot ∧
      slot.record.id = "aa" ∧ slot.record.infos.map Info.id = ["y", "z"] := by
  let applied := [interruptedFiles[0].1.records, interruptedFiles[1].1.records.take 3]
  have counted : Store.new.appliedAll interruptedFiles = applied := by cbv
  obtain ⟨stats, results⟩ : ∃ stats, Store.new.resultsAll interruptedFiles =
      [.ok stats, .error (.unsupportedRequired (.ascii 'Z' 'Z' 'Z' 'Z') 3)] := ⟨_, by cbv⟩
  obtain ⟨takes, recounts⟩ := Store.topics_recount interruptedFiles "AA"
  rw [counted] at takes recounts
  rw [results] at takes
  have last : (last? Topic.id (applied.flatMap Dialogue.headers) "AA").map Topic.header =
      some ("aa", .topic) := by cbv
  cases found : ((Store.new.loadAll interruptedFiles).table .dialogue).slots.find? "AA" with
  | none =>
    rw [found] at recounts
    rw [last?_eq_none.mpr recounts] at last
    cases last
  | some slot =>
    rw [found] at recounts
    have header : ("aa", TopicKind.topic) = slot.record.header :=
      Option.some.inj (last.symm.trans recounts.header)
    have standing : (InfoWrite.standing
        (Dialogue.infosOf (applied.flatMap Dialogue.attributed) "AA")).map Info.id =
        ["y", "z"] := by cbv
    exact ⟨stats, slot, takes, rfl, (congrArg (·.1) header).symm, by rw [recounts.infos, standing]⟩

end ContentLayers
