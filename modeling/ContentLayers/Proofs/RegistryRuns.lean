import ContentLayers.Proofs.Acceptance
import ContentLayers.Proofs.Registry

/-!
# Runs of the registry

On the parts of a sound store no check fails, and each call gives the parts of what it gives on the
store.
-/

namespace ContentLayers

namespace Store

variable {s : Store} {kind : Kind}

/-- While tags are distinct, the table of a tag is that of the first shelf with the tag. -/
theorem getElem?_registry (distinct : s.tags.Nodup) (tag : Tag) :
    s.registry.shelves[tag]? = s.shelf? tag := by
  cases found : s.shelf? tag with
  | none =>
    refine Std.ExtHashMap.getElem?_ofList_of_contains_eq_false ?_
    have unknown := shelf?_eq_none.mp found
    simpa [tags, Function.comp_def] using unknown
  | some shelf =>
    obtain ⟨mem, named⟩ := shelf?_eq_some found
    have apart : (s.shelves.map fun shelf => (shelf.kind.tag, shelf)).Pairwise
        fun a b => (a.1 == b.1) = false := by
      rw [List.pairwise_map]
      exact (List.pairwise_map.mp distinct).imp (by simp)
    exact Std.ExtHashMap.getElem?_ofList_of_mem (k := shelf.kind.tag) (by simp [named]) apart
      (List.mem_map_of_mem mem)

theorem Sound.inOrder_eq (h : s.Sound) : s.registry.inOrder = s.shelves := by
  have found : ∀ shelf ∈ s.shelves, s.registry.shelves[shelf.kind.tag]? = some shelf :=
    fun shelf mem => (getElem?_registry h.distinct _).trans (h.shelf?_of_mem mem)
  rw [Registry.inOrder, registry, tags, List.filterMap_map]
  exact (List.filterMap_congr found).trans List.filterMap_some

/-- A table takes the place of another, which leaves the order alone. -/
theorem Sound.registry_setShelf (h : s.Sound) {shelf : Shelf} (known : shelf.kind.tag ∈ s.tags) :
    (s.setShelf shelf).registry = s.registry.put shelf := by
  have tags := s.tags_setShelf shelf
  refine Registry.ext_getElem? tags (fun tag => ?_) rfl rfl
  rw [getElem?_registry (tags ▸ h.distinct), shelf?_setShelf, Registry.put,
    Std.ExtHashMap.getElem?_insert, getElem?_registry h.distinct]
  by_cases here : shelf.kind.tag = tag
  · subst here
    have found := isSome_shelf?.mpr known
    obtain ⟨old, found⟩ := Option.isSome_iff_exists.mp found
    simp [found]
  · simp [here]

theorem table?_registry (distinct : s.tags.Nodup) : s.registry.table? kind = s.table? kind := by
  rw [Registry.table?, getElem?_registry distinct, table?]

theorem get_registry (distinct : s.tags.Nodup) : s.registry.get kind = s.get kind := by
  rw [Registry.get, table?_registry distinct]
  rfl

/-- A declaration acts on both parts as it does on the store. -/
theorem declare_registry (distinct : s.tags.Nodup) :
    s.registry.declare kind = ((s.declare kind).1.registry, (s.declare kind).2) := by
  by_cases reserved : kind.tag = Kind.infoTag
  · rw [Registry.declare, declare, if_pos reserved, if_pos reserved]
  rw [Registry.declare, declare, if_neg reserved, if_neg reserved, getElem?_registry distinct]
  cases found : s.shelf? kind.tag with
  | some shelf => rfl
  | none =>
    -- the one case that changes the order, with the shelf that keeps both parts together
    let next : Store := { s with shelves := s.shelves ++ [.new kind], current := false }
    have appended : s.Appended kind next := ⟨reserved, shelf?_eq_none.mp found, rfl, rfl⟩
    refine Prod.ext (Registry.ext_getElem? appended.tags.symm (fun tag => ?_) rfl rfl) rfl
    rw [getElem?_registry (appended.nodup distinct), Std.ExtHashMap.getElem?_insert,
      getElem?_registry distinct]
    simp only [shelf?] at found
    by_cases here : kind.tag = tag
    · subst here
      simp [next, shelf?, List.find?_append, found, Shelf.new]
    · simp [next, shelf?, List.find?_append, Shelf.new, here]

/-- Kinds whose tags are all new get their tables in order. -/
theorem declareAll_registry {kinds : List Kind} (stale : s.current = false)
    (unreserved : ∀ kind ∈ kinds, kind.tag ≠ Kind.infoTag)
    (distinct : (s.tags ++ kinds.map Kind.tag).Nodup) :
    s.registry.declareAll kinds =
      (({ s with shelves := s.shelves ++ kinds.map Shelf.new } : Store).registry, .ok ()) := by
  induction kinds generalizing s with
  | nil => simp [Registry.declareAll]
  | cons kind kinds ih =>
    rw [List.forall_mem_cons] at unreserved
    let next : Store := { s with shelves := s.shelves ++ [.new kind] }
    have distinct' : (next.tags ++ kinds.map Kind.tag).Nodup := by
      simpa [next, tags, Shelf.new] using distinct
    have unknown : kind.tag ∉ s.tags := fun known =>
      List.disjoint_of_nodup_append distinct known (List.mem_cons_self ..)
    have declared : s.declare kind = (next, .ok ()) := by
      rw [declare, if_neg unreserved.1, shelf?_eq_none.mpr unknown]
      simp [next, stale]
    rw [Registry.declareAll, declare_registry (List.Nodup.of_append_left distinct), declared]
    refine (ih (s := next) stale unreserved.2 distinct').trans ?_
    simp [next]

theorem new_registry : Registry.new = (new.registry, .ok ()) :=
  declareAll_registry (s := ⟨[], .empty, false⟩) rfl (by decide) (by decide)

/-- The built-in kinds are always there. -/
theorem Sound.get_eq (h : s.Sound) (builtin : kind ∈ Kind.builtins) :
    s.registry.get kind = .ok (s.table kind) := by
  obtain ⟨table, found⟩ := Option.isSome_iff_exists.mp (h.builtin kind builtin)
  rw [get_registry h.distinct, get, Store.table, found]
  rfl

theorem Sound.tryGet_eq (h : s.Sound) (builtin : kind ∈ Kind.builtins) :
    s.registry.tryGet kind = .ok (s.table kind) := by
  rw [Registry.tryGet, h.get_eq builtin]
  rfl

end Store

theorem Shelf.kind_load (shelf : Shelf) (c : Chunk) (file : Nat) :
    (shelf.load c file).1.kind = shelf.kind := by
  rw [load]
  split <;> rfl

namespace Loading

variable {l : Loading Store}

theorem Sound.registry_put (h : l.Sound) {shelf : Shelf} (known : shelf.kind.tag ∈ l.store.tags) :
    (l.store.setShelf shelf).registry = l.registry.store.put shelf :=
  h.store.registry_setShelf known

theorem Sound.tryApplyRecord_eq (h : l.Sound) {c : Chunk} {shelf : Shelf}
    (mem : shelf ∈ l.store.shelves) :
    l.registry.tryApplyRecord c shelf =
      .ok ((l.applyRecord c shelf).1.registry, (l.applyRecord c shelf).2) := by
  have index : l.registry.stats = l.stats := rfl
  have known : (shelf.load c l.stats.index).1.kind.tag ∈ l.store.tags := by
    rw [Shelf.kind_load]
    exact List.mem_map_of_mem mem
  rw [tryApplyRecord, index, Shelf.tryLoad_eq (h.store.tables shelf mem).valid, Fault.ok_bind,
    applyRecord]
  simp only [← h.registry_put known]
  cases (shelf.load c l.stats.index).2 <;> rfl

theorem Sound.tryApply_eq (h : l.Sound) (c : Chunk) :
    l.registry.tryApply c = .ok ((l.apply c).1.registry, (l.apply c).2) := by
  have topics : l.registry.store.tryGet .dialogue = .ok (l.store.table .dialogue) :=
    h.store.tryGet_eq (by decide)
  have sound := h.store.table .dialogue
  have known : Kind.dialogue.tag ∈ l.store.tags := by
    obtain ⟨table, found⟩ := Option.isSome_iff_exists.mp h.store.dialogue
    exact Store.isSome_shelf?.mp (Option.isSome_of_eq_some (Store.table?_eq_some.mp found))
  have put (table : Table Topic) : (l.store.setShelf ⟨.dialogue, table⟩).registry =
      l.registry.store.put ⟨.dialogue, table⟩ := h.registry_put known
  unfold tryApply apply decode
  split
  · cases (decodePayload c.payload : Except StreamError Topic) with
    | error e => rfl
    | ok topic =>
      simp only [topics, sound.valid.tryUpsert_eq, Except.mapError, Fault.ok_bind, ← put]
      rfl
  split
  · cases (decodePayload c.payload : Except StreamError Info) with
    | error e => rfl
    | ok info =>
      have active : l.registry.active = l.active := rfl
      simp only [topics, active, sound.tryMergeInfo_eq, Except.mapError, Fault.ok_bind, applyInfo]
      cases (l.store.table .dialogue).mergeInfo l.active info c.isDeleted with
      | none => rfl
      | some merged =>
        simp only [← put]
        rfl
  have same : l.registry.store.shelves[c.tag]? = l.store.shelf? c.tag :=
    Store.getElem?_registry h.store.distinct c.tag
  rw [same]
  cases found : l.store.shelf? c.tag with
  | none => cases c.isRequired <;> rfl
  | some shelf => exact h.tryApplyRecord_eq (Store.shelf?_eq_some found).1

theorem Sound.tryRun_eq (h : l.Sound) (records : List Chunk) :
    l.registry.tryRun records = .ok ((l.run records).1.registry, (l.run records).2) := by
  induction records generalizing l with
  | nil => rfl
  | cons c cs ih =>
    simp only [tryRun, run, h.tryApply_eq, Fault.ok_bind]
    cases step : l.apply c with
    | mk next failure =>
      cases failure with
      | none => exact ih ((Step.of_apply step).sound h)
      | some e => rfl

/-- Bytes that are read one record at a time are loaded as the feed of their reader. -/
theorem Sound.tryStream_eq (h : l.Sound) (r : Reader) :
    l.registry.tryStream r.left r.rest = .ok ((l.run r.feed.records).1.registry,
      (l.run r.feed.records).2.or (r.feed.failure.map .stream)) := by
  obtain ⟨name, bs, left, total⟩ := r
  induction left generalizing l bs with
  | zero => cases bs <;> rfl
  | succ left ih =>
    simp only [tryStream, Chunk.tryRead_eq, Fault.ok_bind]
    cases read : Chunk.read bs with
    | error e => simp [Reader.feed, Chunk.split, read, run, pure, Except.pure]
    | ok found =>
      obtain ⟨c, rest⟩ := found
      -- the feed is the record at the front and the feed of the bytes behind it
      have feed : (⟨name, bs, left + 1, total⟩ : Reader).feed =
          { (⟨name, rest, left, total⟩ : Reader).feed with
            records := c :: (⟨name, rest, left, total⟩ : Reader).feed.records } := by
        simp [Reader.feed, Chunk.split, read]
      simp only [feed, run, h.tryApply_eq, Fault.ok_bind]
      cases step : l.apply c with
      | mk next failure =>
        cases failure with
        | none => exact ih ((Step.of_apply step).sound h) rest
        | some e => rfl

end Loading

namespace Store

variable {s : Store} {kind : Kind}

theorem registry_load (s : Store) (feed : Feed) (index : Nat) :
    (s.load feed index).registry =
      ((Loading.start s feed.name index).run feed.records).1.registry.ended feed.name feed.announced
        (((Loading.start s feed.name index).run feed.records).2.or
          (feed.failure.map .stream)) := by
  rw [load]
  generalize (Loading.start s feed.name index).run feed.records = reached
  obtain ⟨l, failure⟩ := reached
  dsimp only
  cases failure.or (feed.failure.map .stream) <;> rfl

theorem Sound.tryLoad_eq (h : s.Sound) (feed : Feed) (index : Nat) :
    s.registry.tryLoad feed index = .ok (s.load feed index).registry := by
  have run := (Loading.sound_start h feed.name index).tryRun_eq feed.records
  have start : s.registry.start feed.name index = (Loading.start s feed.name index).registry := rfl
  rw [Registry.tryLoad, start, run, registry_load]
  rfl

theorem Sound.tryLoadFrom_eq (h : s.Sound) (r : Reader) (index : Nat) :
    s.registry.tryLoadFrom r index = .ok (s.load r.feed index).registry := by
  have run := (Loading.sound_start h r.name index).tryStream_eq r
  have start : s.registry.start r.name index = (Loading.start s r.name index).registry := rfl
  rw [Registry.tryLoadFrom, start, run, registry_load]
  rfl

theorem Sound.trySetUp_eq (h : s.Sound) : s.registry.trySetUp = .ok s.setUp.registry := by
  have classes := Indices.tryDanglingClasses_eq (s.table .npc) (h.table .actorClass).valid
  have scripts := Indices.tryDanglingScripts_eq (s.table .startScript) (h.table .script).valid
  rw [Registry.trySetUp, h.tryGet_eq (by decide), h.tryGet_eq (by decide), h.tryGet_eq (by decide),
    h.tryGet_eq (by decide), h.tryGet_eq (by decide), h.tryGet_eq (by decide),
    h.tryGet_eq (by decide), h.inOrder_eq]
  simp only [classes, scripts, Fault.ok_bind]
  rfl

theorem Sound.tryFind_eq (h : s.Sound) (id : String) :
    s.registry.tryFind id = .ok (s.find id) := by
  rw [Registry.tryFind, h.inOrder_eq, Shelf.tryScan_eq fun shelf mem => (h.tables shelf mem).valid]
  have current : s.registry.current = s.current := rfl
  rw [current, find]
  split <;> rfl

theorem Sound.tryNested_eq (h : s.Sound) (id : String) :
    s.registry.tryNested id = .ok (s.nested? id) := by
  rw [Registry.tryNested, h.tryGet_eq (by decide), h.tryGet_eq (by decide), Fault.ok_bind,
    (h.table .itemList).valid.trySearch_eq, Fault.ok_bind, nested?]
  cases (s.table .itemList).search id with
  | some list => rfl
  | none =>
    simp only [Fault.ok_bind, (h.table .creatureList).valid.trySearch_eq]
    rfl

theorem Sound.tryEligible_eq (h : s.Sound) (list : LevelledList) (role : ListRole) (level : Int)
    (known : Bool) :
    s.registry.tryEligible list role level known =
      .ok ((list.levelEligible role level).filter fun entry =>
        (s.find entry.id).isSome == known) := by
  refine Fault.tryFilter_eq (fun entry => ?_) _
  rw [h.tryFind_eq]
  rfl

variable {σ : Type}

theorem Sound.tryDrawWithin_eq (h : s.Sound) (dice : Dice σ) (level : Int) (depth : Nat)
    (list : LevelledList) (role : ListRole) (state : σ) :
    s.registry.tryDrawWithin dice level depth list role state =
      .ok (s.drawWithin dice level depth list role state) := by
  induction depth generalizing list role state with
  | zero => rfl
  | succ depth ih =>
    have known : ((list.levelEligible role level).filter fun entry =>
        (s.find entry.id).isSome == true) = s.candidates list role level := by
      simp [candidates]
    have unknown : ((list.levelEligible role level).filter fun entry =>
        (s.find entry.id).isSome == false).map (fun entry => Notice.missingItem entry.id list.id) =
          s.missingItems list role level := by
      simp [missingItems]
    simp only [Registry.tryDrawWithin, drawWithin, h.tryEligible_eq, known, unknown,
      h.tryNested_eq, Fault.ok_bind]
    split
    · rfl
    cases s.candidates list role level with
    | nil => rfl
    | cons first others =>
      simp only [ih, Fault.ok_bind]
      cases s.nested? ((first :: others).get (dice.pick others.length (dice.percent state).2).1).id
        <;> rfl

theorem Sound.tryDraw_eq (h : s.Sound) (dice : Dice σ) (list : LevelledList) (role : ListRole)
    (level : Int) (state : σ) :
    s.registry.tryDraw dice list role level state = .ok (s.draw dice list role level state) :=
  h.tryDrawWithin_eq dice level maxListDepth list role state

theorem Sound.tryCall_eq (h : s.Sound) (c : Call) :
    s.registry.tryCall c = .ok (s.call c).registry := by
  cases c with
  | declare kind =>
    rw [Registry.tryCall, declare_registry h.distinct]
    rfl
  | modify kind log _ =>
    let stale : Store := { s with current := false }
    have sound : stale.Sound := h.of_shelves rfl
    have asked : s.registry.getMut kind = (stale.registry, s.get kind) :=
      congrArg (Prod.mk _) (get_registry sound.distinct)
    rw [Registry.tryCall, asked, call, Store.modify, get]
    cases found : s.table? kind with
    | none => rfl
    | some table =>
      have held := table?_eq_some.mp found
      have valid : table.Valid := (h.tables _ (shelf?_eq_some held).1).valid
      have put : (stale.setShelf ⟨kind, (table.replay log).1⟩).registry =
          stale.registry.put ⟨kind, (table.replay log).1⟩ :=
        sound.registry_setShelf (isSome_shelf?.mp (Option.isSome_of_eq_some held))
      simp only [valid.tryReplay_eq kind.keepsId, Fault.ok_bind]
      exact congrArg Except.ok put.symm
  | load feed index =>
    rw [Registry.tryCall, h.tryLoad_eq]
    rfl
  | setUp => exact h.trySetUp_eq

theorem Reachable.tryCalls_eq (h : s.Reachable) (calls : List Call) :
    calls.foldlM Registry.tryCall s.registry = .ok (s.callAll calls).registry := by
  induction calls generalizing s with
  | nil => rfl
  | cons c calls ih =>
    rw [List.foldlM_cons, h.sound.tryCall_eq, Fault.ok_bind]
    exact ih (h.call c)

/-- No call meets a fault, whatever was called before. -/
theorem tryCalls_eq (calls : List Call) :
    Registry.tryCalls calls = .ok (new.callAll calls).registry := by
  rw [Registry.tryCalls, new_registry]
  exact Reachable.new.tryCalls_eq calls

end Store

end ContentLayers
