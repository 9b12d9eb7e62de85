import ContentLayers.Proofs.FileContents

/-!
# Layers

A store lies on the files that were applied to it, each as far as it was applied. They tell who
wrote the record of an id last, and whose records the next file overwrites.
-/

namespace ContentLayers

open History

/-- A content file as far as it was applied. -/
structure Layer where
  /-- The index that the file was loaded with. -/
  index : Nat
  records : List Chunk

/-- A record that a file wrote into a table. -/
structure Mention where
  id : String
  live : Bool
  /-- The place of the file among the layers. -/
  place : Nat
  index : Nat

/-- What is under an id, and who wrote it last. -/
structure Mark where
  live : Bool
  /-- The place of the writer among the layers; none for what was there before them. -/
  place : Option Nat
  origin : Option Nat
  deriving DecidableEq

namespace Kind

/-- What one layer writes into the table of a kind. -/
def mentionsOf (kind : Kind) (layer : Layer) (place : Nat) : List Mention :=
  (kind.contents layer.records).map fun content =>
    ⟨kind.contentId content, content.2, place, layer.index⟩

/-- What the layers write into the table of a kind, the lowest layer first. -/
def mentions (kind : Kind) (layers : List Layer) : List Mention :=
  layers.zipIdx.flatMap fun (layer, place) => kind.mentionsOf layer place

variable {kind : Kind} {layers : List Layer} {layer : Layer} {q : String}

theorem mentions_concat :
    kind.mentions (layers ++ [layer]) =
      kind.mentions layers ++ kind.mentionsOf layer layers.length := by
  simp [mentions, List.zipIdx_append]

theorem mem_mentions {e : Mention} (mem : e ∈ kind.mentions layers) :
    ∃ layer, layers[e.place]? = some layer ∧ e.index = layer.index := by
  obtain ⟨⟨layer, place⟩, numbered, mem⟩ := List.mem_flatMap.mp mem
  obtain ⟨content, _, rfl⟩ := List.mem_map.mp mem
  exact ⟨layer, List.mem_zipIdx_iff_getElem?.mp numbered, rfl⟩

theorem last?_mentionsOf (place : Nat) :
    last? Mention.id (kind.mentionsOf layer place) q =
      (last? kind.contentId (kind.contents layer.records) q).map fun content =>
        ⟨kind.contentId content, content.2, place, layer.index⟩ := by
  simp only [last?, mentionsOf, List.filter_map, List.getLast?_map]
  rfl

end Kind

namespace Store

/-- What is under an id of a kind after some layers. -/
def mark? (s : Store) (layers : List Layer) (kind : Kind) (q : String) : Option Mark :=
  ((last? Mention.id (kind.mentions layers) q).map fun e => ⟨e.live, some e.place, some e.index⟩).or
    (((s.table kind).slots.find? q).map fun slot => ⟨slot.live, none, slot.origin⟩)

/-- The live record that a record overwrites, if it deletes nothing itself. -/
def overwritten? (s : Store) (layers : List Layer) (c : Chunk) : Option Mark :=
  (s.kinds.find? (·.tag == c.tag)).bind fun kind => (c.content? kind).bind fun content =>
    if content.2 then (s.mark? layers kind (kind.contentId content)).filter (·.live) else none

/-- The live records that the next layer overwrites, one after the other. -/
def overwritten (s : Store) (layers : List Layer) (layer : Layer) : List Mark :=
  select (fun earlier => s.overwritten? (layers ++ [{ layer with records := earlier }]))
    layer.records

/-- The tables show what the layers tell of who wrote what. -/
structure Bears (s : Store) (layers : List Layer) (t : Store) : Prop where
  sound : t.Sound
  kinds : t.kinds = s.kinds
  marks : ∀ kind ∈ s.kinds, ∀ q,
    ((t.table kind).slots.find? q).map (fun slot => (slot.live, slot.origin)) =
      (s.mark? layers kind q).map fun mark => (mark.live, mark.origin)

variable {s t : Store} {layers : List Layer} {layer : Layer} {kind : Kind} {q : String}

theorem Sound.bears_nil (h : s.Sound) : s.Bears [] s where
  sound := h
  kinds := rfl
  marks kind _ q := by
    simp [mark?, Kind.mentions, last?, Function.comp_def]

/-- A new layer hides those below it. -/
theorem mark?_concat :
    s.mark? (layers ++ [layer]) kind q =
      ((last? kind.contentId (kind.contents layer.records) q).map fun content =>
        ⟨content.2, some layers.length, some layer.index⟩).or (s.mark? layers kind q) := by
  rw [mark?, Kind.mentions_concat, last?_append, Kind.last?_mentionsOf, mark?]
  cases last? kind.contentId (kind.contents layer.records) q <;> simp

/-- The writer is a layer, with the index of that layer as origin, or the slot was there before. -/
theorem mark?_cases {mark : Mark} (found : s.mark? layers kind q = some mark) :
    (∃ place layer, mark.place = some place ∧ layers[place]? = some layer ∧
        mark.origin = some layer.index) ∨
      ∃ slot, (s.table kind).slots.find? q = some slot ∧ mark = ⟨slot.live, none, slot.origin⟩ := by
  rw [mark?, Option.or_eq_some_iff] at found
  obtain written | ⟨_, before⟩ := found
  · obtain ⟨e, last, rfl⟩ := Option.map_eq_some_iff.mp written
    obtain ⟨layer, numbered, same⟩ := Kind.mem_mentions (mem_of_last? last)
    exact Or.inl ⟨e.place, layer, rfl, numbered, congrArg some same⟩
  · obtain ⟨slot, held, same⟩ := Option.map_eq_some_iff.mp before
    exact Or.inr ⟨slot, held, same.symm⟩

theorem mark?_of_overwritten? {c : Chunk} {mark : Mark}
    (overwritten : s.overwritten? layers c = some mark) :
    ∃ kind ∈ s.kinds, ∃ q, s.mark? layers kind q = some mark := by
  obtain ⟨kind, found, overwritten⟩ := Option.bind_eq_some_iff.mp overwritten
  obtain ⟨content, _, overwritten⟩ := Option.bind_eq_some_iff.mp overwritten
  split at overwritten
  · exact ⟨kind, List.mem_of_find?_eq_some found, kind.contentId content,
      (Option.filter_eq_some_iff.mp overwritten).1⟩
  · cases overwritten

/-- What a layer overwrites is from a layer, maybe itself, or was there before all layers. -/
theorem overwritten_cases {mark : Mark} (mem : mark ∈ s.overwritten layers layer) :
    (∃ place index, mark.place = some place ∧ mark.origin = some index ∧
        ((layers ++ [layer]).map (·.index))[place]? = some index) ∨
      ∃ kind q slot, (s.table kind).slots.find? q = some slot ∧
        mark = ⟨slot.live, none, slot.origin⟩ := by
  obtain ⟨i, c, _, overwritten⟩ := mem_select.mp mem
  obtain ⟨kind, _, q, found⟩ := mark?_of_overwritten? overwritten
  obtain ⟨place, writer, named, numbered, origin⟩ | ⟨slot, held, same⟩ := mark?_cases found
  · have index := congrArg (Option.map Layer.index) numbered
    rw [← List.getElem?_map, List.map_append] at index
    exact Or.inl ⟨place, writer.index, named, origin, by simpa using index⟩
  · exact Or.inr ⟨kind, q, slot, held, same⟩

theorem map_pair_congr {α β γ : Type} {a b : Option α} {f : α → β} {g : α → γ}
    (first : a.map f = b.map f) (second : a.map g = b.map g) :
    a.map (fun x => (f x, g x)) = b.map fun x => (f x, g x) := by
  cases a <;> cases b <;> simp_all

/-- Records that are applied put a layer on the store. -/
theorem Bears.applies (h : s.Bears layers t) {name : String} {index : Nat} {records : List Chunk}
    {m : Loading Store} (applied : Loading.Applies (.start t name index) records m) :
    s.Bears (layers ++ [⟨index, records⟩]) m.store := by
  have began := Loading.sound_start h.sound name index
  refine ⟨(applied.sound began).store, (applied.kinds began).trans h.kinds, fun kind mem q => ?_⟩
  have declared := h.sound.isSome_table?.mpr (h.kinds ▸ mem)
  have live := (applied.gains began rfl declared).live q
  have origin := applied.origin began declared q
  have below := h.marks kind mem q
  rw [mark?_concat]
  cases last : last? kind.contentId (kind.contents records) q with
  | none =>
    rw [last, Option.map_none, Option.none_or] at live origin
    rw [Option.map_none, Option.none_or, ← below]
    exact map_pair_congr live origin
  | some content =>
    rw [last, Option.map_some, Option.some_or] at live origin
    obtain ⟨slot, found, lives⟩ := Option.map_eq_some_iff.mp live
    rw [found] at origin ⊢
    have origin : slot.origin = some index := by simpa [Loading.start, FileStats.new] using origin
    simp [lives, origin]

theorem Bears.load (h : s.Bears layers t) (feed : Feed) (index : Nat) :
    s.Bears (layers ++ [⟨index, feed.records.take (t.load feed index).applied⟩])
      (t.load feed index).store := by
  obtain ⟨m, applied, store, _⟩ := load_spec h.sound.distinct feed index
  rw [store]
  exact h.applies applied

theorem Bears.setUp (h : s.Bears layers t) : s.Bears layers t.setUp :=
  ⟨h.sound.of_shelves rfl, h.kinds, h.marks⟩

end Store

end ContentLayers
