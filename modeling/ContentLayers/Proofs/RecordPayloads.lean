import ContentLayers.Proofs.Cells
import ContentLayers.Proofs.Headers
import ContentLayers.Proofs.Reachable

/-!
# Payloads of records

A record of a built-in kind is read back from its payload, whatever follows it. A payload may as
well give the cells in another order, leave out those that hold their default, and have pairs of
other names; it may not give a cell twice. No payload gives a topic its infos.
-/

namespace ContentLayers

open MsgPack

namespace Kind

/-- A record that a payload can hold: a topic has no infos. -/
def Plain : (kind : Kind) → kind.Carrier → Prop
  | .dialogue, topic => topic.slots = .empty
  | _, _ => True

/-- The record of a built-in kind whose fields are all the default of their type. -/
def blank : (kind : Kind) → kind ∈ builtins → kind.Carrier
  | .activator, _ | .apparatus, _ | .book, _ | .actorClass, _ | .creature, _ | .dialogue, _
  | .gameSetting, _ | .globalVariable, _ | .itemList, _ | .creatureList, _ | .miscellaneous, _
  | .npc, _ | .script, _ | .sound, _ | .spell, _ | .startScript, _ | .weapon, _ => default
  | .custom _, builtin => absurd builtin (by simp [builtins])

variable {kind : Kind} {record : kind.Carrier}

theorem ofRow_toRow (builtin : kind ∈ builtins) (plain : kind.Plain record) :
    Record.shape.ofRow (Record.shape.toRow record) = record := by
  cases kind with
  | custom k => simp [builtins] at builtin
  | dialogue =>
    obtain ⟨id, topicKind, slots⟩ := record
    obtain rfl : slots = .empty := plain
    rfl
  | _ => rfl

theorem fits_write (builtin : kind ∈ builtins) (sized : (Payload.write record).Sized) :
    Value.Fits maxNesting (Payload.write record) := by
  have fits : Value.Fits 3 (Payload.write record) :=
    Shape.fits_write (columns_nest builtin) sized
  exact fits.mono (by decide)

/-- A cell of a blank record is what an absent cell stands for. -/
theorem sparse_blank (builtin : kind ∈ builtins) :
    Row.Sparse Record.shape.columns (Record.shape.toRow (kind.blank builtin)) [] := by
  cases kind with
  | custom k => simp [builtins] at builtin
  | _ => repeat first | exact .nil | refine .drop rfl ?_

end Kind

namespace MsgPack.Shape

variable {α : Type}

/-- The bytes spell the map that the shape writes of `a`, with its pairs in any order, without some
whose cells are what an absent cell stands for, and with pairs of other names among them. -/
def Rearranges (s : Shape α) (a : α) (bs : Bytes) : Prop :=
  ∃ kept extra pairs, Row.Sparse s.columns (s.toRow a) kept ∧
    (∀ pair ∈ extra, Foreign s.names pair.1) ∧ pairs.Perm (kept ++ extra) ∧
    Value.Spells maxNesting bs (.map pairs)

/-- The bytes spell a map that gives a cell of the shape twice. -/
def Repeats (s : Shape α) (bs : Bytes) : Prop :=
  ∃ name ∈ s.names, ∃ pairs, [.text name, .text name].Sublist (pairs.map (·.1)) ∧
    Value.Spells maxNesting bs (.map pairs)

/-- Payloads are read by the names of their cells alone, and what they leave out is as in `blank`.
Only what is `plain` is expected back. -/
structure ReadByName (s : Shape α) (plain : α → Prop) (blank : α) : Prop where
  absent : Row.Sparse s.columns (s.toRow blank) []
  rearranged : ∀ a, plain a → ∀ bs rest, s.Rearranges a bs →
    @decodePayload α s.payload (bs ++ rest) = .ok a
  repeated : ∀ bs rest, s.Repeats bs →
    @decodePayload α s.payload (bs ++ rest) = .error .payloadDecode

variable {s : Shape α} {a : α} {bs : Bytes}

theorem decodePayload_rearranged (distinct : s.names.Nodup) (lawful : ∀ c ∈ s.columns, c.Lawful)
    (rearranged : s.Rearranges a bs) (rest : Bytes) :
    @decodePayload α s.payload (bs ++ rest) = .ok (s.ofRow (s.toRow a)) := by
  obtain ⟨kept, extra, pairs, sparse, foreign, order, spells⟩ := rearranged
  have read : s.payload.read? (.map pairs) = some (s.ofRow (s.toRow a)) :=
    read?_sparse distinct lawful sparse foreign order
  exact @decodePayload_of_spells α s.payload _ _ _ spells read rest

theorem decodePayload_repeated (repeated : s.Repeats bs) (rest : Bytes) :
    @decodePayload α s.payload (bs ++ rest) = .error .payloadDecode := by
  obtain ⟨name, listed, pairs, twice, spells⟩ := repeated
  have read : s.payload.read? (.map pairs) = none := read?_repeated listed twice
  simp only [decodePayload, spells.decode?, Option.bind_some, read]

theorem foreign_text {names : List String} {key : String} (other : key ∉ names) :
    Foreign names (.text key) :=
  ⟨_, rfl, fun _ listed same => other (Bytes.ofText_inj.mp same ▸ listed)⟩

end MsgPack.Shape

open MsgPack.Shape

namespace Kind

variable {kind : Kind}

theorem read?_write {record : kind.Carrier} (builtin : kind ∈ builtins)
    (plain : kind.Plain record) : Payload.read? (Payload.write record) = some record := by
  have whole := Shape.read?_sparse (names_nodup builtin) (columns_lawful builtin)
    (Row.sparse_write _ (Record.shape.toRow record)) (List.forall_mem_nil _)
    (by rw [List.append_nil])
  rwa [ofRow_toRow builtin plain] at whole

theorem readByName (builtin : kind ∈ builtins) :
    (Record.shape : Shape kind.Carrier).ReadByName kind.Plain (kind.blank builtin) where
  absent := sparse_blank builtin
  rearranged record plain _ rest rearranged := by
    have read := decodePayload_rearranged (names_nodup builtin) (columns_lawful builtin)
      rearranged rest
    rwa [ofRow_toRow builtin plain] at read
  repeated _ rest repeated := decodePayload_repeated repeated rest

end Kind

theorem Info.readByName : Info.shape.ReadByName (fun _ => True) default where
  absent := .drop rfl (.drop rfl (.drop rfl (.drop rfl (.drop rfl .nil))))
  rearranged _ _ _ rest rearranged :=
    decodePayload_rearranged Info.lawful_shape.distinct Info.lawful_shape.columns rearranged rest
  repeated _ rest repeated := decodePayload_repeated repeated rest

/-- **Payloads are read back**, whatever follows them, from every record of a built-in kind that a
payload can hold, and from every info, variant and file header. -/
theorem payloads_read_back (rest : Bytes) :
    (∀ kind ∈ Kind.builtins, ∀ record : kind.Carrier, kind.Plain record →
      (Payload.write record).Sized → decodePayload (encodePayload record ++ rest) = .ok record) ∧
    (∀ info : Info, (Payload.write info).Sized →
      decodePayload (encodePayload info ++ rest) = .ok info) ∧
    (∀ v : Variant, (Payload.write v).Sized →
      decodePayload (encodePayload v ++ rest) = .ok v) ∧
    ∀ h : FileHeader, (Payload.write h).Sized →
      decodePayload (encodePayload h ++ rest) = .ok h := by
  refine ⟨?_, ?_, ?_, ?_⟩
  · intro kind builtin record plain sized
    have spells := (Kind.fits_write builtin sized).spells_encode
    exact decodePayload_of_spells spells (Kind.read?_write builtin plain) rest
  · exact fun info sized => decodePayload_encodePayload 1 (by decide) sized rest
  · exact fun v sized => decodePayload_encodePayload 1 (by decide) sized rest
  · exact fun h sized => decodePayload_encodePayload 3 (by decide) sized rest

/-- An axe with numbers at the ends of their ranges, a NaN and a negative zero. -/
def oddAxe : Weapon where
  id := "axe"
  name := "Axe"
  model := ""
  kind := -0x8000
  weight := ⟨0x7FC00001⟩
  value := -1
  health := 0xFFFF
  speed := ⟨0x80000000⟩
  reach := ⟨0x7F800000⟩
  chop := (0, 0xFF)
  slash := (0x7F, 0x80)
  thrust := (1, 2)

theorem payloads_read_back_axe :
    Kind.weapon ∈ Kind.builtins ∧ (Payload.write oddAxe).Sized ∧
      decodePayload (encodePayload oddAxe ++ [0xC1]) = .ok oddAxe := by
  have builtin : Kind.weapon ∈ Kind.builtins := by decide
  have sized : (Payload.write oddAxe).Sized := Value.sized_of_length _ (by cbv)
  exact ⟨builtin, sized, (payloads_read_back [0xC1]).1 .weapon builtin oddAxe trivial sized⟩

/-- **Payloads are read by name.** The infos of a topic and the deletion of an info have no names
that a payload could give them under, so no payload gives them. -/
theorem payloads_read_by_name :
    (∀ kind, ∀ builtin : kind ∈ Kind.builtins,
      (Record.shape : Shape kind.Carrier).ReadByName kind.Plain (kind.blank builtin)) ∧
    Info.shape.ReadByName (fun _ => True) default ∧
    (∀ (topic : Topic) (bs rest : Bytes), Record.shape.Rearranges topic bs →
      decodePayload (bs ++ rest) = .ok (Topic.new topic.id topic.kind)) ∧
    (∀ key ∈ ["infos", "info_index"], Foreign (Record.shape : Shape Topic).names (.text key)) ∧
    Foreign Info.shape.names (.text "deleted") ∧
    (∀ (bs : Bytes) (topic : Topic), decodePayload bs = .ok topic → topic.slots = .empty) ∧
    ∀ (info : Info) (topic : Topic), topic.Built →
      (topic.merge info false).1.info? info.id = some info := by
  refine ⟨fun kind builtin => Kind.readByName builtin, Info.readByName, ?_, ?_, ?_, ?_, ?_⟩
  · intro topic bs rest rearranged
    have builtin : Kind.dialogue ∈ Kind.builtins := by decide
    exact decodePayload_rearranged (Kind.names_nodup builtin) (Kind.columns_lawful builtin)
      rearranged rest
  · intro key listed
    refine foreign_text fun named => ?_
    revert key
    decide
  · exact foreign_text (by decide)
  · intro bs topic decoded
    obtain ⟨id, kind, rfl⟩ := decodePayload_topic decoded
    rfl
  · intro info topic built
    rw [Topic.info?_merge built.valid, if_pos rfl]
    rfl

/-- A greeting whose empty id is left out, behind infos that it cannot have. -/
def paddedGreeting : Value :=
  .map [(.text "infos", .array [.nil, .ext 5 [0xC1]]), (.text "kind", .uint 2)]

theorem payloads_read_by_name_greeting :
    Record.shape.Rearranges (Topic.new "" .greeting) paddedGreeting.encode ∧
      decodePayload (paddedGreeting.encode ++ [0xC1]) = .ok (Topic.new "" .greeting) := by
  have sparse : Row.Sparse (Record.shape : Shape Topic).columns
      (Record.shape.toRow (Topic.new "" .greeting)) [(.text "kind", .uint 2)] :=
    .drop rfl (.keep (c := .optional "kind" TopicKind) TopicKind.greeting .nil)
  have fits : Value.Fits maxNesting paddedGreeting := by
    have infosKey : Value.Fits 1022 (.text "infos") := .str (by cbv)
    have kindKey : Value.Fits 1022 (.text "kind") := .str (by cbv)
    have infos : Value.Fits 1022 (.array [.nil, .ext 5 [0xC1]]) :=
      .array (by decide) (List.forall_mem_cons.mpr
        ⟨.nil, List.forall_mem_singleton.mpr (.ext 5 (by decide))⟩)
    exact .map (by decide)
      (List.forall_mem_cons.mpr ⟨infosKey, List.forall_mem_singleton.mpr kindKey⟩)
      (List.forall_mem_cons.mpr ⟨infos, List.forall_mem_singleton.mpr (.uint 2)⟩)
  have rearranged : Record.shape.Rearranges (Topic.new "" .greeting) paddedGreeting.encode :=
    ⟨_, [(.text "infos", .array [.nil, .ext 5 [0xC1]])], _, sparse,
      List.forall_mem_singleton.mpr (foreign_text (by decide)), List.Perm.swap _ _ _,
      fits.spells_encode⟩
  have plain : Kind.dialogue.Plain (Topic.new "" .greeting) := rfl
  have read := (payloads_read_by_name.1 .dialogue (by decide)).rearranged _ plain
  exact ⟨rearranged, read _ [0xC1] rearranged⟩

end ContentLayers
