import ContentLayers.Content.File
import ContentLayers.Proofs.Headers

/-!
# Frames found again

Frames and preambles are read back. What stands at the front of a byte string when a frame is read
there, and the parts of a byte string that is read as a content file.
-/

namespace ContentLayers

namespace Bytes

theorem toNatLE_word {n : Nat} (bound : n < 0x100000000) : toNatLE (ofNatLE 4 n) = n := by
  rw [toNatLE_ofNatLE]
  exact Nat.mod_eq_of_lt bound

variable {w : Bytes}

theorem ofNatLE_word (length : w.length = 4) : ofNatLE 4 (toNatLE w) = w := by
  rw [← length, ofNatLE_toNatLE]

theorem toNatLE_word_lt (length : w.length = 4) : toNatLE w < 0x100000000 := by
  have bound := toNatLE_lt w
  rwa [length] at bound

theorem toNat_word (length : w.length = 4) : (UInt32.ofNat (toNatLE w)).toNat = toNatLE w :=
  UInt32.toNat_ofNat_of_lt' (toNatLE_word_lt length)

end Bytes

theorem Tag.bytes_ofBytes {w : Bytes} (length : w.length = 4) : (Tag.ofBytes w).bytes = w := by
  match w, length with
  | [_, _, _, _], _ => rfl

namespace ChunkHeader

variable {bs rest : Bytes} {h : ChunkHeader}

@[simp] theorem length_encode (h : ChunkHeader) : h.encode.length = size := by
  simp [encode, size]

theorem read_encode (h : ChunkHeader) (rest : Bytes) :
    read (h.encode ++ rest) = .ok (h, rest) := by
  obtain ⟨tag, flags, length⟩ := h
  have front := Bytes.split?_append_of_length (length_encode (mk tag flags length)) rest
  have tagBytes : (mk tag flags length).encode.take 4 = tag.bytes := by
    rw [encode, List.append_assoc, List.take_left' (Tag.length_bytes tag)]
  have flagBytes : ((mk tag flags length).encode.drop 4).take 4 = Bytes.ofNatLE 4 flags.toNat := by
    rw [encode, List.append_assoc, List.drop_left' (Tag.length_bytes tag),
      List.take_left' (Bytes.length_ofNatLE 4 _)]
  have lengthBytes : (mk tag flags length).encode.drop 8 = Bytes.ofNatLE 4 length.toNat := by
    rw [encode, List.drop_left' (by simp)]
  have flagsBack := Bytes.toNatLE_word flags.toNat_lt
  have lengthBack := Bytes.toNatLE_word length.toNat_lt
  simp only [read, front, tagBytes, flagBytes, lengthBytes, flagsBack, lengthBack,
    Tag.ofBytes_bytes, UInt32.ofNat_toNat]

/-- A header is read off the bytes that it is encoded as. -/
theorem read_eq_ok : read bs = .ok (h, rest) ↔ bs = h.encode ++ rest := by
  constructor
  · intro found
    unfold read at found
    split at found
    · cases found
    rename_i front behind cut
    obtain ⟨joined, length⟩ := Bytes.split?_eq_some cut
    obtain ⟨rfl, rfl⟩ := Prod.mk.inj (Except.ok.inj found)
    have tag : (front.take 4).length = 4 := by simp [length, size]
    have flags : ((front.drop 4).take 4).length = 4 := by simp [length, size]
    have payload : (front.drop 8).length = 4 := by simp [length, size]
    have middle : (front.drop 4).take 4 ++ front.drop 8 = front.drop 4 := by
      have parts := List.take_append_drop 4 (front.drop 4)
      rwa [List.drop_drop] at parts
    rw [joined, encode, Tag.bytes_ofBytes tag, Bytes.toNat_word flags, Bytes.toNat_word payload,
      Bytes.ofNatLE_word flags, Bytes.ofNatLE_word payload, List.append_assoc (front.take 4),
      middle, List.take_append_drop]
  · rintro rfl
    exact read_encode h rest

theorem read_eq_error {e : StreamError} :
    read bs = .error e ↔ e = .truncatedHeader ∧ bs.length < size := by
  rw [← Bytes.split?_eq_none_iff, read]
  cases Bytes.split? size bs <;> simp [eq_comm]

end ChunkHeader

namespace Chunk

theorem read_frame {c : Chunk} (size : c.payload.length < 0x100000000) (rest : Bytes) :
    read (c.frame ++ rest) = .ok (c, rest) := by
  have length : (UInt32.ofNat c.payload.length).toNat = c.payload.length :=
    UInt32.toNat_ofNat_of_lt' size
  rw [frame, List.append_assoc, read, ChunkHeader.read_encode]
  simp only [length, Bytes.split?_append]

theorem encode_eq_ok {c : Chunk} (size : c.payload.length < 0x100000000) :
    c.encode = .ok c.frame := by
  rw [encode, if_pos size]

/-- What a byte string begins with: a whole frame, or a header or a payload that is cut short. -/
inductive Front (bs : Bytes) : Except StreamError (Chunk × Bytes) → Prop
  | frame (c : Chunk) (rest : Bytes) (size : c.payload.length < 0x100000000)
      (split : bs = c.frame ++ rest) : Front bs (.ok (c, rest))
  | header (short : bs.length < ChunkHeader.size) : Front bs (.error .truncatedHeader)
  | payload (h : ChunkHeader) (body : Bytes) (split : bs = h.encode ++ body)
      (short : body.length < h.length.toNat) :
      Front bs (.error (.truncatedPayload h.length body.length))

theorem read_spec (bs : Bytes) : Front bs (read bs) := by
  rw [read]
  cases header : ChunkHeader.read bs with
  | error e =>
    obtain ⟨rfl, short⟩ := ChunkHeader.read_eq_error.mp header
    exact .header short
  | ok found =>
    obtain ⟨h, body⟩ := found
    have joined := ChunkHeader.read_eq_ok.mp header
    dsimp only
    cases cut : Bytes.split? h.length.toNat body with
    | none => exact .payload h body joined (Bytes.split?_eq_none_iff.mp cut)
    | some parts =>
      obtain ⟨payload, rest⟩ := parts
      obtain ⟨whole, length⟩ := Bytes.split?_eq_some cut
      have announced : UInt32.ofNat payload.length = h.length := by
        rw [length, UInt32.ofNat_toNat]
      refine .frame ⟨h.tag, h.flags, payload⟩ rest (length ▸ h.length.toNat_lt) ?_
      rw [joined, whole, Chunk.frame, announced, List.append_assoc]

variable {c : Chunk} {bs rest : Bytes}

/-- A record is read off the bytes of its frame. -/
theorem read_eq_ok :
    read bs = .ok (c, rest) ↔ c.payload.length < 0x100000000 ∧ bs = c.frame ++ rest := by
  constructor
  · intro found
    have front := read_spec bs
    rw [found] at front
    cases front with
    | frame _ _ size split => exact ⟨size, split⟩
  · rintro ⟨size, rfl⟩
    exact read_frame size rest

theorem size_le_frame (c : Chunk) : ChunkHeader.size ≤ c.frame.length := by
  simp [Chunk.frame]

/-- The bytes are the frames of the records, one after the other. -/
def Framed (records : List Chunk) (bs : Bytes) : Prop :=
  ∃ frames, records.mapM Chunk.encode = .ok frames ∧ bs = frames.flatten

theorem framed_iff {records : List Chunk} :
    Framed records bs ↔
      (∀ c ∈ records, c.payload.length < 0x100000000) ∧ bs = records.flatMap frame := by
  induction records generalizing bs with
  | nil => simp [Framed, pure, Except.pure]
  | cons c cs ih =>
    constructor
    · rintro ⟨frames, encoded, rfl⟩
      rw [List.mapM_cons, Chunk.encode] at encoded
      split at encoded
      · rename_i size
        cases others : cs.mapM Chunk.encode with
        | error e => simp [others, bind, Except.bind] at encoded
        | ok tail =>
          obtain ⟨sizes, joined⟩ := ih.mp ⟨tail, others, rfl⟩
          have made : c.frame :: tail = frames := by
            simpa [others, bind, Except.bind, pure, Except.pure] using encoded
          rw [← made, List.flatten_cons, List.flatMap_cons, joined]
          exact ⟨List.forall_mem_cons.mpr ⟨size, sizes⟩, rfl⟩
      · cases encoded
    · rintro ⟨sizes, rfl⟩
      obtain ⟨size, sizes⟩ := List.forall_mem_cons.mp sizes
      obtain ⟨frames, encoded, joined⟩ := ih.mpr ⟨sizes, rfl⟩
      refine ⟨c.frame :: frames, ?_, by rw [List.flatten_cons, List.flatMap_cons, joined]⟩
      rw [List.mapM_cons, encode_eq_ok size, encoded]
      rfl

end Chunk

namespace Content

theorem length_preamble (count headerSize : Nat) :
    (preamble count headerSize).length = preambleSize := by
  simp [preamble, magic, preambleSize]

/-- The four words of a preamble. -/
theorem words_preamble (count headerSize : Nat) :
    (preamble count headerSize).take 4 = magic ∧
      ((preamble count headerSize).drop 4).take 4 = Bytes.ofNatLE 4 version ∧
      ((preamble count headerSize).drop 8).take 4 = Bytes.ofNatLE 4 count ∧
      ((preamble count headerSize).drop 12).take 4 = Bytes.ofNatLE 4 headerSize := by
  refine ⟨?_, ?_, ?_, ?_⟩
  · simp [preamble, magic]
  · simp [preamble, magic]
  · simp [preamble, magic]
  · rw [preamble, List.drop_left' (by simp [magic]), List.take_of_length_le (by simp)]

/-- The four words of a preamble make it up. -/
theorem eq_preamble {p : Bytes} (length : p.length = preambleSize)
    (signed : p.take 4 = magic) (versioned : Bytes.toNatLE ((p.drop 4).take 4) = version) :
    p = preamble (Bytes.toNatLE ((p.drop 8).take 4)) (Bytes.toNatLE ((p.drop 12).take 4)) := by
  have word (i : Nat) (inside : i + 4 ≤ 16) :
      Bytes.ofNatLE 4 (Bytes.toNatLE ((p.drop i).take 4)) = (p.drop i).take 4 := by
    apply Bytes.ofNatLE_word
    rw [List.length_take, List.length_drop, length, preambleSize]
    omega
  have next (i : Nat) : (p.drop i).take 4 ++ p.drop (i + 4) = p.drop i := by
    have parts := List.take_append_drop 4 (p.drop i)
    rwa [List.drop_drop] at parts
  have ended : p.drop 16 = [] := List.drop_of_length_le (Nat.le_of_eq length)
  have last := next 12
  rw [ended, List.append_nil] at last
  calc p = p.take 4 ++ p.drop 4 := (List.take_append_drop 4 p).symm
    _ = p.take 4 ++ (p.drop 4).take 4 ++ (p.drop 8).take 4 ++ (p.drop 12).take 4 := by
      rw [last, List.append_assoc, List.append_assoc, next 8, next 4]
    _ = _ := by
      rw [preamble, signed, ← versioned, word 4 (by decide), word 8 (by decide),
        word 12 (by decide)]

end Content

namespace ContentFile

/-- The bytes behind a preamble are a header of the announced size and the records. -/
theorem parse_preamble {count : Nat} {header : FileHeader} {records : Bytes}
    (counted : count < 0x100000000) (short : (encodePayload header).length < 0x100000000)
    (path name : String) :
    parse path name (Content.preamble count (encodePayload header).length ++
        encodePayload header ++ records) = .ok { path, name, header, count, records } := by
  obtain ⟨magic, version, countWord, sizeWord⟩ :=
    Content.words_preamble count (encodePayload header).length
  have front := Bytes.split?_append_of_length
    (Content.length_preamble count (encodePayload header).length) (encodePayload header ++ records)
  have decoded := FileHeader.decodePayload_encodePayload short
  have versionBack : Bytes.toNatLE (Bytes.ofNatLE 4 Content.version) = Content.version := by decide
  rw [List.append_assoc, parse, front]
  simp only [magic, version, countWord, sizeWord, versionBack, Bytes.toNatLE_word counted,
    Bytes.toNatLE_word short, Bytes.split?_append, decoded, Nat.mul_one, ne_eq, not_true,
    if_false, Nat.reduceMul]

/-- How the parts of a content file lie in its bytes. -/
structure Layout (file : ContentFile) (bs header : Bytes) : Prop where
  bytes : bs = Content.preamble file.count header.length ++ header ++ file.records
  count : file.count < 0x100000000
  size : header.length < 0x100000000
  decoded : decodePayload header = .ok file.header

variable {path name : String} {bs : Bytes} {file : ContentFile}

theorem layout_of_parse (parsed : parse path name bs = .ok file) :
    (∃ header, file.Layout bs header) ∧ file.path = path ∧ file.name = name := by
  unfold parse at parsed
  split at parsed
  · cases parsed
  rename_i preamble body cut
  obtain ⟨joined, length⟩ := Bytes.split?_eq_some cut
  have word (i : Nat) (inside : i + 4 ≤ 16) : ((preamble.drop i).take 4).length = 4 := by
    rw [List.length_take, List.length_drop, length, Content.preambleSize]
    omega
  dsimp only [Nat.mul_one, Nat.reduceMul] at parsed
  split at parsed
  · cases parsed
  rename_i signed
  split at parsed
  · cases parsed
  rename_i versioned
  split at parsed
  · cases parsed
  rename_i header records split
  obtain ⟨whole, size⟩ := Bytes.split?_eq_some split
  split at parsed
  · cases parsed
  rename_i decoded
  rw [← Except.ok.inj parsed]
  refine ⟨⟨header, ?_, Bytes.toNatLE_word_lt (word 8 (by decide)), ?_, decoded⟩, rfl, rfl⟩
  · rw [size, ← Content.eq_preamble length (not_not.mp signed) (not_not.mp versioned), joined,
      whole, List.append_assoc]
  · rw [size]
    exact Bytes.toNatLE_word_lt (word 12 (by decide))

end ContentFile

end ContentLayers
