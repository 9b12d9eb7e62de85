import ContentLayers.Kind
import ContentLayers.Proofs.Readers

/-!
# Drafts read back

A finished draft is opened again with its header and its number of records, and a reader delivers
its records one by one.
-/

namespace ContentLayers

theorem Draft.pushAll_eq_ok {d : Draft} {cs : List Chunk}
    (sizes : ∀ c ∈ cs, c.payload.length < 0x100000000) :
    d.pushAll cs = .ok { d with records := d.records ++ cs.toArray } := by
  induction cs generalizing d with
  | nil => simp [pushAll, pure, Except.pure]
  | cons c cs ih =>
    have first : d.push c = .ok { d with records := d.records.push c } := by
      rw [push, Chunk.encode_eq_ok (sizes c List.mem_cons_self), Except.map]
    have others := ih (d := { d with records := d.records.push c })
      fun b mem => sizes b (List.mem_cons_of_mem c mem)
    rw [pushAll] at others ⊢
    rw [List.foldlM_cons, first]
    simpa [bind, Except.bind] using others

/-- The finished bytes of some records. -/
theorem Draft.bytes?_of_sizes {header : FileHeader} {records : List Chunk}
    (count : records.length < 0x100000000)
    (headerSize : (encodePayload header).length < 0x100000000) :
    (Draft.mk header records.toArray).bytes? = some
      (Content.preamble records.length (encodePayload header).length ++ encodePayload header ++
        records.flatMap Chunk.frame) := by
  have counted : (UInt32.ofNat records.length).toNat = records.length :=
    UInt32.toNat_ofNat_of_lt' count
  simp only [bytes?, headerSize, if_true, Draft.count, frames, List.size_toArray, counted]

/-- **A finished draft is read back.** Its bytes open with its header and its number of records,
and a reader delivers every record as it was pushed, and from then on none. -/
theorem Draft.bytes_read_back (header : FileHeader) (records : List Chunk)
    (count : records.length < 0x100000000)
    (headerSize : (encodePayload header).length < 0x100000000)
    (sizes : ∀ c ∈ records, c.payload.length < 0x100000000) (path name : String) :
    ∃ draft bytes file, (Draft.new header).pushAll records = .ok draft ∧
      draft.bytes? = some bytes ∧ ContentFile.parse path name bytes = .ok file ∧
      file.header = header ∧ file.count = records.length ∧
      ∀ n, file.reader.calls n = (List.range n).map fun i => .ok records[i]? := by
  have pushed := pushAll_eq_ok (d := Draft.new header) sizes
  refine ⟨⟨header, records.toArray⟩, _, _, by simpa [Draft.new] using pushed,
    bytes?_of_sizes count headerSize, ContentFile.parse_preamble count headerSize path name, rfl,
    rfl, fun n => ?_⟩
  exact Reader.calls_frames sizes rfl rfl n

/-- An empty record, and a record whose payload looks like the frame of another. -/
def nestedRecords : List Chunk :=
  [⟨Kind.infoTag, 0xFFFFFFFF, []⟩, ⟨.null, 0, (Chunk.mk Kind.infoTag 1 [0x80]).frame⟩]

theorem Draft.bytes_read_back_nested :
    (encodePayload (FileHeader.mk "a" "" [⟨"base", 7⟩])).length < 0x100000000 ∧
      ∃ draft bytes file, (Draft.new ⟨"a", "", [⟨"base", 7⟩]⟩).pushAll nestedRecords = .ok draft ∧
        draft.bytes? = some bytes ∧ ContentFile.parse "d/n" "n" bytes = .ok file ∧
        file.reader.calls 4 =
          (nestedRecords.map fun c => .ok (some c)) ++ [.ok none, .ok none] := by
  have short : (encodePayload (FileHeader.mk "a" "" [⟨"base", 7⟩])).length < 0x100000000 := by
    cbv
  obtain ⟨draft, bytes, file, pushed, finished, parsed, _, _, calls⟩ :=
    Draft.bytes_read_back ⟨"a", "", [⟨"base", 7⟩]⟩ nestedRecords (by decide) short (by decide)
      "d/n" "n"
  exact ⟨short, draft, bytes, file, pushed, finished, parsed, calls 4⟩

end ContentLayers
