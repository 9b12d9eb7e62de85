import ContentLayers.Kind
import ContentLayers.Proofs.Frames

/-!
# Readers of any bytes

A reader delivers the records that are framed at the front of its bytes, as many as are whole and no
more than announced, and from then on gives one answer on every call.
-/

namespace ContentLayers

namespace Reader

/-- What some calls of a reader give, one after the other. -/
def calls : Nat → Reader → List (Except StreamError (Option Chunk))
  | 0, _ => []
  | n + 1, r => r.next.2 :: r.next.1.calls n

/-- A reader after some calls. -/
def after : Nat → Reader → Reader
  | 0, r => r
  | n + 1, r => r.next.1.after n

/-- The answer of a call that delivers nothing: a proper end, or a failure. -/
def answer {α : Type} (failure : Option StreamError) : Except StreamError (Option α) :=
  match failure with
  | none => .ok none
  | some e => .error e

/-- Why a reader delivers no more, as its bytes tell. -/
inductive Ending (r : Reader) : Option StreamError → Prop
  | complete (done : r.left = 0) (empty : r.rest = []) : Ending r none
  | trailing (done : r.left = 0) (more : 0 < r.rest.length) :
      Ending r (some (.trailingBytes r.rest.length))
  | header (due : 0 < r.left) (short : r.rest.length < ChunkHeader.size) :
      Ending r (some .truncatedHeader)
  | payload (due : 0 < r.left) (h : ChunkHeader) (body : Bytes) (split : r.rest = h.encode ++ body)
      (short : body.length < h.length.toNat) :
      Ending r (some (.truncatedPayload h.length body.length))

/-- A record is taken off the front. -/
structure Moves (r : Reader) (c : Chunk) (next : Reader) : Prop where
  size : c.payload.length < 0x100000000
  rest : r.rest = c.frame ++ next.rest
  left : r.left = next.left + 1
  name : r.name = next.name
  total : r.total = next.total

variable {r next last : Reader} {c : Chunk} {records : List Chunk} {failure : Option StreamError}

theorem next_eq_record : r.next = (next, .ok (some c)) ↔ r.Moves c next := by
  obtain ⟨name, rest, left, total⟩ := r
  obtain ⟨name', rest', left', total'⟩ := next
  cases left with
  | zero =>
    constructor
    · intro found
      have given := congrArg (·.2) found
      simp only [Reader.next] at given
      split at given <;> cases given
    · intro moves
      cases moves.left
  | succ left =>
    simp only [Reader.next]
    constructor
    · intro found
      cases read : Chunk.read rest with
      | error e => simp [read] at found
      | ok parts =>
        obtain ⟨size, split⟩ := Chunk.read_eq_ok.mp read
        obtain ⟨⟨rfl, rfl, rfl, rfl⟩, rfl⟩ : (name = name' ∧ parts.2 = rest' ∧ left = left' ∧
            total = total') ∧ parts.1 = c := by simpa [read] using found
        exact ⟨size, split, rfl, rfl, rfl⟩
    · rintro ⟨size, split, counted, rfl, rfl⟩
      obtain rfl : left = left' := Nat.succ.inj counted
      rw [Chunk.read_eq_ok.mpr ⟨size, split⟩]

/-- A call delivers a record, or it tells why there is none and moves nothing. -/
theorem next_spec (r : Reader) :
    (∃ c next, r.Moves c next) ∨
      ∃ failure, r.Ending failure ∧ r.next = (r, answer failure) := by
  obtain ⟨name, rest, left, total⟩ := r
  cases left with
  | zero =>
    right
    cases rest with
    | nil => exact ⟨none, .complete rfl rfl, rfl⟩
    | cons b bs => exact ⟨_, .trailing rfl (Nat.succ_pos _), rfl⟩
  | succ left =>
    simp only [Reader.next]
    have front := Chunk.read_spec rest
    cases read : Chunk.read rest with
    | ok parts =>
      obtain ⟨size, split⟩ := Chunk.read_eq_ok.mp read
      exact Or.inl ⟨parts.1, ⟨name, parts.2, left, total⟩, size, split, rfl, rfl, rfl⟩
    | error e =>
      right
      rw [read] at front
      cases front with
      | header short => exact ⟨_, .header (Nat.succ_pos _) short, rfl⟩
      | payload h body split short => exact ⟨_, .payload (Nat.succ_pos _) h body split short, rfl⟩

/-- A call that fails moves nothing. -/
theorem next_of_error {e : StreamError} (failed : r.next.2 = .error e) : r.next.1 = r := by
  obtain ⟨c, next, moves⟩ | ⟨failure, _, stuck⟩ := r.next_spec
  · rw [next_eq_record.mpr moves] at failed
    cases failed
  · rw [stuck]

theorem answer_ne_record {α : Type} {a : α} : answer failure ≠ .ok (some a) := by
  cases failure <;> simp [answer]

/-- Records delivered one by one, from one state of a reader to another. -/
inductive Trace : Reader → List Chunk → Reader → Prop
  | nil (r : Reader) : Trace r [] r
  | cons {r next last : Reader} {c : Chunk} {cs : List Chunk} (moves : r.Moves c next)
      (others : Trace next cs last) : Trace r (c :: cs) last

/-- Every reader comes to an end. -/
theorem exists_trace (r : Reader) :
    ∃ records last failure, Trace r records last ∧ last.Ending failure ∧
      last.next = (last, answer failure) := by
  generalize counted : r.left = left
  induction left generalizing r with
  | zero =>
    obtain ⟨c, next, moves⟩ | ⟨failure, ending, stuck⟩ := r.next_spec
    · exact absurd (moves.left.symm.trans counted) (Nat.succ_ne_zero _)
    · exact ⟨[], r, failure, .nil r, ending, stuck⟩
  | succ left ih =>
    obtain ⟨c, next, moves⟩ | ⟨failure, ending, stuck⟩ := r.next_spec
    · obtain ⟨records, last, failure, trace, ending⟩ :=
        ih next (Nat.succ.inj (moves.left.symm.trans counted))
      exact ⟨c :: records, last, failure, .cons moves trace, ending⟩
    · exact ⟨[], r, failure, .nil r, ending, stuck⟩

/-- What a trace delivers is framed at the front of the bytes, and the rest is unread. -/
theorem Trace.framed (trace : Trace r records last) :
    (∀ c ∈ records, c.payload.length < 0x100000000) ∧
      r.rest = records.flatMap Chunk.frame ++ last.rest ∧ r.left = records.length + last.left := by
  induction trace with
  | nil r => simp
  | cons moves _ ih =>
    obtain ⟨sizes, rest, left⟩ := ih
    refine ⟨List.forall_mem_cons.mpr ⟨moves.size, sizes⟩, ?_, ?_⟩
    · rw [moves.rest, rest, List.flatMap_cons, List.append_assoc]
    · rw [moves.left, left, List.length_cons]
      omega

/-- Framed records are delivered, as far as they are announced. -/
theorem trace_of_framed {rest : Bytes} {left : Nat}
    (sizes : ∀ c ∈ records, c.payload.length < 0x100000000)
    (framed : r.rest = records.flatMap Chunk.frame ++ rest)
    (counted : r.left = records.length + left) : Trace r records { r with rest, left } := by
  induction records generalizing r with
  | nil =>
    obtain ⟨name, rest', left', total⟩ := r
    obtain rfl : left' = left := by simpa using counted
    obtain rfl : rest' = rest := by simpa using framed
    exact .nil _
  | cons c cs ih =>
    obtain ⟨size, sizes⟩ := List.forall_mem_cons.mp sizes
    let next : Reader :=
      { r with rest := cs.flatMap Chunk.frame ++ rest, left := cs.length + left }
    have moves : r.Moves c next := by
      refine ⟨size, ?_, ?_, rfl, rfl⟩
      · rw [framed, List.flatMap_cons, List.append_assoc]
      · simp only [counted, List.length_cons, next]
        omega
    exact .cons moves (ih (r := next) sizes rfl rfl)

/-- A reader of framed records, and of nothing else, comes to a proper end. -/
theorem exists_trace_of_frames (sizes : ∀ c ∈ records, c.payload.length < 0x100000000)
    (rest : r.rest = records.flatMap Chunk.frame) (left : r.left = records.length) :
    ∃ last, Trace r records last ∧ last.next = (last, answer none) :=
  ⟨{ r with rest := [], left := 0 },
    trace_of_framed sizes (rest.trans (List.append_nil _).symm) left, rfl⟩

/-- No framed records lead further than a reader goes. -/
theorem Trace.longest {more : List Chunk} {m : Reader} (trace : Trace r records last)
    (stuck : last.next = (last, answer failure)) (other : Trace r more m) : more <+: records := by
  induction other generalizing records with
  | nil => exact List.nil_prefix
  | @cons r next m c cs moves _ ih =>
    have here := next_eq_record.mpr moves
    cases trace with
    | nil => exact absurd (congrArg (·.2) (stuck.symm.trans here)) answer_ne_record
    | cons moves' others =>
      obtain ⟨rfl, same⟩ := Prod.mk.inj ((next_eq_record.mpr moves').symm.trans here)
      obtain rfl := Option.some.inj (Except.ok.inj same)
      exact List.cons_prefix_cons.mpr ⟨rfl, ih others⟩

theorem after_of_moves (moves : r.Moves c next) (n : Nat) : r.after (n + 1) = next.after n := by
  rw [after, next_eq_record.mpr moves]

theorem after_add (m n : Nat) (r : Reader) : r.after (m + n) = (r.after m).after n := by
  induction m generalizing r with
  | zero => rw [Nat.zero_add, after]
  | succ m ih => rw [Nat.succ_add, after, ih, after]

/-- Where one call delivers nothing, no call does. -/
theorem stuck_after (stuck : r.next = (r, answer failure)) (n : Nat) :
    r.after n = r ∧ r.calls n = List.replicate n (answer failure) := by
  induction n with
  | zero => exact ⟨rfl, rfl⟩
  | succ n ih =>
    rw [after, calls, stuck, List.replicate_succ]
    exact ⟨ih.1, congrArg _ ih.2⟩

/-- Some calls deliver the first records, and all further calls give the last answer. -/
theorem Trace.calls (trace : Trace r records last) (stuck : last.next = (last, answer failure))
    (n : Nat) : r.calls n = (records.map fun c => .ok (some c)).take n ++
      List.replicate (n - records.length) (answer failure) := by
  induction trace generalizing n with
  | nil r => simpa using (stuck_after stuck n).2
  | cons moves _ ih =>
    cases n with
    | zero => simp [Reader.calls]
    | succ n =>
      rw [Reader.calls, next_eq_record.mpr moves]
      simp [ih stuck n]

/-- A reader of framed records delivers them in order, and from then on none. -/
theorem calls_frames (sizes : ∀ c ∈ records, c.payload.length < 0x100000000)
    (rest : r.rest = records.flatMap Chunk.frame) (left : r.left = records.length) (n : Nat) :
    r.calls n = (List.range n).map fun i => .ok records[i]? := by
  obtain ⟨last, trace, stuck⟩ := exists_trace_of_frames sizes rest left
  rw [trace.calls stuck]
  refine List.ext_getElem (by simp; omega) fun i _ inside => ?_
  have called : i < n := by simpa using inside
  by_cases early : i < records.length
  · simp [early, called]
  · simp [early, Nat.le_of_not_lt early, answer]

/-- Some calls lead to where the first records end. -/
theorem Trace.after (trace : Trace r records last) (stuck : last.next = (last, answer failure))
    (n : Nat) : Trace r (records.take n) (r.after n) := by
  induction trace generalizing n with
  | nil r =>
    rw [List.take_nil, (stuck_after stuck n).1]
    exact .nil r
  | cons moves _ ih =>
    cases n with
    | zero => exact .nil _
    | succ n =>
      rw [List.take_succ_cons, after_of_moves moves]
      exact .cons moves (ih stuck n)

theorem Trace.arrives (trace : Trace r records last) : r.after records.length = last := by
  induction trace with
  | nil r => rfl
  | cons moves _ ih => rw [List.length_cons, after_of_moves moves, ih]

/-- Calls that deliver records up to a proper end. -/
theorem trace_of_calls {n : Nat}
    (delivered : r.calls n = (records.map fun c => .ok (some c)) ++ [.ok none]) :
    ∃ last, Trace r records last ∧ last.Ending none := by
  induction records generalizing r n with
  | nil =>
    cases n with
    | zero => cases delivered
    | succ n =>
      obtain ⟨c, next, moves⟩ | ⟨failure, ending, stuck⟩ := r.next_spec
      · rw [calls, next_eq_record.mpr moves] at delivered
        cases delivered
      · rw [(stuck_after stuck _).2, List.replicate_succ] at delivered
        cases failure with
        | none => exact ⟨r, .nil r, ending⟩
        | some e => cases delivered
  | cons c cs ih =>
    cases n with
    | zero => cases delivered
    | succ n =>
      obtain ⟨d, next, moves⟩ | ⟨failure, _, stuck⟩ := r.next_spec
      · rw [calls, next_eq_record.mpr moves] at delivered
        obtain ⟨first, others⟩ := List.cons.inj delivered
        obtain rfl : d = c := by simpa using first
        obtain ⟨last, trace, ending⟩ := ih others
        exact ⟨last, .cons moves trace, ending⟩
      · rw [(stuck_after stuck _).2, List.replicate_succ] at delivered
        exact absurd (List.cons.inj delivered).1 answer_ne_record

/-- A feed is what a trace delivers. -/
theorem Trace.feed (trace : Trace r records last) (stuck : last.next = (last, answer failure)) :
    r.feed = ⟨r.name, some r.total, records, failure⟩ := by
  induction trace with
  | nil r =>
    obtain ⟨name, rest, left, total⟩ := r
    cases left with
    | zero =>
      cases rest <;> cases failure <;>
        simp_all [Reader.next, answer, Reader.feed, Chunk.split]
    | succ left =>
      simp only [Reader.next] at stuck
      cases read : Chunk.read rest with
      | ok parts =>
        rw [read] at stuck
        exact absurd (congrArg (·.2) stuck.symm) answer_ne_record
      | error e =>
        rw [read] at stuck
        cases failure with
        | none => cases stuck
        | some e' =>
          obtain rfl : e = e' := Except.error.inj (congrArg (·.2) stuck)
          simp [Reader.feed, Chunk.split, read]
  | cons moves others ih =>
    have fed := ih stuck
    have read := Chunk.read_eq_ok.mpr ⟨moves.size, moves.rest⟩
    simp only [Reader.feed, Feed.mk.injEq, true_and] at fed ⊢
    rw [moves.left, Chunk.split, read]
    exact ⟨congrArg _ fed.1, fed.2⟩

/-- What the calls of a reader give: some records, and then one answer for ever. -/
structure Delivers (r : Reader) (records : List Chunk) (failure : Option StreamError) : Prop where
  calls : ∀ n, r.calls n = (records.map fun c => .ok (some c)).take n ++
    List.replicate (n - records.length) (answer failure)
  /-- Nothing is lost at any time. -/
  unread : ∀ n, ∃ front, Chunk.Framed (records.take n) front ∧ r.rest = front ++ (r.after n).rest
  left : ∀ n, r.left = min n records.length + (r.after n).left
  ending : (r.after records.length).Ending failure
  /-- Calls past the last record move nothing, be they answered by an end or by an error. -/
  still : ∀ n, r.after (records.length + n) = r.after records.length
  /-- No more records are framed at the front, within the announced number. -/
  longest : ∀ more front back, Chunk.Framed more front → r.rest = front ++ back →
    more.length ≤ r.left → more <+: records
  bound : records.length ≤ min r.left (r.rest.length / ChunkHeader.size)
  /-- The feed of the reader is what its calls deliver. -/
  feed : r.feed = ⟨r.name, some r.total, records, failure⟩

theorem length_frames_le (records : List Chunk) :
    records.length * ChunkHeader.size ≤ (records.flatMap Chunk.frame).length := by
  induction records with
  | nil => simp
  | cons c cs ih =>
    have first := c.size_le_frame
    rw [List.length_cons, List.flatMap_cons, List.length_append, Nat.succ_mul]
    omega

/-- Every reader delivers the longest run of framed records. -/
theorem exists_delivers (r : Reader) : ∃ records failure, r.Delivers records failure := by
  obtain ⟨records, last, failure, trace, ending, stuck⟩ := r.exists_trace
  refine ⟨records, failure, trace.calls stuck, fun n => ?_, fun n => ?_, ?_, fun n => ?_, ?_, ?_,
    trace.feed stuck⟩
  · obtain ⟨sizes, rest, _⟩ := (trace.after stuck n).framed
    exact ⟨_, Chunk.framed_iff.mpr ⟨sizes, rfl⟩, rest⟩
  · obtain ⟨_, _, left⟩ := (trace.after stuck n).framed
    rwa [List.length_take] at left
  · rwa [trace.arrives]
  · rw [after_add, trace.arrives, (stuck_after stuck n).1]
  · intro more front back framed split counted
    obtain ⟨sizes, rfl⟩ := Chunk.framed_iff.mp framed
    obtain ⟨left, counted⟩ := Nat.exists_eq_add_of_le counted
    exact trace.longest stuck (trace_of_framed sizes split counted)
  · obtain ⟨_, rest, left⟩ := trace.framed
    have size := length_frames_le records
    refine Nat.le_min.mpr ⟨by omega, (Nat.le_div_iff_mul_le (by decide)).mpr ?_⟩
    rw [rest, List.length_append]
    omega

end Reader

/-- **Reading any content file.** Its reader reaches a proper end just when the bytes behind the
header are the frames of as many records as announced. -/
theorem ContentFile.reader_delivers {path name : String} {bs : Bytes} {file : ContentFile}
    (parsed : parse path name bs = .ok file) :
    (∃ header, file.Layout bs header) ∧
      (∀ records, (∃ n, file.reader.calls n = (records.map fun c => .ok (some c)) ++ [.ok none]) ↔
        records.length = file.count ∧ Chunk.Framed records file.records) ∧
      ∃ records failure, file.reader.Delivers records failure := by
  refine ⟨(layout_of_parse parsed).1, fun records => ?_, file.reader.exists_delivers⟩
  constructor
  · rintro ⟨n, delivered⟩
    obtain ⟨last, trace, ending⟩ := Reader.trace_of_calls delivered
    obtain ⟨sizes, rest, left⟩ := trace.framed
    cases ending with
    | complete done empty =>
      rw [empty, List.append_nil] at rest
      rw [done, Nat.add_zero] at left
      exact ⟨left.symm, Chunk.framed_iff.mpr ⟨sizes, rest⟩⟩
  · rintro ⟨count, framed⟩
    obtain ⟨sizes, whole⟩ := Chunk.framed_iff.mp framed
    obtain ⟨last, trace, stuck⟩ :=
      Reader.exists_trace_of_frames (r := file.reader) sizes whole count.symm
    have called := trace.calls stuck (records.length + 1)
    rw [List.take_of_length_le (by simp), Nat.add_sub_cancel_left] at called
    exact ⟨_, called⟩

/-- A whole record and a header cut short, in a file that announces more records than bytes. -/
def hostileFile : ContentFile where
  path := "d/n"
  name := "n"
  header := ⟨"a", "", []⟩
  count := 0xFFFFFFFF
  records := (Chunk.mk Kind.infoTag 0xFFFFFFFF [0x80]).frame ++ [1, 2, 3]

theorem ContentFile.reader_delivers_hostile :
    parse "d/n" "n" (Content.preamble 0xFFFFFFFF (encodePayload hostileFile.header).length ++
        encodePayload hostileFile.header ++ hostileFile.records) = .ok hostileFile ∧
      hostileFile.reader.calls 3 = [.ok (some ⟨Kind.infoTag, 0xFFFFFFFF, [0x80]⟩),
        .error .truncatedHeader, .error .truncatedHeader] := by
  have short : (encodePayload hostileFile.header).length < 0x100000000 := by cbv
  have parsed : parse "d/n" "n" (Content.preamble 0xFFFFFFFF
      (encodePayload hostileFile.header).length ++ encodePayload hostileFile.header ++
        hostileFile.records) = .ok hostileFile := parse_preamble (by decide) short "d/n" "n"
  obtain ⟨_, _, records, failure, delivers⟩ := reader_delivers parsed
  have fed : hostileFile.reader.feed = ⟨"n", some 0xFFFFFFFF,
    [⟨Kind.infoTag, 0xFFFFFFFF, [0x80]⟩], some .truncatedHeader⟩ := by rfl
  obtain ⟨_, _, rfl, rfl⟩ : _ ∧ _ ∧ records = _ ∧ failure = _ := by
    simpa using delivers.feed.symm.trans fed
  exact ⟨parsed, delivers.calls 3⟩

end ContentLayers
