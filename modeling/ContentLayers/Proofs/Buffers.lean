import ContentLayers.Proofs.Loading

/-!
# Loading a buffer

A load takes the records of a buffer call by call. It applies what the feed of the buffer holds and
leaves a buffer that can be read again from its start.
-/

namespace ContentLayers

namespace Buffer

variable {b : Buffer} {c : Chunk} {rest : List Chunk}

/-- The records at the cursor and behind it. -/
def unread (b : Buffer) : List Chunk := b.records.toList.drop b.cursor

theorem rewind_of_start (start : b.cursor = 0) : b.rewind = b := by
  rw [rewind, ← start]

/-- A buffer that is read to its end delivers nothing and stays. -/
theorem next_of_unread_nil (read : b.unread = []) : b.next = (b, none) := by
  have beyond : b.records[b.cursor]? = none := by
    rw [← Array.getElem?_toList, ← List.head?_drop]
    exact List.head?_eq_none_iff.mpr read
  rw [next, beyond]

/-- Any other buffer delivers the record at its cursor and moves behind it. -/
theorem next_of_unread_cons (held : b.unread = c :: rest) :
    ∃ left, b.next = (left, some c) ∧ left.unread = rest ∧ left.rewind = b.rewind := by
  have first : b.records[b.cursor]? = some c := by
    rw [← Array.getElem?_toList, ← List.head?_drop]
    exact congrArg List.head? held
  refine ⟨{ b with cursor := b.cursor + 1 }, by rw [next, first], ?_, rfl⟩
  exact List.tail_drop.symm.trans (congrArg List.tail held)

theorem unread_of_next {left : Buffer} (delivered : b.next = (left, some c)) :
    b.unread = c :: left.unread := by
  cases held : b.unread with
  | nil => simp [next_of_unread_nil held] at delivered
  | cons first rest =>
    obtain ⟨moved, step, behind, -⟩ := next_of_unread_cons held
    obtain ⟨rfl, rfl⟩ : first = c ∧ moved = left := by simpa [step, and_comm] using delivered
    rw [behind]

end Buffer

namespace Loading

/-- Applies the records that a buffer delivers, up to the first that is refused. -/
def drain (l : Loading Store) (b : Buffer) : Loading Store × Buffer × Option FormatError :=
  match delivered : b.next with
  | (left, none) => (l, left, none)
  | (left, some c) =>
    have fewer : left.unread.length < b.unread.length := by simp [Buffer.unread_of_next delivered]
    match l.apply c with
    | (next, none) => next.drain left
    | (next, some e) => (next, left, some e)
termination_by b.unread.length

variable {l : Loading Store} {b left : Buffer} {c : Chunk}

theorem drain_of_end (ended : b.next = (left, none)) : l.drain b = (l, left, none) := by
  rw [drain]
  split <;> simp_all

theorem drain_of_next (delivered : b.next = (left, some c)) :
    l.drain b =
      match l.apply c with
      | (next, none) => next.drain left
      | (next, some e) => (next, left, some e) := by
  rw [drain]
  split <;> simp_all

/-- Records taken one by one are applied as those of a list are, and the buffer keeps them all. -/
theorem drain_eq (l : Loading Store) (b : Buffer) :
    ∃ left, l.drain b = ((l.run b.unread).1, left, (l.run b.unread).2) ∧
      left.rewind = b.rewind := by
  generalize records : b.unread = rest
  induction rest generalizing l b with
  | nil => exact ⟨b, drain_of_end (Buffer.next_of_unread_nil records), rfl⟩
  | cons c cs ih =>
    obtain ⟨left, step, behind, kept⟩ := Buffer.next_of_unread_cons records
    rw [drain_of_next step, run]
    cases applied : l.apply c with
    | mk next failure =>
      cases failure with
      | none =>
        obtain ⟨last, drained, same⟩ := ih next left behind
        exact ⟨last, drained, same.trans kept⟩
      | some e => exact ⟨left, rfl, kept⟩

end Loading

namespace Store

/-- Reads a buffer as the content file with an index in the load order, up to its end or up to and
with the record that is refused. -/
def loadBuffer (s : Store) (b : Buffer) (index : Nat) : Loaded Store × Buffer :=
  let (l, left, failure) := (Loading.start s b.name index).drain b
  (l.ended b.name (some b.records.size) failure, left)

/-- **A buffer is loaded as its feed is.** -/
theorem loadBuffer_fst (s : Store) (b : Buffer) (index : Nat) :
    (s.loadBuffer b index).1 = s.load b.feed index := by
  obtain ⟨left, drained, -⟩ := (Loading.start s b.name index).drain_eq b
  rw [loadBuffer, drained, load]
  simp [Buffer.feed, Buffer.unread]

/-- Once rewound, a buffer that was loaded from its start is the one that it was. -/
theorem rewind_loadBuffer (s : Store) {b : Buffer} (start : b.cursor = 0) (index : Nat) :
    (s.loadBuffer b index).2.rewind = b := by
  obtain ⟨left, drained, kept⟩ := (Loading.start s b.name index).drain_eq b
  rw [loadBuffer, drained, kept, Buffer.rewind_of_start start]

end Store

end ContentLayers
