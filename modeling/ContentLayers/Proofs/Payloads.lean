import ContentLayers.Chunk.Basic
import ContentLayers.Proofs.Values

/-!
# Payloads read back

Types whose written values are read back, and how deep these values nest. What such a type writes is
decoded from its encoding, whatever follows it.
-/

namespace ContentLayers

open MsgPack

namespace Bytes

theorem toList_loop (bs : ByteArray) (i : Nat) (done : List UInt8) :
    ByteArray.toList.loop bs i done = done.reverse ++ bs.data.toList.drop i := by
  fun_induction ByteArray.toList.loop bs i done with
  | case1 i done inside ih =>
    have bound : i < bs.data.toList.length := by simpa using inside
    have byte : bs.get! i = bs.data.toList[i] := getElem!_pos bs.data i inside
    rw [ih, List.drop_eq_getElem_cons bound, List.reverse_cons, List.append_assoc, byte]
    rfl
  | case2 i done outside =>
    have bound : bs.data.toList.length ≤ i := by simpa using outside
    rw [List.drop_eq_nil_of_le bound, List.append_nil]

theorem toList_toArray (bs : ByteArray) : (⟨bs.toList.toArray⟩ : ByteArray) = bs := by
  simp [ByteArray.toList, toList_loop]

theorem text?_ofText (s : String) : text? (ofText s) = some s := by
  rw [text?, ofText, toList_toArray, String.fromUTF8?, String.toUTF8_eq_toByteArray,
    dif_pos s.isValidUTF8]
  rfl

theorem ofText_inj {s t : String} : ofText s = ofText t ↔ s = t := by
  refine ⟨fun same => ?_, congrArg ofText⟩
  have read := congrArg text? same
  rwa [text?_ofText, text?_ofText, Option.some.injEq] at read

end Bytes

namespace MsgPack

theorem Value.integer?_integer {i : Int} (low : -0x8000000000000000 ≤ i)
    (high : i < 0x10000000000000000) : (integer i).integer? = some i := by
  rw [integer]
  split_ifs with negative
  · rw [integer?, Int64.toInt_ofInt_of_le low (by omega)]
  · have bound : i.toNat < UInt64.size := by
      change i.toNat < 0x10000000000000000
      omega
    rw [integer?, UInt64.toNat_ofNat_of_lt' bound, Int.toNat_of_nonneg (by omega)]

/-- Reading a written value gives it back. -/
class Payload.Lawful (α : Type) [Payload α] : Prop where
  read?_write : ∀ a : α, Payload.read? (Payload.write a) = some a

namespace Payload

open Lawful

instance : Lawful String := ⟨Bytes.text?_ofText⟩

/-- An integer type is lawful when its numbers lie in its range, and the range within the wire's. -/
theorem lawful_ofRange {α : Type} {lo hi : Int} {toInt : α → Int} {ofInt : Int → α}
    (low : -0x8000000000000000 ≤ lo) (high : hi < 0x10000000000000000)
    (range : ∀ a, lo ≤ toInt a ∧ toInt a ≤ hi) (back : ∀ a, ofInt (toInt a) = a) :
    @Lawful α (ofRange lo hi toInt ofInt) := by
  refine @Lawful.mk α (ofRange lo hi toInt ofInt) fun a => ?_
  obtain ⟨above, below⟩ := range a
  have wire : (Value.integer (toInt a)).integer? = some (toInt a) :=
    Value.integer?_integer (by omega) (by omega)
  show (Value.integer (toInt a)).integer?.bind _ = some a
  rw [wire, Option.bind_some, if_pos ⟨above, below⟩, back]

instance : Lawful UInt64 :=
  lawful_ofRange (by decide) (by decide)
    (fun n => ⟨by omega, by have bound := n.toNat_lt; omega⟩)
    (fun n => by rw [Int.toNat_natCast, UInt64.ofNat_toNat])

theorem mapM_eq_some_iff {α β : Type} {f : α → Option β} {as : List α} {bs : List β} :
    as.mapM f = some bs ↔ as.map f = bs.map some := by
  induction as generalizing bs with
  | nil => cases bs <;> simp
  | cons a as ih =>
    cases bs with
    | nil => simp [Option.bind_eq_some_iff]
    | cons b bs => simp [Option.bind_eq_some_iff, ih]

instance {α : Type} [Payload α] [Lawful α] : Lawful (List α) where
  read?_write as := by
    refine mapM_eq_some_iff.mpr ?_
    rw [List.map_map]
    exact List.map_congr_left fun a _ => read?_write a

/-- Written values nest at most `depth` deep. -/
class Nests (depth : Nat) (α : Type) [Payload α] : Prop where
  fits : ∀ a : α, (write a).Sized → Value.Fits depth (write a)

theorem fits_integer (depth : Nat) (i : Int) : Value.Fits depth (.integer i) := by
  rw [Value.integer]
  split
  · exact .int _
  · exact .uint _

instance {depth : Nat} : Nests depth String where
  fits s sized := by
    obtain ⟨_, fits⟩ := sized
    cases fits with
    | str size => exact .str size

instance {depth : Nat} : Nests depth UInt64 := ⟨fun _ _ => fits_integer depth _⟩

instance {depth : Nat} {α : Type} [Payload α] [Nests depth α] : Nests (depth + 1) (List α) where
  fits as sized := by
    obtain ⟨_, fits⟩ := sized
    cases fits with
    | array count each =>
      refine .array count fun v mem => ?_
      obtain ⟨a, _, rfl⟩ := List.mem_map.mp mem
      exact Nests.fits a ⟨_, each _ mem⟩

end Payload

end MsgPack

theorem decodePayload_of_spells {α : Type} [Payload α] {bs : Bytes} {v : Value} {a : α}
    (spells : Value.Spells maxNesting bs v) (read : Payload.read? v = some a) (rest : Bytes) :
    decodePayload (bs ++ rest) = .ok a := by
  rw [decodePayload, spells.decode?, Option.bind_some, read]

theorem decodePayload_encodePayload {α : Type} [Payload α] [Payload.Lawful α] (depth : Nat)
    [Payload.Nests depth α] (within : depth ≤ maxNesting) {a : α} (sized : (Payload.write a).Sized)
    (rest : Bytes) : decodePayload (encodePayload a ++ rest) = .ok a :=
  decodePayload_of_spells ((Payload.Nests.fits a sized).mono within).spells_encode
    (Payload.Lawful.read?_write a) rest

end ContentLayers
