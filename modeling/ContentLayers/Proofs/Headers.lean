import ContentLayers.Content.Header
import ContentLayers.Proofs.Shapes

/-!
# File headers read back

A header is read back from its encoding when the whole encoding has a length of four bytes.
-/

namespace ContentLayers

open MsgPack

theorem Master.lawful_shape : Master.shape.Lawful where
  distinct := by decide
  columns := by simp [Master.shape]
  back _ := rfl

instance : Payload.Lawful Master := ⟨Master.lawful_shape.read?_write⟩

instance {depth : Nat} : Payload.Nests (depth + 1) Master :=
  ⟨fun _ => Shape.fits_write (by simp [Master.shape])⟩

theorem FileHeader.lawful_shape : FileHeader.shape.Lawful where
  distinct := by decide
  columns := by simp [FileHeader.shape]
  back _ := rfl

instance : Payload.Lawful FileHeader := ⟨FileHeader.lawful_shape.read?_write⟩

instance {depth : Nat} : Payload.Nests (depth + 3) FileHeader :=
  ⟨fun _ => Shape.fits_write (by simp [FileHeader.shape])⟩

theorem FileHeader.decodePayload_encodePayload {h : FileHeader}
    (short : (encodePayload h).length < 0x100000000) : decodePayload (encodePayload h) = .ok h := by
  have read := ContentLayers.decodePayload_encodePayload 3 (by decide)
    (Value.sized_of_length _ short) []
  rwa [List.append_nil] at read

end ContentLayers
