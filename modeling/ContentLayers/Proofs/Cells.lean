import ContentLayers.Kind
import ContentLayers.Proofs.Shapes

/-!
# Cells of the built-in kinds

Every type of cell is read back and nests a bounded number of times, so every column of every
built-in kind does.
-/

namespace ContentLayers

open MsgPack

namespace MsgPack.Payload

open Lawful

instance : Lawful Bool := ⟨fun _ => rfl⟩

instance : Lawful Binary32 := ⟨fun _ => rfl⟩

instance : Lawful Blob := ⟨fun _ => rfl⟩

instance : Lawful UInt8 :=
  lawful_ofRange (by decide) (by decide)
    (fun n => ⟨by omega, by have bound := n.toNat_lt; omega⟩)
    (fun n => by rw [Int.toNat_natCast, UInt8.ofNat_toNat])

instance : Lawful UInt16 :=
  lawful_ofRange (by decide) (by decide)
    (fun n => ⟨by omega, by have bound := n.toNat_lt; omega⟩)
    (fun n => by rw [Int.toNat_natCast, UInt16.ofNat_toNat])

instance : Lawful UInt32 :=
  lawful_ofRange (by decide) (by decide)
    (fun n => ⟨by omega, by have bound := n.toNat_lt; omega⟩)
    (fun n => by rw [Int.toNat_natCast, UInt32.ofNat_toNat])

instance : Lawful Int16 :=
  lawful_ofRange (by decide) (by decide)
    (fun i => ⟨i.le_toInt, by have bound := i.toInt_lt; omega⟩) Int16.ofInt_toInt

instance : Lawful Int32 :=
  lawful_ofRange (by decide) (by decide)
    (fun i => ⟨i.le_toInt, by have bound := i.toInt_lt; omega⟩) Int32.ofInt_toInt

/-- A finite choice is lawful when its values are all listed and a byte can number them. -/
theorem lawful_numbered {α : Type} [DecidableEq α] {values : List α} (complete : ∀ a, a ∈ values)
    (short : values.length ≤ 0x100) : @Lawful α (numbered values) := by
  refine @Lawful.mk α (numbered values) fun a => ?_
  have inside : values.idxOf a < values.length := List.idxOf_lt_length_of_mem (complete a)
  have digit : (UInt8.ofNat (values.idxOf a)).toNat = values.idxOf a := by
    rw [UInt8.toNat_ofNat', Nat.mod_eq_of_lt (by omega)]
  have written : write (UInt8.ofNat (values.idxOf a)) = Value.integer (values.idxOf a) :=
    congrArg (fun n : Nat => Value.integer n) digit
  have byte := read?_write (UInt8.ofNat (values.idxOf a))
  rw [written] at byte
  show (read? (Value.integer (values.idxOf a)) : Option UInt8).bind _ = some a
  rw [byte, Option.bind_some, digit, List.getElem?_eq_getElem inside, List.getElem_idxOf inside]

section Pairs

variable {α : Type} [Payload α]

instance [Lawful α] : Lawful (α × α) where
  read?_write p := by
    have first := read?_write p.1
    have second := read?_write p.2
    show (read? (write p.1)).bind (fun a => (read? (write p.2)).map (a, ·)) = some p
    rw [first, second, Option.bind_some, Option.map_some]

instance {depth : Nat} [Nests depth α] : Nests (depth + 1) (α × α) where
  fits p sized := by
    obtain ⟨_, fits⟩ := sized
    cases fits with
    | array count each =>
      obtain ⟨first, others⟩ := List.forall_mem_cons.mp each
      have second := List.forall_mem_singleton.mp others
      exact .array count (List.forall_mem_cons.mpr ⟨Nests.fits p.1 ⟨_, first⟩,
        List.forall_mem_singleton.mpr (Nests.fits p.2 ⟨_, second⟩)⟩)

end Pairs

section Scalars

variable {depth : Nat}

instance : Nests depth Bool := ⟨fun b _ => .bool b⟩

instance : Nests depth Binary32 := ⟨fun x _ => .single x⟩

instance : Nests depth UInt8 := ⟨fun _ _ => fits_integer depth _⟩

instance : Nests depth UInt16 := ⟨fun _ _ => fits_integer depth _⟩

instance : Nests depth UInt32 := ⟨fun _ _ => fits_integer depth _⟩

instance : Nests depth Int16 := ⟨fun _ _ => fits_integer depth _⟩

instance : Nests depth Int32 := ⟨fun _ _ => fits_integer depth _⟩

instance : Nests depth Blob where
  fits b sized := by
    obtain ⟨_, fits⟩ := sized
    cases fits with
    | bin size => exact .bin size

end Scalars

end MsgPack.Payload

open Payload

instance : Lawful ApparatusKind := lawful_numbered (by intro a; cases a <;> decide) (by decide)

instance : Lawful SpellKind := lawful_numbered (by intro a; cases a <;> decide) (by decide)

instance : Lawful TopicKind := lawful_numbered (by intro a; cases a <;> decide) (by decide)

instance {depth : Nat} : Nests depth ApparatusKind := ⟨fun _ _ => fits_integer depth _⟩

instance {depth : Nat} : Nests depth SpellKind := ⟨fun _ _ => fits_integer depth _⟩

instance {depth : Nat} : Nests depth TopicKind := ⟨fun _ _ => fits_integer depth _⟩

namespace Variant

theorem address_case {i : Nat} (inside : i < caseNames.length) :
    (Shape.address caseNames (.text caseNames[i])).join = some i :=
  (Shape.address_str (by decide) inside _).mpr rfl

instance : Lawful Variant where
  read?_write v := by
    show read? (write v) = some v
    cases v with
    | none =>
      have named : (Shape.address caseNames (.text "None")).join = some 0 :=
        address_case (i := 0) (by decide)
      exact if_pos named
    | int n =>
      have named : (Shape.address caseNames (.text "Int")).join = some 1 :=
        address_case (i := 1) (by decide)
      simp only [write, read?, named, Lawful.read?_write n, Option.map_some]
    | float x =>
      have named : (Shape.address caseNames (.text "Float")).join = some 2 :=
        address_case (i := 2) (by decide)
      simp only [write, read?, named, Lawful.read?_write x, Option.map_some]
    | text s =>
      have named : (Shape.address caseNames (.text "String")).join = some 3 :=
        address_case (i := 3) (by decide)
      simp only [write, read?, named, Lawful.read?_write s, Option.map_some]

/-- One case with its content nests once more than the content. -/
theorem fits_case {depth : Nat} {name : String} {α : Type} [Payload α] [Nests depth α] {a : α}
    (sized : (Value.map [(.text name, Payload.write a)]).Sized) :
    Value.Fits (depth + 1) (.map [(.text name, Payload.write a)]) := by
  obtain ⟨_, fits⟩ := sized
  cases fits with
  | map count keys values =>
    have key := List.forall_mem_singleton.mp keys
    have value := List.forall_mem_singleton.mp values
    exact .map count (List.forall_mem_singleton.mpr (Nests.fits name ⟨_, key⟩))
      (List.forall_mem_singleton.mpr (Nests.fits a ⟨_, value⟩))

instance {depth : Nat} : Nests (depth + 1) Variant where
  fits v sized := by
    cases v with
    | none => exact Nests.fits "None" sized
    | int n => exact fits_case sized
    | float x => exact fits_case sized
    | text s => exact fits_case sized

end Variant

theorem SpellEffect.lawful_shape : SpellEffect.shape.Lawful where
  distinct := by decide
  columns := by simp [SpellEffect.shape]
  back _ := rfl

instance : Lawful SpellEffect := ⟨SpellEffect.lawful_shape.read?_write⟩

instance {depth : Nat} : Nests (depth + 1) SpellEffect :=
  ⟨fun _ => Shape.fits_write (by simp [SpellEffect.shape])⟩

theorem LevelledEntry.lawful_shape : LevelledEntry.shape.Lawful where
  distinct := by decide
  columns := by simp [LevelledEntry.shape]
  back _ := rfl

instance : Lawful LevelledEntry := ⟨LevelledEntry.lawful_shape.read?_write⟩

instance {depth : Nat} : Nests (depth + 1) LevelledEntry :=
  ⟨fun _ => Shape.fits_write (by simp [LevelledEntry.shape])⟩

theorem Info.lawful_shape : Info.shape.Lawful where
  distinct := by decide
  columns := by simp [Info.shape]
  back _ := rfl

instance : Lawful Info := ⟨Info.lawful_shape.read?_write⟩

instance {depth : Nat} : Nests (depth + 1) Info :=
  ⟨fun _ => Shape.fits_write (by simp [Info.shape])⟩

namespace Kind

variable {kind : Kind}

theorem names_nodup (builtin : kind ∈ builtins) :
    (Record.shape : Shape kind.Carrier).names.Nodup := by
  cases kind with
  | custom k => simp [builtins] at builtin
  | _ => decide

theorem columns_lawful (builtin : kind ∈ builtins) :
    ∀ c ∈ (Record.shape : Shape kind.Carrier).columns, c.Lawful := by
  cases kind with
  | custom k => simp [builtins] at builtin
  | _ => simp [Record.shape]

theorem columns_nest {depth : Nat} (builtin : kind ∈ builtins) :
    ∀ c ∈ (Record.shape : Shape kind.Carrier).columns, c.Nests (depth + 2) := by
  cases kind with
  | custom k => simp [builtins] at builtin
  | _ => simp [Record.shape]

end Kind

end ContentLayers
