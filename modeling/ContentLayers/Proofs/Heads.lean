import ContentLayers.MsgPack.Head
import Mathlib

/-!
# Heads read back

The forms that a head has on the wire: reading takes every one of them, and writing picks one.
-/

namespace ContentLayers

namespace Bytes

theorem toNatLE_ofNatLE (width n : Nat) : toNatLE (ofNatLE width n) = n % 256 ^ width := by
  induction width generalizing n with
  | zero => simp [ofNatLE, toNatLE, Nat.mod_one]
  | succ width ih =>
    have digit : (UInt8.ofNat n).toNat = n % 256 := by simp
    rw [ofNatLE, toNatLE, ih, digit, Nat.pow_succ, Nat.mul_comm (256 ^ width), Nat.mod_mul]

theorem toNatLE_lt (bs : Bytes) : toNatLE bs < 256 ^ bs.length := by
  induction bs with
  | nil => simp [toNatLE]
  | cons b bs ih =>
    have digit := b.toNat_lt
    rw [toNatLE, List.length_cons, Nat.pow_succ]
    omega

/-- Digits are found again in their number. -/
theorem ofNatLE_toNatLE (bs : Bytes) : ofNatLE bs.length (toNatLE bs) = bs := by
  induction bs with
  | nil => rfl
  | cons b bs ih =>
    have digit := b.toNat_lt
    have others : (b.toNat + 256 * toNatLE bs) / 256 = toNatLE bs := by omega
    have first : UInt8.ofNat (b.toNat + 256 * toNatLE bs) = b := by
      apply UInt8.toNat_inj.mp
      rw [UInt8.toNat_ofNat']
      omega
    rw [List.length_cons, toNatLE, ofNatLE, others, first, ih]

theorem toNatBE_ofNatBE (width n : Nat) : toNatBE (ofNatBE width n) = n % 256 ^ width := by
  rw [toNatBE, ofNatBE, List.reverse_reverse, toNatLE_ofNatLE]

theorem toNatBE_lt (bs : Bytes) : toNatBE bs < 256 ^ bs.length := by
  have bound := toNatLE_lt bs.reverse
  rwa [List.length_reverse] at bound

theorem ofNatBE_toNatBE (bs : Bytes) : ofNatBE bs.length (toNatBE bs) = bs := by
  have digits := ofNatLE_toNatLE bs.reverse
  rw [List.length_reverse] at digits
  rw [ofNatBE, toNatBE, digits, List.reverse_reverse]

theorem split?_append_of_length {front : Bytes} {n : Nat} (length : front.length = n)
    (rest : Bytes) : split? n (front ++ rest) = some (front, rest) := by
  subst length
  exact split?_append front rest

end Bytes

namespace MsgPack.Head

/-- The length that the head announces fits into four bytes. -/
def Sized : Head → Prop
  | .str size | .bin size | .ext _ size => size < 0x100000000
  | .array count | .map count => count < 0x100000000
  | .nil | .bool _ | .uint _ | .int _ | .single _ | .double _ => True

variable {width n : Nat} {rest : Bytes}

theorem number?_ofNatBE (width : Nat) (make : Nat → Head) {h : Head} (bound : n < 256 ^ width)
    (made : make n = h) : number? width make (Bytes.ofNatBE width n ++ rest) = some (h, rest) := by
  have digits := Bytes.split?_append_of_length (Bytes.length_ofNatBE width n) rest
  simp only [number?, digits, Option.map_some, Bytes.toNatBE_ofNatBE, Nat.mod_eq_of_lt bound, made]

theorem sizedExt?_ofNatBE (width : Nat) (type : UInt8) (bound : n < 256 ^ width) :
    sizedExt? width (Bytes.ofNatBE width n ++ type :: rest) = some (.ext type n, rest) := by
  have digits := Bytes.split?_append_of_length (Bytes.length_ofNatBE width n) (type :: rest)
  simp only [sizedExt?, digits, Option.bind_some, Bytes.toNatBE_ofNatBE, Nat.mod_eq_of_lt bound,
    typed?]

/-- The residue of a number in the signed range of a width is read as the number. -/
theorem signed_emod {i : Int64} (wrap : Int) (exact : wrap = ((1 <<< (8 * width) : Nat) : Int))
    (low : -wrap ≤ 2 * i.toInt) (high : 2 * i.toInt < wrap) :
    signed width (i.toInt % wrap).toNat = .int i := by
  have residue : 0 ≤ i.toInt % wrap := Int.emod_nonneg _ (by omega)
  have back : (if 2 * (i.toInt % wrap).toNat < 1 <<< (8 * width) then
      ((i.toInt % wrap).toNat : Int)
      else (i.toInt % wrap).toNat - ((1 <<< (8 * width) : Nat) : Int)) = i.toInt := by
    rcases Int.lt_or_le i.toInt 0 with negative | positive
    · have shifted : i.toInt % wrap = i.toInt + wrap := by
        rw [← Int.add_emod_right, Int.emod_eq_of_lt (by omega) (by omega)]
      rw [if_neg (by omega)]
      omega
    · have same : i.toInt % wrap = i.toInt := Int.emod_eq_of_lt positive (by omega)
      rw [if_pos (by omega)]
      omega
  simp only [signed, back, Int64.ofInt_toInt]

/-- A marker with its number in it tells its family by its range. -/
theorem read?_short (bound : n < 0x100) (short : n < 0xC0 ∨ 0xE0 ≤ n) :
    read? (UInt8.ofNat n :: rest) = some (
      if n < 0x80 then .uint (.ofNat n)
      else if n < 0x90 then .map (n - 0x80)
      else if n < 0xA0 then .array (n - 0x90)
      else if n < 0xC0 then .str (n - 0xA0)
      else .int (.ofInt (n - 0x100)), rest) := by
  have marker : (UInt8.ofNat n).toNat = n := by
    rw [UInt8.toNat_ofNat', Nat.mod_eq_of_lt bound]
  simp only [read?, marker]
  split_ifs <;> first | rfl | omega

/-! The markers of each family with the width of the number behind them. -/

def uintForms : List (UInt8 × Nat) := [(0xCC, 1), (0xCD, 2), (0xCE, 4), (0xCF, 8)]

def intForms : List (UInt8 × Nat) := [(0xD0, 1), (0xD1, 2), (0xD2, 4), (0xD3, 8)]

def strForms : List (UInt8 × Nat) := [(0xD9, 1), (0xDA, 2), (0xDB, 4)]

def binForms : List (UInt8 × Nat) := [(0xC4, 1), (0xC5, 2), (0xC6, 4)]

def arrayForms : List (UInt8 × Nat) := [(0xDC, 2), (0xDD, 4)]

def mapForms : List (UInt8 × Nat) := [(0xDE, 2), (0xDF, 4)]

def extForms : List (UInt8 × Nat) := [(0xC7, 1), (0xC8, 2), (0xC9, 4)]

/-- The markers of extensions of one size each. -/
def fixedExtForms : List (UInt8 × Nat) := [(0xD4, 1), (0xD5, 2), (0xD6, 4), (0xD7, 8), (0xD8, 16)]

/-- Every form that a head has on the wire, be it the shortest or not. -/
inductive Spells : Bytes → Head → Prop
  | nil : Spells [0xC0] .nil
  | bool (b : Bool) : Spells [if b then 0xC3 else 0xC2] (.bool b)
  | shortUint {n : UInt64} (short : n.toNat < 0x80) : Spells [.ofNat n.toNat] (.uint n)
  | uint {marker : UInt8} {width : Nat} {n : UInt64} (form : (marker, width) ∈ uintForms)
      (fits : n.toNat < 256 ^ width) : Spells (tagged marker width n.toNat) (.uint n)
  | shortInt {i : Int64} (low : -0x20 ≤ i.toInt) (high : i.toInt < 0) :
      Spells [.ofNat (i.toInt + 0x100).toNat] (.int i)
  | int {marker : UInt8} {width : Nat} {i : Int64} (form : (marker, width) ∈ intForms)
      (low : -256 ^ width ≤ 2 * i.toInt) (high : 2 * i.toInt < 256 ^ width) :
      Spells (tagged marker width (i.toInt % 256 ^ width).toNat) (.int i)
  | single (x : Binary32) : Spells (tagged 0xCA 4 x.bits.toNat) (.single x)
  | double (bits : UInt64) : Spells (tagged 0xCB 8 bits.toNat) (.double bits)
  | shortStr {size : Nat} (short : size < 32) : Spells [.ofNat (0xA0 + size)] (.str size)
  | str {marker : UInt8} {width size : Nat} (form : (marker, width) ∈ strForms)
      (fits : size < 256 ^ width) : Spells (tagged marker width size) (.str size)
  | bin {marker : UInt8} {width size : Nat} (form : (marker, width) ∈ binForms)
      (fits : size < 256 ^ width) : Spells (tagged marker width size) (.bin size)
  | shortArray {count : Nat} (short : count < 16) : Spells [.ofNat (0x90 + count)] (.array count)
  | array {marker : UInt8} {width count : Nat} (form : (marker, width) ∈ arrayForms)
      (fits : count < 256 ^ width) : Spells (tagged marker width count) (.array count)
  | shortMap {count : Nat} (short : count < 16) : Spells [.ofNat (0x80 + count)] (.map count)
  | map {marker : UInt8} {width count : Nat} (form : (marker, width) ∈ mapForms)
      (fits : count < 256 ^ width) : Spells (tagged marker width count) (.map count)
  | fixedExt {marker : UInt8} {size : Nat} (type : UInt8) (form : (marker, size) ∈ fixedExtForms) :
      Spells [marker, type] (.ext type size)
  | ext {marker : UInt8} {width size : Nat} (type : UInt8) (form : (marker, width) ∈ extForms)
      (fits : size < 256 ^ width) : Spells (tagged marker width size ++ [type]) (.ext type size)

/-- A head is read from each of its forms. -/
theorem Spells.read? {bs : Bytes} {h : Head} (spells : Spells bs h) (rest : Bytes) :
    read? (bs ++ rest) = some (h, rest) := by
  cases spells with
  | nil => rfl
  | bool b => cases b <;> rfl
  | shortUint short =>
    rw [List.singleton_append, read?_short (by omega) (by omega), if_pos short, UInt64.ofNat_toNat]
  | @uint marker width n form fits =>
    have whole : UInt64.ofNat n.toNat = n := UInt64.ofNat_toNat
    simp only [uintForms, List.mem_cons, List.not_mem_nil, or_false, Prod.mk.injEq] at form
    obtain ⟨rfl, rfl⟩ | ⟨rfl, rfl⟩ | ⟨rfl, rfl⟩ | ⟨rfl, rfl⟩ := form
    all_goals exact number?_ofNatBE _ (fun n => .uint (.ofNat n)) fits (congrArg Head.uint whole)
  | @shortInt i low high =>
    have digit : ((i.toInt + 0x100).toNat : Int) - 0x100 = i.toInt := by omega
    rw [List.singleton_append, read?_short (by omega) (by omega), if_neg (by omega),
      if_neg (by omega), if_neg (by omega), if_neg (by omega), digit, Int64.ofInt_toInt]
  | @int marker width i form low high =>
    have positive : (0 : Int) < 256 ^ width := by positivity
    have residue : (i.toInt % 256 ^ width).toNat < 256 ^ width := by
      have above := Int.emod_nonneg i.toInt positive.ne'
      have below := Int.emod_lt_of_pos i.toInt positive
      zify
      omega
    have number : signed width (i.toInt % 256 ^ width).toNat = .int i := by
      refine signed_emod _ ?_ low high
      rw [Nat.one_shiftLeft, Nat.pow_mul]
      norm_cast
    simp only [intForms, List.mem_cons, List.not_mem_nil, or_false, Prod.mk.injEq] at form
    obtain ⟨rfl, rfl⟩ | ⟨rfl, rfl⟩ | ⟨rfl, rfl⟩ | ⟨rfl, rfl⟩ := form
    all_goals exact number?_ofNatBE _ (signed _) residue number
  | single x =>
    have whole : UInt32.ofNat x.bits.toNat = x.bits := UInt32.ofNat_toNat
    exact number?_ofNatBE 4 (fun n => .single ⟨.ofNat n⟩) x.bits.toNat_lt (by rw [whole])
  | double bits =>
    have whole : UInt64.ofNat bits.toNat = bits := UInt64.ofNat_toNat
    exact number?_ofNatBE 8 (fun n => .double (.ofNat n)) bits.toNat_lt (by rw [whole])
  | shortStr short =>
    rw [List.singleton_append, read?_short (by omega) (by omega), if_neg (by omega),
      if_neg (by omega), if_neg (by omega), if_pos (by omega), Nat.add_sub_cancel_left]
  | str form fits =>
    simp only [strForms, List.mem_cons, List.not_mem_nil, or_false, Prod.mk.injEq] at form
    obtain ⟨rfl, rfl⟩ | ⟨rfl, rfl⟩ | ⟨rfl, rfl⟩ := form
    all_goals exact number?_ofNatBE _ Head.str fits rfl
  | bin form fits =>
    simp only [binForms, List.mem_cons, List.not_mem_nil, or_false, Prod.mk.injEq] at form
    obtain ⟨rfl, rfl⟩ | ⟨rfl, rfl⟩ | ⟨rfl, rfl⟩ := form
    all_goals exact number?_ofNatBE _ Head.bin fits rfl
  | shortArray short =>
    rw [List.singleton_append, read?_short (by omega) (by omega), if_neg (by omega),
      if_neg (by omega), if_pos (by omega), Nat.add_sub_cancel_left]
  | array form fits =>
    simp only [arrayForms, List.mem_cons, List.not_mem_nil, or_false, Prod.mk.injEq] at form
    obtain ⟨rfl, rfl⟩ | ⟨rfl, rfl⟩ := form
    all_goals exact number?_ofNatBE _ Head.array fits rfl
  | shortMap short =>
    rw [List.singleton_append, read?_short (by omega) (by omega), if_neg (by omega),
      if_pos (by omega), Nat.add_sub_cancel_left]
  | map form fits =>
    simp only [mapForms, List.mem_cons, List.not_mem_nil, or_false, Prod.mk.injEq] at form
    obtain ⟨rfl, rfl⟩ | ⟨rfl, rfl⟩ := form
    all_goals exact number?_ofNatBE _ Head.map fits rfl
  | fixedExt type form =>
    simp only [fixedExtForms, List.mem_cons, List.not_mem_nil, or_false, Prod.mk.injEq] at form
    obtain ⟨rfl, rfl⟩ | ⟨rfl, rfl⟩ | ⟨rfl, rfl⟩ | ⟨rfl, rfl⟩ | ⟨rfl, rfl⟩ := form
    all_goals rfl
  | ext type form fits =>
    rw [List.append_assoc]
    simp only [extForms, List.mem_cons, List.not_mem_nil, or_false, Prod.mk.injEq] at form
    obtain ⟨rfl, rfl⟩ | ⟨rfl, rfl⟩ | ⟨rfl, rfl⟩ := form
    all_goals exact sizedExt?_ofNatBE _ type fits

/-- What takes a number of `width` bytes takes all there are of them. -/
theorem exists_number {make : Nat → Head} {bs : Bytes} {h : Head}
    (read : number? width make bs = some (h, rest)) :
    ∃ n < 256 ^ width, bs = Bytes.ofNatBE width n ++ rest ∧ make n = h := by
  obtain ⟨⟨digits, behind⟩, cut, made⟩ := Option.map_eq_some_iff.mp read
  obtain ⟨joined, length⟩ := Bytes.split?_eq_some cut
  obtain ⟨rfl, rfl⟩ := Prod.mk.inj made
  refine ⟨_, ?_, ?_, rfl⟩
  · rw [← length]
    exact Bytes.toNatBE_lt digits
  · rw [← length, Bytes.ofNatBE_toNatBE, joined]

theorem spelled_of_number? {marker : UInt8} {make : Nat → Head} {bs : Bytes} {h : Head}
    (read : number? width make bs = some (h, rest))
    (form : ∀ n < 256 ^ width, Spells (tagged marker width n) (make n)) :
    ∃ front, marker :: bs = front ++ rest ∧ Spells front h := by
  obtain ⟨n, bound, rfl, rfl⟩ := exists_number read
  exact ⟨_, rfl, form n bound⟩

theorem spelled_of_sizedExt? {marker : UInt8} {bs : Bytes} {h : Head}
    (form : (marker, width) ∈ extForms) (read : sizedExt? width bs = some (h, rest)) :
    ∃ front, marker :: bs = front ++ rest ∧ Spells front h := by
  obtain ⟨⟨digits, behind⟩, cut, typed⟩ := Option.bind_eq_some_iff.mp read
  obtain ⟨rfl, rfl⟩ := Bytes.split?_eq_some cut
  cases behind with
  | nil => cases typed
  | cons type behind =>
    obtain ⟨rfl, rfl⟩ := Prod.mk.inj (Option.some.inj typed)
    refine ⟨_, ?_, .ext type form (Bytes.toNatBE_lt digits)⟩
    rw [tagged, Bytes.ofNatBE_toNatBE]
    simp

theorem spelled_of_typed? {marker : UInt8} {size : Nat} {bs : Bytes} {h : Head}
    (form : (marker, size) ∈ fixedExtForms) (read : typed? size bs = some (h, rest)) :
    ∃ front, marker :: bs = front ++ rest ∧ Spells front h := by
  cases bs with
  | nil => cases read
  | cons type bs =>
    obtain ⟨rfl, rfl⟩ := Prod.mk.inj (Option.some.inj read)
    exact ⟨_, rfl, .fixedExt type form⟩

theorem wrap_le_of_mem {marker : UInt8} {forms : List (UInt8 × Nat)}
    (form : (marker, width) ∈ forms) (small : ∀ f ∈ forms, f.2 ≤ 8) :
    256 ^ width ≤ 0x10000000000000000 :=
  Nat.pow_le_pow_right (n := 256) (by decide) (small _ form)

theorem spells_uint {marker : UInt8} (form : (marker, width) ∈ uintForms)
    (bound : n < 256 ^ width) : Spells (tagged marker width n) (.uint (.ofNat n)) := by
  have small := wrap_le_of_mem form (by decide)
  have whole : (UInt64.ofNat n).toNat = n :=
    UInt64.toNat_ofNat_of_lt' (Nat.lt_of_lt_of_le bound small)
  have spelled : Spells (tagged marker width (UInt64.ofNat n).toNat) (.uint (.ofNat n)) :=
    .uint form (by rwa [whole])
  rwa [whole] at spelled

theorem spells_signed {marker : UInt8} (form : (marker, width) ∈ intForms)
    (bound : n < 256 ^ width) : Spells (tagged marker width n) (signed width n) := by
  have small := wrap_le_of_mem form (by decide)
  have wrap : 1 <<< (8 * width) = 256 ^ width := by rw [Nat.one_shiftLeft, Nat.pow_mul]
  have power : ((256 ^ width : Nat) : Int) = 256 ^ width := by push_cast; rfl
  simp only [signed, wrap]
  obtain ⟨i, number, low, high, residue⟩ : ∃ i : Int,
      (if 2 * n < 256 ^ width then (n : Int) else n - ((256 ^ width : Nat) : Int)) = i ∧
        -((256 ^ width : Nat) : Int) ≤ 2 * i ∧ 2 * i < ((256 ^ width : Nat) : Int) ∧
        i % ((256 ^ width : Nat) : Int) = n := by
    refine ⟨_, rfl, ?_⟩
    split_ifs with positive
    · exact ⟨by omega, by omega, Int.emod_eq_of_lt (by omega) (by omega)⟩
    · refine ⟨by omega, by omega, ?_⟩
      rw [Int.sub_emod_right, Int.emod_eq_of_lt (by omega) (by omega)]
  have back : (Int64.ofInt i).toInt = i := Int64.toInt_ofInt_of_le (by omega) (by omega)
  rw [power] at low high residue
  have spelled : Spells (tagged marker width ((Int64.ofInt i).toInt % 256 ^ width).toNat)
      (.int (.ofInt i)) := .int form (by rwa [back]) (by rwa [back])
  rwa [back, residue, Int.toNat_natCast, ← number] at spelled

theorem spells_single (bound : n < 256 ^ 4) : Spells (tagged 0xCA 4 n) (.single ⟨.ofNat n⟩) := by
  have whole : (UInt32.ofNat n).toNat = n := UInt32.toNat_ofNat_of_lt' bound
  have spelled := Spells.single ⟨.ofNat n⟩
  rwa [whole] at spelled

theorem spells_double (bound : n < 256 ^ 8) : Spells (tagged 0xCB 8 n) (.double (.ofNat n)) := by
  have whole : (UInt64.ofNat n).toNat = n := UInt64.toNat_ofNat_of_lt' bound
  have spelled := Spells.double (.ofNat n)
  rwa [whole] at spelled

theorem spelled_of_some {marker : UInt8} {bs : Bytes} {h h' : Head} (spells : Spells [marker] h')
    (read : some (h', bs) = some (h, rest)) :
    ∃ front, marker :: bs = front ++ rest ∧ Spells front h := by
  obtain ⟨rfl, rfl⟩ := Prod.mk.inj (Option.some.inj read)
  exact ⟨[marker], rfl, spells⟩

theorem spells_short {marker : UInt8} {h : Head} (spells : Spells [.ofNat n] h)
    (same : n = marker.toNat) : Spells [marker] h := by
  rwa [same, UInt8.ofNat_toNat] at spells

/-- **Whatever is read is spelled.** -/
theorem exists_spells {bs : Bytes} {h : Head} (read : Head.read? bs = some (h, rest)) :
    ∃ front, bs = front ++ rest ∧ Spells front h := by
  cases bs with
  | nil => cases read
  | cons marker bs =>
    have whole : marker = UInt8.ofNat marker.toNat := UInt8.ofNat_toNat.symm
    have bound := marker.toNat_lt
    simp only [Head.read?] at read
    split_ifs at read with h1 h2 h3 h4 h5
    · have digit : (UInt64.ofNat marker.toNat).toNat = marker.toNat :=
        UInt64.toNat_ofNat_of_lt' (Nat.lt_of_lt_of_le bound (by decide))
      exact spelled_of_some (spells_short (.shortUint (by omega)) digit) read
    · exact spelled_of_some (spells_short (.shortMap (by omega)) (by omega)) read
    · exact spelled_of_some (spells_short (.shortArray (by omega)) (by omega)) read
    · exact spelled_of_some (spells_short (.shortStr (by omega)) (by omega)) read
    · have digit : (Int64.ofInt (marker.toNat - 0x100)).toInt = marker.toNat - 0x100 :=
        Int64.toInt_ofInt_of_le (by omega) (by omega)
      exact spelled_of_some (spells_short (.shortInt (by omega) (by omega)) (by omega)) read
    -- Past the short forms each marker has one form of its own, or none.
    split at read
    all_goals first | cases read; done | (rename_i code; rw [code] at whole; subst whole)
    all_goals first
      | exact spelled_of_some .nil read
      | exact spelled_of_some (.bool false) read
      | exact spelled_of_some (.bool true) read
      | exact spelled_of_typed? (by decide) read
      | exact spelled_of_sizedExt? (by decide) read
      | exact spelled_of_number? read fun _ fits => spells_single fits
      | exact spelled_of_number? read fun _ fits => spells_double fits
      | exact spelled_of_number? read fun _ fits => spells_uint (by decide) fits
      | exact spelled_of_number? read fun _ fits => spells_signed (by decide) fits
      | exact spelled_of_number? read fun _ fits => .str (by decide) fits
      | exact spelled_of_number? read fun _ fits => .bin (by decide) fits
      | exact spelled_of_number? read fun _ fits => .array (by decide) fits
      | exact spelled_of_number? read fun _ fits => .map (by decide) fits

/-- What is written is one of the forms. -/
theorem spells_write {h : Head} (sized : h.Sized) : Spells h.write h := by
  cases h with
  | nil => exact .nil
  | bool b => exact .bool b
  | uint n =>
    have bound := n.toNat_lt
    simp only [write]
    split_ifs with h1 h2 h3 h4
    · exact .shortUint h1
    · exact .uint (by decide) h2
    · exact .uint (by decide) h3
    · exact .uint (by decide) h4
    · exact .uint (by decide) bound
  | int i =>
    have low := i.le_toInt
    have high := i.toInt_lt
    simp only [write, Bool.and_eq_true, decide_eq_true_eq]
    split_ifs with h1 h2 h3 h4
    · exact .shortInt h1.1 h1.2
    · exact .int (by decide : (0xD0, 1) ∈ intForms) (by omega) (by omega)
    · exact .int (by decide : (0xD1, 2) ∈ intForms) (by omega) (by omega)
    · exact .int (by decide : (0xD2, 4) ∈ intForms) (by omega) (by omega)
    · exact .int (by decide : (0xD3, 8) ∈ intForms) (by omega) (by omega)
  | single x => exact .single x
  | double bits => exact .double bits
  | str size =>
    simp only [Sized] at sized
    simp only [write]
    split_ifs with h1 h2 h3
    · exact .shortStr h1
    · exact .str (by decide) h2
    · exact .str (by decide) h3
    · exact .str (by decide) sized
  | bin size =>
    simp only [Sized] at sized
    simp only [write]
    split_ifs with h1 h2
    · exact .bin (by decide) h1
    · exact .bin (by decide) h2
    · exact .bin (by decide) sized
  | array count =>
    simp only [Sized] at sized
    simp only [write]
    split_ifs with h1 h2
    · exact .shortArray h1
    · exact .array (by decide) h2
    · exact .array (by decide) sized
  | map count =>
    simp only [Sized] at sized
    simp only [write]
    split_ifs with h1 h2
    · exact .shortMap h1
    · exact .map (by decide) h2
    · exact .map (by decide) sized
  | ext type size =>
    simp only [Sized] at sized
    simp only [write]
    split_ifs with h1 h2 h4 h8 h16 h5 h6
    · exact .fixedExt type (by subst h1; decide)
    · exact .fixedExt type (by subst h2; decide)
    · exact .fixedExt type (by subst h4; decide)
    · exact .fixedExt type (by subst h8; decide)
    · exact .fixedExt type (by subst h16; decide)
    · exact .ext type (by decide) h5
    · exact .ext type (by decide) h6
    · exact .ext type (by decide) sized

/-- A head is read back as it was written. -/
theorem read?_write {h : Head} (sized : h.Sized) : read? (h.write ++ rest) = some (h, rest) :=
  (spells_write sized).read? rest

theorem length_write_pos (h : Head) : 0 < h.write.length := by
  cases h <;> simp only [write] <;> (repeat' split) <;> simp [tagged]

end MsgPack.Head

end ContentLayers
