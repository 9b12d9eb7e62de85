import ContentLayers.MsgPack.Codec
import ContentLayers.Proofs.Heads

/-!
# Values read back

What a byte string spells as a value, in any of the wire forms of each part of it. A value is read
from every spelling whose nesting stays within the limit, whatever follows it, and writing gives one
of them when all lengths fit into four bytes.
-/

namespace ContentLayers.MsgPack.Value

/-- Every length fits into four bytes, and containers nest at most `levels` deep. -/
inductive Fits : Nat → Value → Prop
  | nil {levels : Nat} : Fits levels .nil
  | bool {levels : Nat} (b : Bool) : Fits levels (.bool b)
  | uint {levels : Nat} (n : UInt64) : Fits levels (.uint n)
  | int {levels : Nat} (i : Int64) : Fits levels (.int i)
  | single {levels : Nat} (x : Binary32) : Fits levels (.single x)
  | double {levels : Nat} (bits : UInt64) : Fits levels (.double bits)
  | str {levels : Nat} {bs : Bytes} (size : bs.length < 0x100000000) : Fits levels (.str bs)
  | bin {levels : Nat} {bs : Bytes} (size : bs.length < 0x100000000) : Fits levels (.bin bs)
  | array {levels : Nat} {items : List Value} (count : items.length < 0x100000000)
      (each : ∀ v ∈ items, Fits levels v) : Fits (levels + 1) (.array items)
  | map {levels : Nat} {pairs : List (Value × Value)} (count : pairs.length < 0x100000000)
      (keys : ∀ pair ∈ pairs, Fits levels pair.1) (values : ∀ pair ∈ pairs, Fits levels pair.2) :
      Fits (levels + 1) (.map pairs)
  | ext {levels : Nat} (type : UInt8) {bs : Bytes} (size : bs.length < 0x100000000) :
      Fits (levels + 1) (.ext type bs)

theorem encodeItems_eq (items : List Value) : encodeItems items = items.flatMap encode := by
  induction items with
  | nil => rfl
  | cons v vs ih => rw [encodeItems, ih, List.flatMap_cons]

theorem encodePairs_eq (pairs : List (Value × Value)) :
    encodePairs pairs = pairs.flatMap fun pair => encode pair.1 ++ encode pair.2 := by
  induction pairs with
  | nil => rfl
  | cons pair pairs ih =>
    obtain ⟨k, v⟩ := pair
    rw [encodePairs, ih, List.flatMap_cons, List.append_assoc]

/-- The value that a byte string is a spelling of, with containers at most `levels` deep. Items and
pairs come with their own spellings. -/
inductive Spells : Nat → Bytes → Value → Prop
  | nil {levels : Nat} {bs : Bytes} (head : Head.Spells bs .nil) : Spells levels bs .nil
  | bool {levels : Nat} {bs : Bytes} {b : Bool} (head : Head.Spells bs (.bool b)) :
      Spells levels bs (.bool b)
  | uint {levels : Nat} {bs : Bytes} {n : UInt64} (head : Head.Spells bs (.uint n)) :
      Spells levels bs (.uint n)
  | int {levels : Nat} {bs : Bytes} {i : Int64} (head : Head.Spells bs (.int i)) :
      Spells levels bs (.int i)
  | single {levels : Nat} {bs : Bytes} {x : Binary32} (head : Head.Spells bs (.single x)) :
      Spells levels bs (.single x)
  | double {levels : Nat} {bs : Bytes} {bits : UInt64} (head : Head.Spells bs (.double bits)) :
      Spells levels bs (.double bits)
  | str {levels : Nat} {bs contents : Bytes} (head : Head.Spells bs (.str contents.length)) :
      Spells levels (bs ++ contents) (.str contents)
  | bin {levels : Nat} {bs contents : Bytes} (head : Head.Spells bs (.bin contents.length)) :
      Spells levels (bs ++ contents) (.bin contents)
  | array {levels : Nat} {bs : Bytes} {items : List (Bytes × Value)}
      (head : Head.Spells bs (.array items.length))
      (each : ∀ item ∈ items, Spells levels item.1 item.2) :
      Spells (levels + 1) (bs ++ items.flatMap (·.1)) (.array (items.map (·.2)))
  | map {levels : Nat} {bs : Bytes} {pairs : List ((Bytes × Value) × (Bytes × Value))}
      (head : Head.Spells bs (.map pairs.length))
      (keys : ∀ pair ∈ pairs, Spells levels pair.1.1 pair.1.2)
      (values : ∀ pair ∈ pairs, Spells levels pair.2.1 pair.2.2) :
      Spells (levels + 1) (bs ++ pairs.flatMap fun pair => pair.1.1 ++ pair.2.1)
        (.map (pairs.map fun pair => (pair.1.2, pair.2.2)))
  | ext {levels : Nat} {bs contents : Bytes} {type : UInt8}
      (head : Head.Spells bs (.ext type contents.length)) :
      Spells (levels + 1) (bs ++ contents) (.ext type contents)

section Sequences

variable {α β : Type} {step : Bytes → Option (α × Bytes)} {spelling : β → Bytes} {value : β → α}

/-- Parts that are each read from their spelling are read from their spellings in a row. -/
theorem times_flatMap {parts : List β}
    (reads : ∀ b ∈ parts, ∀ rest, step (spelling b ++ rest) = some (value b, rest)) (done : List α)
    (rest : Bytes) :
    times step parts.length done (parts.flatMap spelling ++ rest) =
      some (done.reverse ++ parts.map value, rest) := by
  induction parts generalizing done with
  | nil => simp [times]
  | cons b parts ih =>
    have first := reads b List.mem_cons_self (parts.flatMap spelling ++ rest)
    have others := ih (fun c mem => reads c (List.mem_cons_of_mem b mem)) (value b :: done)
    rw [List.flatMap_cons, List.append_assoc, List.length_cons, times, first]
    simpa using others

theorem both_append {k v : α} {front back rest : Bytes}
    (key : step (front ++ (back ++ rest)) = some (k, back ++ rest))
    (value : step (back ++ rest) = some (v, rest)) :
    both step (front ++ back ++ rest) = some ((k, v), rest) := by
  rw [List.append_assoc, both, key]
  simp [value]

variable {Good : β → Prop}

/-- What a step takes as good parts, many steps take as good parts in a row. -/
theorem exists_parts
    (sound : ∀ {bs a rest}, step bs = some (a, rest) →
      ∃ b, Good b ∧ bs = spelling b ++ rest ∧ value b = a)
    {n : Nat} {done as : List α} {bs rest : Bytes} (read : times step n done bs = some (as, rest)) :
    ∃ parts : List β, parts.length = n ∧ (∀ b ∈ parts, Good b) ∧
      as = done.reverse ++ parts.map value ∧ bs = parts.flatMap spelling ++ rest := by
  induction n generalizing done bs with
  | zero =>
    obtain ⟨rfl, rfl⟩ := Prod.mk.inj (Option.some.inj read)
    exact ⟨[], rfl, nofun, by simp, rfl⟩
  | succ n ih =>
    rw [times] at read
    split at read
    · cases read
    rename_i a behind first
    obtain ⟨b, good, rfl, rfl⟩ := sound first
    obtain ⟨parts, rfl, each, rfl, rfl⟩ := ih read
    exact ⟨b :: parts, rfl, List.forall_mem_cons.mpr ⟨good, each⟩, by simp, by simp⟩

theorem exists_both
    (sound : ∀ {bs a rest}, step bs = some (a, rest) →
      ∃ b, Good b ∧ bs = spelling b ++ rest ∧ value b = a)
    {pair : α × α} {bs rest : Bytes} (read : both step bs = some (pair, rest)) :
    ∃ parts : β × β, (Good parts.1 ∧ Good parts.2) ∧
      bs = (spelling parts.1 ++ spelling parts.2) ++ rest ∧
      (value parts.1, value parts.2) = pair := by
  rw [both] at read
  split at read
  · cases read
  rename_i k behind first
  obtain ⟨⟨v, left⟩, second, made⟩ := Option.map_eq_some_iff.mp read
  obtain ⟨rfl, rfl⟩ := Prod.mk.inj made
  obtain ⟨b, key, rfl, rfl⟩ := sound first
  obtain ⟨c, good, rfl, rfl⟩ := sound second
  exact ⟨(b, c), ⟨key, good⟩, (List.append_assoc ..).symm, rfl⟩

end Sequences

/-- **A value is read from each of its spellings.** -/
theorem Spells.read? {levels : Nat} {bs : Bytes} {v : Value} (spells : Spells levels bs v)
    (rest : Bytes) : read? levels (bs ++ rest) = some (v, rest) := by
  induction spells generalizing rest with
  | nil head | bool head | uint head | int head | single head | double head =>
    rw [Value.read?, head.read?]
  | str head | bin head | ext head =>
    rw [Value.read?, List.append_assoc, head.read?]
    simp only [Bytes.split?_append, Option.map_some]
  | array head _ ih =>
    have items := times_flatMap ih [] rest
    rw [Value.read?, List.append_assoc, head.read?]
    simp only [items, Option.map_some, List.reverse_nil, List.nil_append]
  | map head _ _ keys values =>
    have pairs := times_flatMap (fun pair mem rest =>
      both_append (keys pair mem _) (values pair mem rest)) [] rest
    rw [Value.read?, List.append_assoc, head.read?]
    simp only [pairs, Option.map_some, List.reverse_nil, List.nil_append]

theorem Spells.decode? {bs : Bytes} {v : Value} (spells : Spells maxNesting bs v) (rest : Bytes) :
    decode? (bs ++ rest) = some v := by
  rw [Value.decode?, spells.read? rest, Option.map_some]

section Spelled

variable {levels : Nat} {front behind rest : Bytes} {v w : Value}

theorem spelled_of_some (spells : Spells levels front w)
    (read : some (w, behind) = some (v, rest)) :
    ∃ part, front ++ behind = part ++ rest ∧ Spells levels part v := by
  obtain ⟨rfl, rfl⟩ := Prod.mk.inj (Option.some.inj read)
  exact ⟨front, rfl, spells⟩

/-- A head announces contents, and these are all there. -/
theorem spelled_of_split? {size : Nat} {make : Bytes → Value}
    (spells : ∀ contents, size = contents.length → Spells levels (front ++ contents) (make contents))
    (read : (Bytes.split? size behind).map (fun (contents, rest) => (make contents, rest)) =
      some (v, rest)) :
    ∃ part, front ++ behind = part ++ rest ∧ Spells levels part v := by
  obtain ⟨⟨contents, left⟩, cut, made⟩ := Option.map_eq_some_iff.mp read
  obtain ⟨rfl, rfl⟩ := Prod.mk.inj made
  obtain ⟨rfl, rfl⟩ := Bytes.split?_eq_some cut
  exact ⟨front ++ contents, (List.append_assoc ..).symm, spells contents rfl⟩

end Spelled

/-- **Whatever is read is spelled.** -/
theorem exists_spells {levels : Nat} {bs rest : Bytes} {v : Value}
    (read : Value.read? levels bs = some (v, rest)) :
    ∃ front, bs = front ++ rest ∧ Spells levels front v := by
  induction levels using Nat.strong_induction_on generalizing bs rest v with
  | _ levels ih =>
  rw [Value.read?] at read
  split at read
  · cases read
  rename_i head behind found
  obtain ⟨front, rfl, spelled⟩ := Head.exists_spells found
  have inner (few : Nat) (below : levels = few + 1) {bs : Bytes} {v : Value} {rest : Bytes}
      (read : Value.read? few bs = some (v, rest)) :
      ∃ part : Bytes × Value, Spells few part.1 part.2 ∧ bs = part.1 ++ rest ∧ part.2 = v := by
    obtain ⟨front, joined, spelled⟩ := ih few (by omega) read
    exact ⟨(front, v), spelled, joined, rfl⟩
  cases head with
  | nil => exact spelled_of_some (.nil spelled) read
  | bool b => exact spelled_of_some (.bool spelled) read
  | uint n => exact spelled_of_some (.uint spelled) read
  | int i => exact spelled_of_some (.int spelled) read
  | single x => exact spelled_of_some (.single spelled) read
  | double bits => exact spelled_of_some (.double spelled) read
  | str size => exact spelled_of_split? (fun _ same => .str (same ▸ spelled)) read
  | bin size => exact spelled_of_split? (fun _ same => .bin (same ▸ spelled)) read
  | array count =>
    cases levels with
    | zero => cases read
    | succ levels =>
      obtain ⟨⟨as, left⟩, taken, made⟩ := Option.map_eq_some_iff.mp read
      obtain ⟨rfl, rfl⟩ := Prod.mk.inj made
      obtain ⟨items, rfl, each, rfl, rfl⟩ := exists_parts (inner levels rfl) taken
      exact ⟨_, (List.append_assoc ..).symm, .array spelled each⟩
  | map count =>
    cases levels with
    | zero => cases read
    | succ levels =>
      obtain ⟨⟨as, left⟩, taken, made⟩ := Option.map_eq_some_iff.mp read
      obtain ⟨rfl, rfl⟩ := Prod.mk.inj made
      obtain ⟨pairs, rfl, each, rfl, rfl⟩ := exists_parts (exists_both (inner levels rfl)) taken
      exact ⟨_, (List.append_assoc ..).symm,
        .map spelled (fun pair mem => (each pair mem).1) fun pair mem => (each pair mem).2⟩
  | ext type size =>
    cases levels with
    | zero => cases read
    | succ levels => exact spelled_of_split? (fun _ same => .ext (same ▸ spelled)) read

theorem read?_eq_some_iff {levels : Nat} {bs rest : Bytes} {v : Value} :
    Value.read? levels bs = some (v, rest) ↔
      ∃ front, bs = front ++ rest ∧ Spells levels front v := by
  constructor
  · exact exists_spells
  · rintro ⟨front, rfl, spells⟩
    exact spells.read? rest

/-- What is written is one of the spellings. -/
theorem Fits.spells_encode {levels : Nat} {v : Value} (fits : Fits levels v) :
    Spells levels (encode v) v := by
  induction fits with
  | nil => exact .nil .nil
  | bool b => exact .bool (.bool b)
  | uint n => exact .uint (Head.spells_write (h := .uint n) trivial)
  | int i => exact .int (Head.spells_write (h := .int i) trivial)
  | single x => exact .single (.single x)
  | double bits => exact .double (.double bits)
  | str size => exact .str (Head.spells_write (h := .str _) size)
  | bin size => exact .bin (Head.spells_write (h := .bin _) size)
  | @array levels items count _ ih =>
    let spelled := items.map fun v => (encode v, v)
    have head : Head.Spells (Head.array items.length).write (.array spelled.length) := by
      rw [List.length_map]
      exact Head.spells_write (h := .array _) count
    have each : ∀ item ∈ spelled, Spells levels item.1 item.2 := List.forall_mem_map.mpr ih
    have whole := Spells.array head each
    simpa [spelled, encode, encodeItems_eq, List.flatMap_map, Function.comp_def] using whole
  | @map levels pairs count _ _ keys values =>
    let spelled := pairs.map fun pair => ((encode pair.1, pair.1), (encode pair.2, pair.2))
    have head : Head.Spells (Head.map pairs.length).write (.map spelled.length) := by
      rw [List.length_map]
      exact Head.spells_write (h := .map _) count
    have whole := Spells.map head (List.forall_mem_map.mpr keys) (List.forall_mem_map.mpr values)
    simpa [spelled, encode, encodePairs_eq, List.flatMap_map, Function.comp_def] using whole
  | ext type size => exact .ext (Head.spells_write (h := .ext type _) size)

/-- **Reading undoes encoding.** -/
theorem Fits.read?_encode {levels : Nat} {v : Value} (fits : Fits levels v) (rest : Bytes) :
    read? levels (encode v ++ rest) = some (v, rest) :=
  fits.spells_encode.read? rest

/-- Every length fits into four bytes; any value nests to some depth. -/
def Sized (v : Value) : Prop := ∃ levels, Fits levels v

theorem Fits.mono {few levels : Nat} {v : Value} (fits : Fits few v) (more : few ≤ levels) :
    Fits levels v := by
  induction fits generalizing levels with
  | nil => exact .nil
  | bool b => exact .bool b
  | uint n => exact .uint n
  | int i => exact .int i
  | single x => exact .single x
  | double bits => exact .double bits
  | str size => exact .str size
  | bin size => exact .bin size
  | array count _ ih =>
    obtain ⟨levels, rfl⟩ := Nat.exists_eq_add_of_le' more
    exact .array count fun v mem => ih v mem (Nat.le_add_left _ _)
  | map count _ _ keys values =>
    obtain ⟨levels, rfl⟩ := Nat.exists_eq_add_of_le' more
    exact .map count (fun pair mem => keys pair mem (Nat.le_add_left _ _))
      fun pair mem => values pair mem (Nat.le_add_left _ _)
  | ext type size =>
    obtain ⟨levels, rfl⟩ := Nat.exists_eq_add_of_le' more
    exact .ext type size

theorem length_encode_pos (v : Value) : 0 < (encode v).length := by
  cases v <;> simp [encode, Head.length_write_pos]

theorem count_le_encodeItems (items : List Value) : items.length ≤ (encodeItems items).length := by
  induction items with
  | nil => exact Nat.le_refl 0
  | cons v vs ih =>
    have first := length_encode_pos v
    simp only [encodeItems, List.length_append, List.length_cons]
    omega

theorem count_le_encodePairs (pairs : List (Value × Value)) :
    pairs.length ≤ (encodePairs pairs).length := by
  induction pairs with
  | nil => exact Nat.le_refl 0
  | cons pair pairs ih =>
    obtain ⟨k, v⟩ := pair
    have first := length_encode_pos k
    simp only [encodePairs, List.length_append, List.length_cons]
    omega

mutual

/-- A value with a short encoding has short parts. -/
theorem sized_of_length (v : Value) (short : (encode v).length < 0x100000000) : v.Sized := by
  match v with
  | .nil => exact ⟨0, .nil⟩
  | .bool b => exact ⟨0, .bool b⟩
  | .uint n => exact ⟨0, .uint n⟩
  | .int i => exact ⟨0, .int i⟩
  | .single x => exact ⟨0, .single x⟩
  | .double bits => exact ⟨0, .double bits⟩
  | .str bs =>
    rw [encode, List.length_append] at short
    exact ⟨0, .str (by omega)⟩
  | .bin bs =>
    rw [encode, List.length_append] at short
    exact ⟨0, .bin (by omega)⟩
  | .array items =>
    rw [encode, List.length_append] at short
    have count := count_le_encodeItems items
    obtain ⟨levels, each⟩ := items_sized items (by omega)
    exact ⟨levels + 1, .array (by omega) each⟩
  | .map pairs =>
    rw [encode, List.length_append] at short
    have count := count_le_encodePairs pairs
    obtain ⟨levels, keys, values⟩ := pairs_sized pairs (by omega)
    exact ⟨levels + 1, .map (by omega) keys values⟩
  | .ext type bs =>
    rw [encode, List.length_append] at short
    exact ⟨1, .ext type (by omega)⟩

theorem items_sized (items : List Value) (short : (encodeItems items).length < 0x100000000) :
    ∃ levels, ∀ v ∈ items, Fits levels v := by
  match items with
  | [] => exact ⟨0, nofun⟩
  | v :: vs =>
    rw [encodeItems, List.length_append] at short
    obtain ⟨few, first⟩ := sized_of_length v (by omega)
    obtain ⟨levels, others⟩ := items_sized vs (by omega)
    refine ⟨max few levels, List.forall_mem_cons.mpr ⟨first.mono (by omega), ?_⟩⟩
    exact fun v mem => (others v mem).mono (by omega)

theorem pairs_sized (pairs : List (Value × Value))
    (short : (encodePairs pairs).length < 0x100000000) :
    ∃ levels, (∀ pair ∈ pairs, Fits levels pair.1) ∧ ∀ pair ∈ pairs, Fits levels pair.2 := by
  match pairs with
  | [] => exact ⟨0, nofun, nofun⟩
  | (k, v) :: pairs =>
    rw [encodePairs, List.length_append, List.length_append] at short
    obtain ⟨a, key⟩ := sized_of_length k (by omega)
    obtain ⟨b, value⟩ := sized_of_length v (by omega)
    obtain ⟨c, keys, values⟩ := pairs_sized pairs (by omega)
    refine ⟨max a (max b c), List.forall_mem_cons.mpr ⟨key.mono (by omega), ?_⟩,
      List.forall_mem_cons.mpr ⟨value.mono (by omega), ?_⟩⟩
    · exact fun pair mem => (keys pair mem).mono (by omega)
    · exact fun pair mem => (values pair mem).mono (by omega)

end

end ContentLayers.MsgPack.Value
