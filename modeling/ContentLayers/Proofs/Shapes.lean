import ContentLayers.MsgPack.Shape
import ContentLayers.Proofs.Payloads

/-!
# Shapes read back

A structure is read from any map that gives its cells by name: in any order, among pairs of other
names, and without cells that are what an absent cell stands for. A map that gives a cell twice is
no structure at all.
-/

namespace ContentLayers.MsgPack

/-- Reading a written cell gives it back. -/
def Column.Lawful (c : Column) : Prop := ∀ cell, c.payload.read? (c.payload.write cell) = some cell

@[simp] theorem Column.lawful_optional (name : String) (α : Type) [Payload α] [Inhabited α]
    [h : Payload.Lawful α] : (optional name α).Lawful := h.read?_write

@[simp] theorem Column.lawful_required (name : String) (α : Type) [Payload α]
    [h : Payload.Lawful α] : (required name α).Lawful := h.read?_write

/-- Written cells nest at most `depth` deep. -/
def Column.Nests (depth : Nat) (c : Column) : Prop :=
  ∀ cell, (c.payload.write cell).Sized → Value.Fits depth (c.payload.write cell)

@[simp] theorem Column.nests_optional {depth : Nat} (name : String) (α : Type) [Payload α]
    [Inhabited α] [h : Payload.Nests depth α] : (optional name α).Nests depth := h.fits

@[simp] theorem Column.nests_required {depth : Nat} (name : String) (α : Type) [Payload α]
    [h : Payload.Nests depth α] : (required name α).Nests depth := h.fits

namespace Shape

variable {names : List String} {name : String} {pairs : List (Value × Value)}

/-- The values that the pairs give under a name. -/
def given (name : String) (pairs : List (Value × Value)) : List Value :=
  pairs.filterMap fun
    | (.str key, v) => if key = Bytes.ofText name then some v else none
    | _ => none

/-- A key of text that names none of the columns. -/
def Foreign (names : List String) (key : Value) : Prop :=
  ∃ text, key = .str text ∧ ∀ name ∈ names, text ≠ Bytes.ofText name

theorem given_str (name : String) (key : Bytes) (v : Value) (pairs : List (Value × Value)) :
    given name ((.str key, v) :: pairs) =
      if key = Bytes.ofText name then v :: given name pairs else given name pairs := by
  simp only [given, List.filterMap_cons]
  split_ifs <;> rfl

theorem given_text (name key : String) (v : Value) (pairs : List (Value × Value)) :
    given name ((.text key, v) :: pairs) =
      if key = name then v :: given name pairs else given name pairs := by
  simp only [Value.text, given_str, Bytes.ofText_inj]

theorem given_append (name : String) (pairs others : List (Value × Value)) :
    given name (pairs ++ others) = given name pairs ++ given name others :=
  List.filterMap_append

theorem given_foreign (foreign : ∀ pair ∈ pairs, Foreign names pair.1) (listed : name ∈ names) :
    given name pairs = [] := by
  rw [given, List.filterMap_eq_nil_iff]
  rintro ⟨key, v⟩ mem
  obtain ⟨text, rfl, apart⟩ := foreign _ mem
  exact if_neg (apart name listed)

theorem address_str (distinct : names.Nodup) {i : Nat} (inside : i < names.length) (key : Bytes) :
    (address names (.str key)).join = some i ↔ key = Bytes.ofText names[i] := by
  simp only [address, Option.join_some, List.findIdx?_eq_some_iff_getElem, beq_iff_eq]
  constructor
  · rintro ⟨_, here, _⟩
    exact here.symm
  · rintro rfl
    refine ⟨inside, rfl, fun j before same => ?_⟩
    rw [Bytes.ofText_inj, distinct.getElem_inj_iff] at same
    omega

/-- The pairs as the cells look for them: each with the column that it is for. -/
def placed (names : List String) (pairs : List (Value × Value)) : List (Option Nat × Value) :=
  pairs.map fun pair => ((address names pair.1).join, pair.2)

theorem filter_placed (distinct : names.Nodup) {i : Nat} (inside : i < names.length)
    (keys : ∀ pair ∈ pairs, ∃ key, pair.1 = .str key) :
    ((placed names pairs).filter (·.1 == some i)).map (·.2) = given names[i] pairs := by
  induction pairs with
  | nil => rfl
  | cons pair pairs ih =>
    obtain ⟨key, v⟩ := pair
    obtain ⟨bs, rfl⟩ := keys _ List.mem_cons_self
    have others := ih fun pair mem => keys pair (List.mem_cons_of_mem _ mem)
    have here := address_str distinct inside bs
    rw [placed, List.map_cons, given_str, ← others]
    split_ifs with named
    · rw [List.filter_cons_of_pos (by simpa using here.mpr named), List.map_cons, placed]
    · rw [List.filter_cons_of_neg (by simpa [here] using named), placed]

theorem cellAt_placed (distinct : names.Nodup) {i : Nat} (inside : i < names.length)
    (keys : ∀ pair ∈ pairs, ∃ key, pair.1 = .str key)
    (once : (given names[i] pairs).length ≤ 1) :
    cellAt (placed names pairs) i = some (given names[i] pairs).head? := by
  have values := filter_placed distinct inside keys
  rw [← values, List.length_map] at once
  rw [← values, cellAt]
  generalize (placed names pairs).filter (·.1 == some i) = found at once
  match found with
  | [] => rfl
  | [cell] => rfl
  | _ :: _ :: _ => simp at once

/-- A map whose keys are texts gives each cell what it has under its name. -/
theorem cells?_map (distinct : names.Nodup) (keys : ∀ pair ∈ pairs, ∃ key, pair.1 = .str key)
    (once : ∀ name ∈ names, (given name pairs).length ≤ 1) :
    cells? names (.map pairs) = some (names.map fun name => (given name pairs).head?) := by
  have addressed : pairs.mapM (fun pair => (address names pair.1).map (·, pair.2)) =
      some (placed names pairs) := by
    rw [Payload.mapM_eq_some_iff, placed, List.map_map]
    refine List.map_congr_left fun pair mem => ?_
    obtain ⟨key, text⟩ := keys pair mem
    simp [text, address]
  have cells : (List.range names.length).mapM (cellAt (placed names pairs)) =
      some (names.map fun name => (given name pairs).head?) := by
    refine Payload.mapM_eq_some_iff.mpr (List.ext_getElem (by simp) fun i inside _ => ?_)
    have held : i < names.length := by simpa using inside
    simp [cellAt_placed distinct held keys (once _ (List.getElem_mem held))]
  rw [cells?, addressed, Option.bind_some, cells]

theorem cells?_repeated (listed : name ∈ names)
    (twice : [.text name, .text name].Sublist (pairs.map (·.1))) :
    cells? names (.map pairs) = none := by
  obtain ⟨i, found⟩ : ∃ i, names.findIdx? (fun other => Bytes.ofText other == Bytes.ofText name) =
      some i := by
    rw [← Option.isSome_iff_exists, List.findIdx?_isSome, List.any_eq_true]
    exact ⟨name, listed, by simp⟩
  have inside : i < names.length := (List.findIdx?_eq_some_iff_getElem.mp found).1
  -- Whatever the other keys are, two pairs are for this column, which takes one at most.
  have crowded : cellAt (placed names pairs) i = none := by
    have both := (twice.map fun key => (address names key).join).filter (· == some i)
    have two : 2 ≤ ((placed names pairs).filter (·.1 == some i)).length := by
      have short := both.length_le
      simpa [placed, Value.text, address, found, List.filter_map, Function.comp_def] using short
    rw [cellAt]
    generalize (placed names pairs).filter (·.1 == some i) = crowd at two
    match crowd with
    | [] | [_] => simp at two
    | _ :: _ :: _ => rfl
  rw [cells?, Option.bind_eq_none_iff]
  intro addressed held
  have same : addressed = placed names pairs := by
    rw [Payload.mapM_eq_some_iff] at held
    refine (Option.some_injective _).list_map ?_
    rw [← held, placed, List.map_map]
    refine List.map_congr_left fun pair mem => ?_
    obtain ⟨cell, _, known⟩ := List.mem_map.mp (held ▸ List.mem_map_of_mem mem)
    obtain ⟨column, address, _⟩ := Option.map_eq_some_iff.mp known.symm
    simp [address]
  by_contra some
  obtain ⟨cells, all⟩ := Option.ne_none_iff_exists'.mp some
  have mapped := Payload.mapM_eq_some_iff.mp all
  have member : cellAt addressed i ∈ (List.range names.length).map (cellAt addressed) :=
    List.mem_map_of_mem (List.mem_range.mpr inside)
  rw [mapped, same, crowded] at member
  simp at member

end Shape

namespace Row

/-- The pairs of a written row but for some whose cells are what an absent cell stands for. -/
inductive Sparse : (cs : List Column) → Row cs → List (Value × Value) → Prop
  | nil : Sparse [] () []
  | keep {c : Column} {cs : List Column} {row : Row cs} {pairs : List (Value × Value)}
      (cell : c.Cell) (rest : Sparse cs row pairs) :
      Sparse (c :: cs) (cell, row) ((.text c.name, c.payload.write cell) :: pairs)
  | drop {c : Column} {cs : List Column} {row : Row cs} {pairs : List (Value × Value)}
      {cell : c.Cell} (absent : c.fallback = some cell) (rest : Sparse cs row pairs) :
      Sparse (c :: cs) (cell, row) pairs

theorem sparse_write (cs : List Column) (row : Row cs) : Sparse cs row (write cs row) := by
  induction cs with
  | nil => exact .nil
  | cons c cs ih => exact .keep row.1 (ih row.2)

theorem cell_of_mem_write {cs : List Column} {row : Row cs} {pair : Value × Value}
    (mem : pair ∈ write cs row) : ∃ c ∈ cs, ∃ cell, pair.2 = c.payload.write cell := by
  induction cs with
  | nil => cases mem
  | cons c cs ih =>
    obtain rfl | mem := List.mem_cons.mp mem
    · exact ⟨c, List.mem_cons_self, row.1, rfl⟩
    · obtain ⟨d, listed, cell, value⟩ := ih mem
      exact ⟨d, List.mem_cons_of_mem c listed, cell, value⟩

variable {cs : List Column} {row : Row cs} {pairs : List (Value × Value)}

theorem Sparse.keys (sparse : Sparse cs row pairs) :
    ∀ pair ∈ pairs, ∃ name ∈ cs.map (·.name), pair.1 = .text name := by
  induction sparse with
  | nil =>
    intro pair mem
    cases mem
  | keep cell _ ih =>
    intro pair mem
    obtain rfl | mem := List.mem_cons.mp mem
    · exact ⟨_, List.mem_cons_self, rfl⟩
    · obtain ⟨name, listed, same⟩ := ih pair mem
      exact ⟨name, List.mem_cons_of_mem _ listed, same⟩
  | drop _ _ ih =>
    intro pair mem
    obtain ⟨name, listed, same⟩ := ih pair mem
    exact ⟨name, List.mem_cons_of_mem _ listed, same⟩

theorem Sparse.given_eq_nil {name : String} (sparse : Sparse cs row pairs)
    (other : name ∉ cs.map (·.name)) : Shape.given name pairs = [] := by
  have foreign : ∀ pair ∈ pairs, Shape.Foreign [name] pair.1 := by
    intro pair mem
    obtain ⟨key, listed, same⟩ := sparse.keys pair mem
    refine ⟨_, same, fun name' sole named => other ?_⟩
    rw [List.mem_singleton] at sole
    rwa [← sole, ← Bytes.ofText_inj.mp named]
  exact Shape.given_foreign foreign List.mem_cons_self

/-- A sparse row gives each cell at most once, and reading its cells gives the whole row. -/
theorem Sparse.read? (sparse : Sparse cs row pairs) (distinct : (cs.map (·.name)).Nodup)
    (lawful : ∀ c ∈ cs, c.Lawful) :
    (∀ name, (Shape.given name pairs).length ≤ 1) ∧
      Row.read? cs (cs.map fun c => (Shape.given c.name pairs).head?) = some row := by
  induction sparse with
  | nil => exact ⟨fun _ => Nat.zero_le 1, rfl⟩
  | @keep c cs row pairs cell rest ih =>
    rw [List.map_cons, List.nodup_cons] at distinct
    obtain ⟨once, others⟩ := ih distinct.2 fun d mem => lawful d (List.mem_cons_of_mem c mem)
    have alone := rest.given_eq_nil distinct.1
    have apart : ∀ d ∈ cs, c.name ≠ d.name := fun d mem same =>
      distinct.1 (same ▸ List.mem_map_of_mem mem)
    constructor
    · intro name
      rw [Shape.given_text]
      split_ifs with same
      · rw [← same, alone]
        exact Nat.le_refl 1
      · exact once name
    · have first := lawful c List.mem_cons_self cell
      have cells : (cs.map fun d =>
          (Shape.given d.name ((.text c.name, c.payload.write cell) :: pairs)).head?) =
          cs.map fun d => (Shape.given d.name pairs).head? :=
        List.map_congr_left fun d mem => by rw [Shape.given_text, if_neg (apart d mem)]
      simp only [List.map_cons, Row.read?, List.head?_cons, List.tail_cons, cells, others]
      simp [Shape.given_text, first]
  | @drop c cs row pairs cell absent rest ih =>
    rw [List.map_cons, List.nodup_cons] at distinct
    obtain ⟨once, others⟩ := ih distinct.2 fun d mem => lawful d (List.mem_cons_of_mem c mem)
    have alone := rest.given_eq_nil distinct.1
    exact ⟨once, by simp [Row.read?, alone, absent, others]⟩

end Row

namespace Shape

variable {α : Type} {s : Shape α} {a : α}

/-- **A structure is read from its cells in any order**, without cells that hold their fallback and
with pairs of other names among them. -/
theorem read?_sparse {kept extra pairs : List (Value × Value)} (distinct : s.names.Nodup)
    (lawful : ∀ c ∈ s.columns, c.Lawful) (sparse : Row.Sparse s.columns (s.toRow a) kept)
    (foreign : ∀ pair ∈ extra, Foreign s.names pair.1) (order : pairs.Perm (kept ++ extra)) :
    s.read? (.map pairs) = some (s.ofRow (s.toRow a)) := by
  obtain ⟨once, row⟩ := sparse.read? distinct lawful
  -- Order does not matter where there is at most one value, and other names give none.
  have same : ∀ name ∈ s.names, given name pairs = given name kept := by
    intro name listed
    have values : (given name pairs).Perm (given name kept) := by
      have perm : (given name pairs).Perm (given name (kept ++ extra)) := order.filterMap _
      rwa [given_append, given_foreign foreign listed, List.append_nil] at perm
    match held : given name kept, once name with
    | [], _ => exact List.perm_nil.mp (held ▸ values)
    | [v], _ => exact List.perm_singleton.mp (held ▸ values)
    | _ :: _ :: _, many => simp at many
  have keys : ∀ pair ∈ pairs, ∃ key, pair.1 = .str key := by
    intro pair mem
    obtain listed | listed := List.mem_append.mp (order.mem_iff.mp mem)
    · obtain ⟨name, _, text⟩ := sparse.keys pair listed
      exact ⟨_, text⟩
    · obtain ⟨text, key, _⟩ := foreign pair listed
      exact ⟨text, key⟩
  have cells : cells? s.names (.map pairs) =
      some (s.columns.map fun c => (given c.name kept).head?) := by
    rw [cells?_map distinct keys fun name listed => same name listed ▸ once name, names,
      List.map_map]
    refine congrArg some (List.map_congr_left fun c mem => ?_)
    exact congrArg List.head? (same c.name (List.mem_map_of_mem mem))
  rw [read?, cells, Option.bind_some, row, Option.map_some]

theorem read?_repeated {name : String} {pairs : List (Value × Value)} (listed : name ∈ s.names)
    (twice : [.text name, .text name].Sublist (pairs.map (·.1))) : s.read? (.map pairs) = none := by
  rw [read?, cells?_repeated listed twice, Option.bind_none]

/-- A shape whose columns are lawful and named apart, and that makes of a row what it came from. -/
structure Lawful {α : Type} (s : Shape α) : Prop where
  distinct : s.names.Nodup
  columns : ∀ c ∈ s.columns, c.Lawful
  back : ∀ a, s.ofRow (s.toRow a) = a

theorem Lawful.read?_write (h : s.Lawful) (a : α) : s.read? (s.write a) = some a := by
  have whole := read?_sparse h.distinct h.columns (Row.sparse_write s.columns (s.toRow a))
    (List.forall_mem_nil _) (by rw [List.append_nil])
  rwa [h.back] at whole

theorem fits_write {depth : Nat} (nests : ∀ c ∈ s.columns, c.Nests depth)
    (sized : (s.write a).Sized) : Value.Fits (depth + 1) (s.write a) := by
  obtain ⟨_, fits⟩ := sized
  cases fits with
  | map count keys values =>
    refine .map count (fun pair mem => ?_) fun pair mem => ?_
    · obtain ⟨name, _, key⟩ := (Row.sparse_write s.columns (s.toRow a)).keys pair mem
      have size := keys pair mem
      rw [key] at size ⊢
      exact Payload.Nests.fits name ⟨_, size⟩
    · obtain ⟨c, listed, cell, value⟩ := Row.cell_of_mem_write mem
      have size := values pair mem
      rw [value] at size ⊢
      exact nests c listed cell ⟨_, size⟩

end Shape

end ContentLayers.MsgPack
