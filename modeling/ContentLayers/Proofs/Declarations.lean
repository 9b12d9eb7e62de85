import ContentLayers.Proofs.RegistryRuns

/-!
# Declarations

Declarations only append, so the built-in kinds stay in front with their own tables. A kind that is
not declared is refused whenever it is asked for, and nothing is lost by that.
-/

namespace ContentLayers

namespace Registry

variable {r : Registry} {kind : Kind}

/-- The table under the tag of the kind is of that kind. -/
def Declares (r : Registry) (kind : Kind) : Prop := r.shelves[kind.tag]?.map (·.kind) = some kind

/-- The tag of the kind is not to be had: it is reserved, or another kind has it. -/
def Clashes (r : Registry) (kind : Kind) : Prop :=
  kind.tag = Kind.infoTag ∨ ∃ shelf, r.shelves[kind.tag]? = some shelf ∧ shelf.kind ≠ kind

/-- The kind is refused, whoever asks for it, and the tables and their order stay. -/
structure Refuses (r : Registry) (kind : Kind) : Prop where
  tryGet : r.table? kind = none
  get : r.get kind = .error (.undeclared kind)
  getMut : r.getMut kind = ({ r with current := false }, .error (.undeclared kind))
  write : ∀ log holds, r.tryCall (.modify kind log holds) = .ok { r with current := false }

/-- A declaration gives a new kind an empty table behind the others, and does nothing for a kind
that is there. -/
structure Adds (r : Registry) (kind : Kind) (next : Registry) : Prop where
  known : r.Declares kind → next = r
  fresh : ¬ r.Declares kind → next.order = r.order ++ [kind.tag] ∧ next.get kind = .ok .empty ∧
    next.current = false
  others : ∀ tag, tag ≠ kind.tag → next.shelves[tag]? = r.shelves[tag]?

/-- What holds of a registry after any calls. -/
structure Consistent (r : Registry) : Prop where
  distinct : r.order.Nodup
  listed : ∀ tag, tag ∈ r.order ↔ tag ∈ r.shelves
  keyed : ∀ (tag : Tag) (shelf : Shelf), r.shelves[tag]? = some shelf → shelf.kind.tag = tag
  unreserved : Kind.infoTag ∉ r.shelves
  builtins : Kind.builtins.map Kind.tag <+: r.order
  own : ∀ kind ∈ Kind.builtins, r.Declares kind ∧ ∃ table, r.get kind = .ok table
  clashing : ∀ kind, r.Clashes kind →
    (∃ e, r.declare kind = (r, .error e)) ∧ r.tryCall (.declare kind) = .ok r ∧ r.Refuses kind
  accepted : ∀ kind, ¬ r.Clashes kind →
    ∃ next, r.declare kind = (next, .ok ()) ∧ r.Adds kind next
  undeclared : ∀ kind, ¬ r.Declares kind → r.Refuses kind
  reported : ∀ report, (r.diagnostics report).kinds.map (·.tag) = r.order ∧
    ∀ k ∈ (r.diagnostics report).kinds, ∃ shelf, r.shelves[k.tag]? = some shelf ∧
      k.kind = shelf.kind.name ∧ k.ids = r.idsOf k.tag ∧ k.count = k.ids.length

theorem table?_eq_none : r.table? kind = none ↔ ¬ r.Declares kind := by
  rw [table?, Declares]
  cases r.shelves[kind.tag]? with
  | none => simp
  | some shelf => by_cases same : shelf.kind = kind <;> simp [Shelf.table?, same]

theorem refuses (undeclared : ¬ r.Declares kind) : r.Refuses kind := by
  have missing := table?_eq_none.mpr undeclared
  have get : r.get kind = .error (.undeclared kind) := by rw [get, missing]
  have getMut : r.getMut kind = ({ r with current := false }, .error (.undeclared kind)) :=
    congrArg (Prod.mk _) get
  exact ⟨missing, get, getMut, fun log holds => by rw [tryCall, getMut]⟩

theorem not_declares_of_clashes (unreserved : Kind.infoTag ∉ r.shelves)
    (clashes : r.Clashes kind) : ¬ r.Declares kind := by
  intro declared
  obtain ⟨shelf, found, same⟩ := Option.map_eq_some_iff.mp declared
  obtain reserved | ⟨other, held, apart⟩ := clashes
  · rw [reserved] at found
    exact unreserved (Std.ExtHashMap.mem_iff_isSome_getElem?.mpr (Option.isSome_of_eq_some found))
  · obtain rfl : shelf = other := Option.some.inj (found.symm.trans held)
    exact apart same

/-- A declaration that is refused leaves no trace. -/
theorem declare_refused (clashes : r.Clashes kind) : ∃ e, r.declare kind = (r, .error e) := by
  rw [declare]
  split
  · exact ⟨_, rfl⟩
  rename_i unreserved
  obtain reserved | ⟨shelf, found, apart⟩ := clashes
  · exact absurd reserved unreserved
  · simp only [found, if_neg apart]
    exact ⟨_, rfl⟩

theorem declare_accepted (free : ¬ r.Clashes kind) :
    ∃ next, r.declare kind = (next, .ok ()) ∧ r.Adds kind next := by
  obtain ⟨unreserved, untaken⟩ := not_or.mp free
  rw [declare, if_neg unreserved]
  cases found : r.shelves[kind.tag]? with
  | some shelf =>
    have same : shelf.kind = kind := by
      by_contra apart
      exact untaken ⟨shelf, found, apart⟩
    have declared : r.Declares kind := by rw [Declares, found, Option.map_some, same]
    refine ⟨r, by simp only [if_pos same], fun _ => rfl, fun undeclared => ?_, fun _ _ => rfl⟩
    exact absurd declared undeclared
  | none =>
    have undeclared : ¬ r.Declares kind := by simp [Declares, found]
    refine ⟨_, rfl, fun declared => absurd declared undeclared, fun _ => ⟨rfl, ?_, rfl⟩, ?_⟩
    · simp [get, table?, Shelf.table?, Shelf.new]
    · intro tag other
      rw [Std.ExtHashMap.getElem?_insert, if_neg (by simpa using other.symm)]

end Registry

namespace Store

variable {s : Store} {kind : Kind}

theorem kinds_modify (h : s.Sound) {β : Type}
    (change : Table kind.Carrier → Table kind.Carrier × β) :
    (s.modify kind change).1.kinds = s.kinds := by
  have stale : ({ s with current := false } : Store).Sound := h.of_shelves rfl
  unfold modify
  cases found : s.table? kind with
  | none => rfl
  | some table =>
    exact stale.kinds_setShelf (Option.isSome_iff_exists.mpr ⟨table, found⟩)

/-- Every call keeps the declared kinds in their order. -/
theorem Sound.kinds_call (h : s.Sound) (c : Call) : s.kinds <+: (s.call c).kinds := by
  cases c with
  | declare kind =>
    rw [call]
    obtain same | appended := s.declare_cases kind
    · rw [same]
    · simp only [kinds, appended.shelves, List.map_append]
      exact List.prefix_append _ _
  | modify kind log _ => rw [call, kinds_modify h]
  | load feed index => rw [call, h.kinds_load]
  | setUp => exact List.prefix_rfl

/-- The built-in kinds stay in front. -/
theorem Reachable.builtins (h : s.Reachable) : Kind.builtins <+: s.kinds := by
  induction h with
  | new => exact List.prefix_rfl
  | declare h kind ih => exact ih.trans (h.sound.kinds_call (.declare kind))
  | modify h kind log holds ih => exact ih.trans (h.sound.kinds_call (.modify kind log holds))
  | load h feed index ih => exact ih.trans (h.sound.kinds_call (.load feed index))
  | setUp h ih => exact ih.trans (h.sound.kinds_call .setUp)

/-- On the parts of a store everything goes as on the store, and nothing fails. -/
structure Faultless (s : Store) : Prop where
  load : ∀ feed index, s.registry.tryLoad feed index = .ok (s.load feed index).registry
  loadFrom : ∀ reader index,
    s.registry.tryLoadFrom reader index = .ok (s.load reader.feed index).registry
  setUp : s.registry.trySetUp = .ok s.setUp.registry
  draw : ∀ {σ : Type} (dice : Dice σ) list role level state,
    s.registry.tryDraw dice list role level state = .ok (s.draw dice list role level state)
  diagnostics : ∀ report, s.registry.diagnostics report = s.diagnostics report

theorem Sound.diagnostics_eq (h : s.Sound) (report : LoadReport) :
    s.registry.diagnostics report = s.diagnostics report := by
  have ids (tag : Tag) : s.registry.idsOf tag = s.idsOf tag := by
    rw [Registry.idsOf, getElem?_registry h.distinct, idsOf]
  rw [Registry.diagnostics, h.inOrder_eq]
  simp only [ids]
  rfl

/-- A kind is reported with as many records as ids. -/
theorem Sound.length_ids (h : s.Sound) {shelf : Shelf} (mem : shelf ∈ s.shelves) :
    shelf.live = shelf.ids.length := by
  rw [Shelf.live, (h.tables shelf mem).valid.live]
  simp [Shelf.ids, Table.ids, Table.records, List.countP_eq_length_filter]

theorem Sound.consistent (h : s.Sound) (builtins : Kind.builtins <+: s.kinds) :
    s.registry.Consistent := by
  have found := getElem?_registry h.distinct
  have listed (tag : Tag) : tag ∈ s.tags ↔ tag ∈ s.registry.shelves := by
    rw [Std.ExtHashMap.mem_iff_isSome_getElem?, found, isSome_shelf?]
  have unreserved : Kind.infoTag ∉ s.registry.shelves := (listed _).not.mp h.unreserved
  refine
    { distinct := h.distinct
      listed
      keyed := fun tag shelf held => (shelf?_eq_some ((found tag).symm.trans held)).2
      unreserved
      builtins := ?_
      own := fun kind builtin => ?_
      clashing := fun kind clashes => ?_
      accepted := fun _ free => Registry.declare_accepted free
      undeclared := fun _ undeclared => Registry.refuses undeclared
      reported := fun report => ?_ }
  · have tags : s.registry.order = s.kinds.map Kind.tag := by simp [registry, tags, kinds]
    rw [tags]
    exact builtins.map Kind.tag
  · have get := h.get_eq builtin
    refine ⟨?_, _, get⟩
    by_contra undeclared
    rw [(Registry.refuses undeclared).get] at get
    cases get
  · obtain ⟨e, refused⟩ := Registry.declare_refused clashes
    refine ⟨⟨e, refused⟩, by rw [Registry.tryCall, refused], Registry.refuses ?_⟩
    exact Registry.not_declares_of_clashes unreserved clashes
  · rw [h.diagnostics_eq]
    refine ⟨by simp [diagnostics, registry, tags], fun k mem => ?_⟩
    obtain ⟨shelf, held, rfl⟩ := List.mem_map.mp mem
    have here : s.registry.shelves[shelf.kind.tag]? = some shelf :=
      (found _).trans (h.shelf?_of_mem held)
    have ids : s.registry.idsOf shelf.kind.tag = shelf.ids := by
      rw [Registry.idsOf, here, Option.map_some, Option.getD_some]
    have kept := h.idsOf_of_mem held
    refine ⟨shelf, here, rfl, kept.trans ids.symm, ?_⟩
    rw [kept]
    exact h.length_ids held

/-- **The registry holds up.** Whatever is called, in order or against the rules, the tables and
their order stay together, and loading, deriving the indices and drawing find the kinds that they
need. -/
theorem registry_holds (calls : List Call) :
    let s := Store.new.callAll calls
    Registry.tryCalls calls = .ok s.registry ∧ s.registry.Consistent ∧ s.Faultless := by
  intro s
  have reachable : s.Reachable := Reachable.new.callAll calls
  have h : s.Sound := reachable.sound
  refine ⟨tryCalls_eq calls, h.consistent reachable.builtins, ?_⟩
  exact
    { load := h.tryLoad_eq
      loadFrom := h.tryLoadFrom_eq
      setUp := h.trySetUp_eq
      draw := h.tryDraw_eq
      diagnostics := h.diagnostics_eq }

end Store

end ContentLayers
