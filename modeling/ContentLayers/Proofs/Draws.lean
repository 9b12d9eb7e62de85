import ContentLayers.Proofs.Reachable
import ContentLayers.Store.Levelled

/-!
# What a levelled list can yield

A draw follows a chain of lists from one to the next by eligible entries, and yields an eligible
entry that names no list. Every such entry can be drawn.
-/

namespace ContentLayers

/-- Dice that are told how to fall: a number is taken modulo the size of the range. -/
def Dice.told : Dice (List Nat) where
  percent
    | [] => (0, [])
    | n :: ns => (⟨n % 100, Nat.mod_lt _ (by decide)⟩, ns)
  pick others
    | [] => (0, [])
    | n :: ns => (⟨n % (others + 1), Nat.mod_lt _ others.succ_pos⟩, ns)

/-- The flag of a list that lets entries of all levels up to the highest count. -/
def ListRole.allLevelsFlag : ListRole → UInt32
  | .items => 2
  | .creatures => 1

namespace LevelledList

variable {list : LevelledList} {role : ListRole} {level : Int} {entry : LevelledEntry}

theorem allLevels_eq_false :
    list.allLevels role = false ↔ list.flags &&& role.allLevelsFlag = 0 := by
  cases role <;> simp [allLevels, ListRole.allLevelsFlag]

theorem highest?_eq_some {highest : Int} :
    list.highest? level = some highest ↔
      (∃ entry ∈ list.items, entry.level.toInt = highest) ∧ highest ≤ level ∧
        ∀ entry ∈ list.items, entry.level.toInt ≤ level → entry.level.toInt ≤ highest := by
  simp only [highest?, List.max?_eq_some_iff, List.mem_filter, List.mem_map, decide_eq_true_eq,
    and_imp, forall_exists_index, forall_apply_eq_imp_iff₂, and_assoc]

theorem highest?_eq_none :
    list.highest? level = none ↔ ∀ entry ∈ list.items, ¬ entry.level.toInt ≤ level := by
  simp [highest?, List.max?_eq_none_iff, List.filter_eq_nil_iff]

/-- An entry has the right level when no other that is reached is above it, or all levels count. -/
theorem mem_levelEligible :
    entry ∈ list.levelEligible role level ↔
      entry ∈ list.items ∧ entry.level.toInt ≤ level ∧
        (list.flags &&& role.allLevelsFlag = 0 → ∀ other ∈ list.items,
          other.level.toInt ≤ level → other.level.toInt ≤ entry.level.toInt) := by
  rw [← allLevels_eq_false, levelEligible]
  cases top : list.highest? level with
  | none =>
    have unreached := highest?_eq_none.mp top
    simp only [List.not_mem_nil, false_iff, not_and]
    intro listed reached
    exact absurd reached (unreached entry listed)
  | some highest =>
    obtain ⟨⟨best, listed, rfl⟩, reached, above⟩ := highest?_eq_some.mp top
    simp only [List.mem_filter, Bool.and_eq_true, decide_eq_true_eq, Bool.or_eq_true, beq_iff_eq]
    refine and_congr_right fun mem => and_congr_right fun low => ?_
    cases list.allLevels role with
    | true => simp
    | false =>
      -- an entry at the highest level is one that no other is above
      simp only [Bool.false_eq_true, false_or, forall_const]
      constructor
      · intro same
        rw [same]
        exact above
      · intro top
        exact Int.le_antisymm (above entry mem low) (top best listed reached)

end LevelledList

/-- A levelled list in use. -/
abbrev ListUse := LevelledList × ListRole

namespace Store

/-- The list that an id names: an item list, or a creature list when no item list has the id. -/
def Names (s : Store) (id : String) : ListUse → Prop
  | (list, .items) => list ∈ (s.table .itemList).records ∧ fold list.id = fold id
  | (list, .creatures) =>
    (∀ other ∈ (s.table .itemList).records, fold other.id ≠ fold id) ∧
      list ∈ (s.table .creatureList).records ∧ fold list.id = fold id

/-- An entry may be picked: it exists, and of the entries that are reached, whether they exist or
not, none is above it unless all levels count. -/
structure Eligible (s : Store) (level : Int) (list : ListUse) (entry : LevelledEntry) : Prop where
  listed : entry ∈ list.1.items
  known : (s.find entry.id).isSome = true
  reached : entry.level.toInt ≤ level
  highest : list.1.flags &&& list.2.allLevelsFlag = 0 → ∀ other ∈ list.1.items,
    other.level.toInt ≤ level → other.level.toInt ≤ entry.level.toInt

/-- One list leads to another by an eligible entry that names it. -/
def Leads (s : Store) (level : Int) (list next : ListUse) : Prop :=
  ∃ entry, s.Eligible level list entry ∧ s.Names entry.id next

/-- Lists, each led to by the one before and none without a chance to yield, that yield an id. -/
structure Chain (s : Store) (level : Int) (lists : List ListUse) (id : String) : Prop where
  chance : ∀ list ∈ lists, list.1.chanceNone.toNat ≤ 99
  leads : lists.IsChain (s.Leads level)
  yields : ∃ last entry, lists.getLast? = some last ∧ s.Eligible level last entry ∧
    entry.id = id ∧ ∀ list, ¬ s.Names id list

/-- A chain of at most 32 lists, the first of them given, yields the id. -/
def Yields (s : Store) (level : Int) (first : ListUse) (id : String) : Prop :=
  ∃ uses : List ListUse, uses.length ≤ 31 ∧ s.Chain level (first :: uses) id

variable {s : Store} {level : Int} {list : LevelledList} {role : ListRole} {entry : LevelledEntry}
  {id : String}

theorem mem_candidates :
    entry ∈ s.candidates list role level ↔ s.Eligible level (list, role) entry := by
  simp only [candidates, List.mem_filter, LevelledList.mem_levelEligible]
  constructor
  · rintro ⟨⟨listed, reached, highest⟩, known⟩
    exact ⟨listed, known, reached, highest⟩
  · rintro ⟨listed, known, reached, highest⟩
    exact ⟨⟨listed, reached, highest⟩, known⟩

theorem Sound.names_items (h : s.Sound) :
    s.Names id (list, .items) ↔ (s.table .itemList).search id = some list :=
  (h.table .itemList).valid.search_eq_some.symm

theorem Sound.names_creatures (h : s.Sound) :
    s.Names id (list, .creatures) ↔
      (s.table .itemList).search id = none ∧ (s.table .creatureList).search id = some list :=
  and_congr (h.table .itemList).valid.search_eq_none.symm
    (h.table .creatureList).valid.search_eq_some.symm

/-- The list to draw from next is the one that the id names. -/
theorem Sound.nested?_eq_some (h : s.Sound) {use : ListUse} :
    s.nested? id = some use ↔ s.Names id use := by
  obtain ⟨list, role⟩ := use
  rw [nested?]
  cases role with
  | items =>
    rw [h.names_items]
    cases (s.table .itemList).search id <;> simp
  | creatures =>
    rw [h.names_creatures]
    cases (s.table .itemList).search id <;> simp

theorem Sound.nested?_eq_none (h : s.Sound) :
    s.nested? id = none ↔ ∀ use, ¬ s.Names id use := by
  simp only [Option.eq_none_iff_forall_ne_some, ne_eq, h.nested?_eq_some]

/-- A chain yields from its first list, or goes on from a list that the first leads to. -/
theorem chain_cons {use : ListUse} {uses : List ListUse} :
    s.Chain level (use :: uses) id ↔
      use.1.chanceNone.toNat ≤ 99 ∧ ∃ entry, s.Eligible level use entry ∧
        ((uses = [] ∧ entry.id = id ∧ ∀ next, ¬ s.Names id next) ∨
          ∃ next rest, uses = next :: rest ∧ s.Names entry.id next ∧ s.Chain level uses id) := by
  constructor
  · rintro ⟨chance, leads, last, entry, ends, eligible, named, plain⟩
    refine ⟨chance use List.mem_cons_self, ?_⟩
    cases uses with
    | nil =>
      obtain rfl := Option.some.inj ends
      exact ⟨entry, eligible, Or.inl ⟨rfl, named, plain⟩⟩
    | cons next rest =>
      obtain ⟨⟨link, picked, names⟩, leads⟩ := List.isChain_cons_cons.mp leads
      rw [List.getLast?_cons_cons] at ends
      exact ⟨link, picked, Or.inr ⟨next, rest, rfl, names,
        fun list mem => chance list (List.mem_cons_of_mem _ mem), leads, last, entry, ends,
        eligible, named, plain⟩⟩
  · rintro ⟨chance, entry, eligible, ⟨rfl, named, plain⟩ | ⟨next, rest, rfl, names, further⟩⟩
    · exact ⟨by simpa using chance, List.isChain_singleton _, use, entry, rfl, eligible, named,
        plain⟩
    · obtain ⟨chances, leads, last, final, ends, yields⟩ := further
      refine ⟨by simpa using ⟨chance, by simpa using chances⟩,
        List.isChain_cons_cons.mpr ⟨⟨entry, eligible, names⟩, leads⟩, last, final, ?_, yields⟩
      rw [List.getLast?_cons_cons, ends]

/-- A draw that is not over picks an eligible entry of a list that may yield. -/
theorem eligible_of_draw {σ : Type} {dice : Dice σ} {depth : Nat} {state : σ}
    (drawn : (s.drawWithin dice level (depth + 1) list role state).1.pick = some id) :
    list.chanceNone.toNat ≤ 99 ∧ ∃ entry rest, s.Eligible level (list, role) entry ∧
      match s.nested? entry.id with
      | some (next, nextRole) =>
        (s.drawWithin dice level depth next nextRole rest).1.pick = some id
      | none => entry.id = id := by
  cases percent : dice.percent state with
  | mk roll after =>
    simp only [drawWithin, percent] at drawn
    by_cases missed : roll.val < list.chanceNone.toNat
    · simp [missed] at drawn
    cases pickable : s.candidates list role level with
    | nil => simp [missed, pickable] at drawn
    | cons first others =>
      cases pick : dice.pick others.length after with
      | mk i rest =>
        simp only [missed, if_false, pickable, pick] at drawn
        have listed : (first :: others).get i ∈ s.candidates list role level := by
          rw [pickable]
          exact List.get_mem _ _
        refine ⟨by omega, (first :: others).get i, rest, mem_candidates.mp listed, ?_⟩
        cases names : s.nested? ((first :: others).get i).id with
        | none => simpa only [names, Option.some.injEq] using drawn
        | some next => simpa only [names] using drawn

/-- Whatever the dice, an id that is drawn ends a chain that is not too deep. -/
theorem Sound.chain_of_draw (h : s.Sound) {σ : Type} {dice : Dice σ} {depth : Nat} {state : σ}
    (drawn : (s.drawWithin dice level depth list role state).1.pick = some id) :
    ∃ uses, uses.length < depth ∧ s.Chain level ((list, role) :: uses) id := by
  induction depth generalizing list role state with
  | zero => cases drawn
  | succ depth ih =>
    obtain ⟨chance, entry, rest, eligible, next⟩ := eligible_of_draw drawn
    cases names : s.nested? entry.id with
    | none =>
      simp only [names] at next
      subst next
      exact ⟨[], Nat.succ_pos _, chain_cons.mpr ⟨chance, entry, eligible,
        Or.inl ⟨rfl, rfl, h.nested?_eq_none.mp names⟩⟩⟩
    | some use =>
      simp only [names] at next
      obtain ⟨uses, bound, further⟩ := ih next
      exact ⟨use :: uses, Nat.succ_lt_succ bound, chain_cons.mpr ⟨chance, entry, eligible,
        Or.inr ⟨use, uses, rfl, h.nested?_eq_some.mp names, further⟩⟩⟩

/-- The dice can be told to pick an eligible entry of a list that may yield. -/
theorem told_pick (chance : list.chanceNone.toNat ≤ 99)
    (eligible : s.Eligible level (list, role) entry) (depth : Nat) (draws : List Nat) :
    ∃ i, (s.drawWithin .told level (depth + 1) list role (99 :: i :: draws)).1.pick =
      match s.nested? entry.id with
      | some (next, nextRole) => (s.drawWithin .told level depth next nextRole draws).1.pick
      | none => some entry.id := by
  have mem := mem_candidates.mpr eligible
  cases pickable : s.candidates list role level with
  | nil => simp [pickable] at mem
  | cons first others =>
    rw [pickable] at mem
    obtain ⟨i, rfl⟩ := List.mem_iff_get.mp mem
    refine ⟨i, ?_⟩
    have roll : Dice.told.percent (99 :: i.val :: draws) = (99, i.val :: draws) := rfl
    have pick : Dice.told.pick others.length (i.val :: draws) = (i, draws) := by
      have inside : i.val % (others.length + 1) = i.val := Nat.mod_eq_of_lt i.isLt
      simp [Dice.told, inside]
    have passed : ¬ (99 : Fin 100).val < list.chanceNone.toNat := Nat.not_lt.mpr chance
    simp only [drawWithin, roll, passed, if_false, pickable, pick]
    cases s.nested? ((first :: others).get i).id <;> rfl

/-- Dice can be told to follow a chain. -/
theorem Sound.draw_of_chain (h : s.Sound) {uses : List ListUse} {depth : Nat}
    (bound : uses.length < depth) (chain : s.Chain level ((list, role) :: uses) id) :
    ∃ draws, (s.drawWithin .told level depth list role draws).1.pick = some id := by
  induction uses generalizing list role depth with
  | nil =>
    obtain ⟨depth, rfl⟩ := Nat.exists_eq_succ_of_ne_zero (Nat.ne_zero_of_lt bound)
    obtain ⟨chance, entry, eligible, ⟨_, rfl, plain⟩ | ⟨_, _, more, _⟩⟩ := chain_cons.mp chain
    · obtain ⟨i, drawn⟩ := told_pick chance eligible depth []
      rw [h.nested?_eq_none.mpr plain] at drawn
      exact ⟨_, drawn⟩
    · cases more
  | cons use uses ih =>
    obtain ⟨depth, rfl⟩ := Nat.exists_eq_succ_of_ne_zero (Nat.ne_zero_of_lt bound)
    obtain ⟨chance, entry, eligible, ⟨done, _⟩ | ⟨_, _, more, names, further⟩⟩ :=
      chain_cons.mp chain
    · cases done
    · cases more
      obtain ⟨draws, rest⟩ := ih (Nat.lt_of_succ_lt_succ bound) further
      obtain ⟨i, drawn⟩ := told_pick chance eligible depth draws
      rw [h.nested?_eq_some.mpr names] at drawn
      exact ⟨_, drawn.trans rest⟩

end Store

/-- **What can be drawn ends a chain of at most 32 lists.** No dice draw anything else, and dice
that are told how to fall draw all of it. -/
theorem Store.drawable_iff_yields {s : Store} (reachable : s.Reachable) (list : LevelledList)
    (role : ListRole) (level : Int) (id : String) :
    ((∃ draws, (s.draw .told list role level draws).1.pick = some id) ↔
      s.Yields level (list, role) id) ∧
    ∀ {σ : Type} (dice : Dice σ) (state : σ),
      (s.draw dice list role level state).1.pick = some id → s.Yields level (list, role) id := by
  have sound {σ : Type} (dice : Dice σ) (state : σ)
      (drawn : (s.draw dice list role level state).1.pick = some id) :
      s.Yields level (list, role) id := by
    obtain ⟨uses, bound, chain⟩ := reachable.sound.chain_of_draw drawn
    exact ⟨uses, Nat.le_of_lt_succ bound, chain⟩
  refine ⟨⟨fun ⟨draws, drawn⟩ => sound .told draws drawn, ?_⟩, sound⟩
  rintro ⟨uses, bound, chain⟩
  exact reachable.sound.draw_of_chain (Nat.lt_succ_of_le bound) chain

/-- A store with a coin and with a pouch that seldom holds it. -/
def pouchStore : Store :=
  let coins := (Store.new.modify .miscellaneous fun table =>
    table.replay [⟨{ (default : Miscellaneous) with id := "coin" }, false, none⟩]).1
  (coins.modify .itemList fun table =>
    table.replay [⟨⟨"pouch", 0, 99, [⟨"coin", 1⟩]⟩, false, none⟩]).1

theorem reachable_pouchStore : pouchStore.Reachable :=
  (Store.Reachable.new.modify .miscellaneous _ fun _ _ => trivial).modify .itemList _
    fun _ _ => trivial

/-- A list of the pouch, and of a ghost for higher levels. -/
def chest : LevelledList := ⟨"chest", 0, 0, [⟨"Pouch", 1⟩, ⟨"ghost", 2⟩]⟩

theorem Store.drawable_iff_yields_chest :
    pouchStore.Reachable ∧ pouchStore.Yields 1 (chest, .items) "coin" := by
  refine ⟨reachable_pouchStore, ?_⟩
  have possible := Store.drawable_iff_yields reachable_pouchStore chest .items 1 "coin"
  exact possible.1.mp ⟨[0, 0, 99, 0], by rfl⟩

end ContentLayers
