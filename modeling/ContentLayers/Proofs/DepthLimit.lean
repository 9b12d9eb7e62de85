import ContentLayers.Proofs.Visits

/-!
# Draws without a limit of depth

A draw that opens lists without a limit need not end, since lists may name each other in a circle.
When no chain of lists is longer than the limit, it ends with what a draw within the limit gives. A
draw within the limit always ends, and soon.
-/

namespace ContentLayers

namespace Store

variable {σ : Type}

/-- What a draw ends with that opens lists however deep they are nested, in the state that it leaves
the dice in. A draw that never ends has no such outcome. -/
inductive DrawsFreely (s : Store) (dice : Dice σ) (level : Int) :
    LevelledList → ListRole → σ → Drawn × σ → Prop
  | missed {list role state roll after} (rolled : dice.percent state = (roll, after))
      (low : roll.val < list.chanceNone.toNat) :
      DrawsFreely s dice level list role state (⟨none, []⟩, after)
  | barren {list role state roll after} (rolled : dice.percent state = (roll, after))
      (passed : ¬ roll.val < list.chanceNone.toNat)
      (barren : s.candidates list role level = []) :
      DrawsFreely s dice level list role state (⟨none, s.missingItems list role level⟩, after)
  | picked {list role state roll after first others i final}
      (rolled : dice.percent state = (roll, after)) (passed : ¬ roll.val < list.chanceNone.toNat)
      (pickable : s.candidates list role level = first :: others)
      (pick : dice.pick others.length after = (i, final))
      (plain : s.nested? ((first :: others).get i).id = none) :
      DrawsFreely s dice level list role state
        (⟨some ((first :: others).get i).id, s.missingItems list role level⟩, final)
  | nested {list role state roll after first others i next nextRole inner drawn final}
      (rolled : dice.percent state = (roll, after)) (passed : ¬ roll.val < list.chanceNone.toNat)
      (pickable : s.candidates list role level = first :: others)
      (pick : dice.pick others.length after = (i, inner))
      (names : s.nested? ((first :: others).get i).id = some (next, nextRole))
      (rest : DrawsFreely s dice level next nextRole inner (drawn, final)) :
      DrawsFreely s dice level list role state
        (⟨drawn.pick, s.missingItems list role level ++ drawn.notices⟩, final)

/-- No chain of lists, each led to by the one before, is longer than 32 lists. -/
def Shallow (s : Store) (level : Int) (first : ListUse) : Prop :=
  ∀ uses : List ListUse, (first :: uses).IsChain (s.Leads level) → (first :: uses).length ≤ 32

variable {s : Store} {dice : Dice σ} {level : Int} {depth : Nat} {first : ListUse}
  {list : LevelledList} {role : ListRole}

/-- A limit that no chain of lists exceeds makes no difference. -/
theorem Sound.drawsFreely_iff (h : s.Sound) {state : σ} {out : Drawn × σ}
    (shallow : ∀ uses, ((list, role) :: uses).IsChain (s.Leads level) → uses.length < depth) :
    s.DrawsFreely dice level list role state out ↔
      out = s.drawWithin dice level depth list role state := by
  induction depth generalizing list role state out with
  | zero => exact absurd (shallow [] (List.isChain_singleton _)) (Nat.not_lt_zero _)
  | succ depth ih =>
    -- the list that a pick names starts chains that are shorter by one
    have further {entries : List LevelledEntry} {i : Fin entries.length} {next : ListUse}
        (pickable : s.candidates list role level = entries)
        (names : s.nested? (entries.get i).id = some next) (uses : List ListUse)
        (chain : (next :: uses).IsChain (s.Leads level)) : uses.length < depth := by
      have candidate : entries.get i ∈ s.candidates list role level := by
        rw [pickable]
        exact List.get_mem entries i
      have link : s.Leads level (list, role) next :=
        ⟨entries.get i, mem_candidates.mp candidate, h.nested?_eq_some.mp names⟩
      have longer := shallow (next :: uses) (List.isChain_cons_cons.mpr ⟨link, chain⟩)
      exact Nat.lt_of_succ_lt_succ longer
    constructor
    · intro free
      cases free with
      | missed rolled low => simp [drawWithin, rolled, low]
      | barren rolled passed barren => simp [drawWithin, rolled, passed, barren]
      | picked rolled passed pickable pick plain =>
        simp only [drawWithin, rolled, passed, pickable, pick, plain, if_false]
      | nested rolled passed pickable pick names rest =>
        have drawn := (ih (further pickable names)).mp rest
        simp only [drawWithin, rolled, passed, pickable, pick, names, if_false, ← drawn]
    · rintro rfl
      cases rolled : dice.percent state with
      | mk roll after =>
        by_cases low : roll.val < list.chanceNone.toNat
        · simpa [drawWithin, rolled, low] using .missed rolled low
        cases pickable : s.candidates list role level with
        | nil => simpa [drawWithin, rolled, low, pickable] using .barren rolled low pickable
        | cons first others =>
          cases pick : dice.pick others.length after with
          | mk i final =>
            simp only [drawWithin, rolled, low, pickable, pick, if_false]
            cases names : s.nested? ((first :: others).get i).id with
            | none => exact .picked rolled low pickable pick names
            | some next =>
              exact .nested rolled low pickable pick names
                ((ih (further pickable names)).mpr rfl)

/-- Chains are short when each list ranks below the lists that lead to it. -/
theorem Sound.shallow_of_rank (h : s.Sound) (rank : LevelledList → Nat)
    (below : ∀ list ∈ first.1 :: (s.lists .items ++ s.lists .creatures), ∀ entry ∈ list.items,
      ∀ next ∈ s.nested? entry.id, rank next.1 < rank list)
    (low : rank first.1 < 32) : s.Shallow level first := by
  intro uses
  suffices bound : ∀ use : ListUse, use.1 ∈ first.1 :: (s.lists .items ++ s.lists .creatures) →
      (use :: uses).IsChain (s.Leads level) → uses.length ≤ rank use.1 from fun chain =>
    Nat.succ_le_of_lt (Nat.lt_of_le_of_lt (bound first List.mem_cons_self chain) low)
  induction uses with
  | nil => exact fun _ _ _ => Nat.zero_le _
  | cons next uses ih =>
    intro use mem chain
    obtain ⟨⟨entry, eligible, names⟩, chain⟩ := List.isChain_cons_cons.mp chain
    have lower := below use.1 mem entry eligible.listed next (h.nested?_eq_some.mpr names)
    have live : next.1 ∈ s.lists .items ++ s.lists .creatures := by
      obtain ⟨list, role⟩ := next
      cases role with
      | items => exact List.mem_append_left _ names.1
      | creatures => exact List.mem_append_right _ names.2.1
    have rest := ih next (List.mem_cons_of_mem _ live) chain
    exact Nat.succ_le_of_lt (Nat.lt_of_le_of_lt rest lower)

/-- **The limit of depth matters for long chains only.** When no chain is longer than 32 lists, a
draw gives what it gives without the limit. Any draw visits 32 lists at most, and uses the dice no
more than once for the chance and once for the pick of each. -/
theorem draw_within_limit {σ : Type} (s : Store) (dice : Dice σ) (list : LevelledList)
    (role : ListRole) (level : Int) (state : σ) :
    (s.Reachable → s.Shallow level (list, role) → ∀ out,
      s.DrawsFreely dice level list role state out ↔ out = s.draw dice list role level state) ∧
    let drawn := s.draw dice list role level state
    let walk := s.walk dice level maxListDepth (list, role) state
    let counted := s.draw dice.counted list role level (state, ⟨0, 0⟩)
    (drawn = (walk.drawn, walk.state) ∧ walk.From (list, role)) ∧
      (counted.1 = drawn.1 ∧ counted.2.1 = drawn.2) ∧
      walk.visits.length ≤ 32 ∧ counted.2.2.rolls = walk.visits.length ∧
      counted.2.2.picks ≤ 32 := by
  refine ⟨fun reachable shallow out => ?_, ?_⟩
  · exact reachable.sound.drawsFreely_iff fun uses chain => Nat.lt_of_succ_le (shallow uses chain)
  · intro drawn walk counted
    obtain ⟨read, starts⟩ : drawn = (walk.drawn, walk.state) ∧ walk.From (list, role) :=
      s.draw_eq_walk dice list role level state
    have tallied : counted = (walk.drawn, walk.state,
        ⟨walk.visits.length, walk.visits.countP (·.picked.isSome)⟩) := by
      have counting := (s.draw_eq_walk dice.counted list role level (state, ⟨0, 0⟩)).1
      simp only [walk_counted, Nat.zero_add] at counting
      exact counting
    have few : walk.visits.length ≤ 32 := s.length_visits_le dice level maxListDepth _ state
    have picks : walk.visits.countP (·.picked.isSome) ≤ 32 := List.countP_le_length.trans few
    rw [read, tallied]
    exact ⟨⟨rfl, starts⟩, ⟨rfl, rfl⟩, few, rfl, picks⟩

/-- The list on a rung of a ladder names the list on the rung below; the lowest names a coin. -/
def rung : Nat → LevelledList
  | 0 => ⟨"0", 0, 0, [⟨"coin", 1⟩]⟩
  | n + 1 => ⟨toString (n + 1), 0, 0, [⟨toString n, 1⟩]⟩

/-- A store with a coin and the lowest rungs of the ladder. -/
def ladder (height : Nat) : Store :=
  let coins := (Store.new.modify .miscellaneous fun table =>
    table.replay [⟨{ (default : Miscellaneous) with id := "coin" }, false, none⟩]).1
  (coins.modify .itemList fun table =>
    table.replay ((List.range height).map fun n => ⟨rung n, false, none⟩)).1

theorem reachable_ladder (height : Nat) : (ladder height).Reachable :=
  (Store.Reachable.new.modify .miscellaneous _ fun _ _ => trivial).modify .itemList _
    fun _ _ => trivial

/-- The lowest rung is the 32nd list of the only chain from the top. -/
theorem shallow_ladder : (ladder 31).Shallow 1 (rung 31, .items) := by
  refine (reachable_ladder 31).sound.shallow_of_rank
    (fun list => ((List.range 31).map rung).idxOf list) ?_ ?_ <;> decide +kernel

theorem draw_within_limit_ladder :
    (ladder 31).Reachable ∧ (ladder 31).Shallow 1 (rung 31, .items) ∧
      ∃ out, (ladder 31).DrawsFreely .told 1 (rung 31) .items [] out ∧ out.1.pick = some "coin" := by
  have free := (draw_within_limit (ladder 31) .told (rung 31) .items 1 []).1 (reachable_ladder 31)
    shallow_ladder
  exact ⟨reachable_ladder 31, shallow_ladder, _, (free _).mpr rfl, by decide +kernel⟩

/-- From one rung higher up the coin is out of reach. -/
example : ((ladder 32).draw .told (rung 32) .items 1 []).1.pick = none := by decide +kernel

end Store

end ContentLayers
