import ContentLayers.Proofs.Draws

/-!
# The visits of a draw

A draw visits one list after the other. At each it rolls, leaves out the entries whose ids nothing
has, and picks one of the others, which ends the draw or names the list to visit next. What a draw
gives, and how often it uses the dice, is read off its visits.
-/

namespace ContentLayers

/-- How often dice were used. -/
structure Tally where
  rolls : Nat
  picks : Nat
  deriving DecidableEq, Repr

/-- Dice that count how often they are used. -/
def Dice.counted {σ : Type} (dice : Dice σ) : Dice (σ × Tally) where
  percent := fun (state, tally) =>
    let (roll, state) := dice.percent state
    (roll, state, { tally with rolls := tally.rolls + 1 })
  pick := fun others (state, tally) =>
    let (i, state) := dice.pick others state
    (i, state, { tally with picks := tally.picks + 1 })

/-- The kind of the lists that are meant for a use. -/
def ListRole.kind : ListRole → Kind
  | .items => .itemList
  | .creatures => .creatureList

/-- What a draw does with one list. -/
structure Visit where
  use : ListUse
  roll : Fin 100
  /-- The entries that are left out because no record stands behind them. -/
  missing : List LevelledEntry
  /-- The entries that are left to pick from. -/
  candidates : List LevelledEntry
  picked : Option LevelledEntry
  /-- The list that the picked entry names. -/
  next : Option ListUse
  deriving DecidableEq, Repr

namespace Visit

/-- The roll lets the entries of the list be looked at. -/
def Passed (v : Visit) : Prop := v.use.1.chanceNone.toNat ≤ v.roll.val

instance (v : Visit) : Decidable v.Passed := inferInstanceAs (Decidable (_ ≤ _))

def notices (v : Visit) : List Notice :=
  v.missing.map fun entry => .missingItem entry.id v.use.1.id

/-- The id that a visit ends the draw with. -/
def result (v : Visit) : Option String :=
  match v.next with
  | some _ => none
  | none => v.picked.map (·.id)

theorem result_of_next {v : Visit} {next : ListUse} (leads : v.next = some next) :
    v.result = none := by
  rw [result, leads]

end Visit

/-- The visits of a draw in order. -/
structure Walk (σ : Type) where
  visits : List Visit
  /-- The list that was not visited because it lies too deep. -/
  refused : Option ListUse
  state : σ

namespace Walk

variable {σ : Type}

/-- The lists that a draw comes to. -/
def uses (w : Walk σ) : List ListUse := w.visits.map (·.use) ++ w.refused.toList

def drawn (w : Walk σ) : Drawn where
  pick := w.visits.findSome? (·.result)
  notices := w.visits.flatMap (·.notices) ++
    w.refused.toList.map fun use => .listTooDeep use.1.id

/-- A draw comes to the list that it is made from, and from each list to the one that its visit
leads to. -/
structure From (w : Walk σ) (first : ListUse) : Prop where
  first : w.uses.head? = some first
  next : ∀ i visit, w.visits[i]? = some visit → visit.next = w.uses[i + 1]?

end Walk

namespace Store

variable {σ : Type}

/-- The live lists of a kind. -/
def lists (s : Store) : ListRole → List LevelledList
  | .items => (s.table .itemList).records
  | .creatures => (s.table .creatureList).records

/-- The entries of the right level that no record stands behind. -/
def missingEntries (s : Store) (use : ListUse) (level : Int) : List LevelledEntry :=
  (use.1.levelEligible use.2 level).filter fun entry => (s.find entry.id).isNone

/-- Rolls for a list and picks from it. -/
def visit (s : Store) (dice : Dice σ) (level : Int) (use : ListUse) (state : σ) : Visit × σ :=
  let (roll, state) := dice.percent state
  if roll.val < use.1.chanceNone.toNat then (⟨use, roll, [], [], none, none⟩, state)
  else
    let missing := s.missingEntries use level
    match s.candidates use.1 use.2 level with
    | [] => (⟨use, roll, missing, [], none, none⟩, state)
    | first :: others =>
      let (i, state) := dice.pick others.length state
      let chosen := (first :: others).get i
      (⟨use, roll, missing, first :: others, some chosen, s.nested? chosen.id⟩, state)

/-- Visits lists up to one that leads nowhere, but no more than `depth` of them. -/
def walk (s : Store) (dice : Dice σ) (level : Int) : (depth : Nat) → ListUse → σ → Walk σ
  | 0, use, state => ⟨[], some use, state⟩
  | depth + 1, use, state =>
    let (visit, state) := s.visit dice level use state
    match visit.next with
    | none => ⟨[visit], none, state⟩
    | some next =>
      let rest := walk s dice level depth next state
      { rest with visits := visit :: rest.visits }

variable {s : Store} {dice : Dice σ} {level : Int} {depth : Nat} {use : ListUse} {state : σ}

/-- What a visit comes to. -/
inductive Visits (s : Store) (dice : Dice σ) (level : Int) (use : ListUse) (state : σ) :
    Visit × σ → Prop
  | missed (low : (dice.percent state).1.val < use.1.chanceNone.toNat) :
      Visits s dice level use state
        (⟨use, (dice.percent state).1, [], [], none, none⟩, (dice.percent state).2)
  | barren (passed : ¬ (dice.percent state).1.val < use.1.chanceNone.toNat)
      (barren : s.candidates use.1 use.2 level = []) :
      Visits s dice level use state
        (⟨use, (dice.percent state).1, s.missingEntries use level, [], none, none⟩,
          (dice.percent state).2)
  | picked (passed : ¬ (dice.percent state).1.val < use.1.chanceNone.toNat)
      (first : LevelledEntry) (others : List LevelledEntry)
      (pickable : s.candidates use.1 use.2 level = first :: others)
      (i : Fin (others.length + 1)) (after : σ)
      (pick : dice.pick others.length (dice.percent state).2 = (i, after)) :
      Visits s dice level use state
        (⟨use, (dice.percent state).1, s.missingEntries use level, first :: others,
          some ((first :: others).get i), s.nested? ((first :: others).get i).id⟩, after)

theorem visit_spec (s : Store) (dice : Dice σ) (level : Int) (use : ListUse) (state : σ) :
    s.Visits dice level use state (s.visit dice level use state) := by
  simp only [visit]
  by_cases low : (dice.percent state).1.val < use.1.chanceNone.toNat
  · rw [if_pos low]
    exact .missed low
  rw [if_neg low]
  cases pickable : s.candidates use.1 use.2 level with
  | nil => exact .barren low pickable
  | cons first others => exact .picked low first others pickable _ _ rfl

@[simp] theorem use_visit : (s.visit dice level use state).1.use = use := by
  have spec := s.visit_spec dice level use state
  generalize s.visit dice level use state = made at spec
  cases spec <;> rfl

/-- What holds of a visit, whatever the dice. -/
structure Allows (s : Store) (level : Int) (v : Visit) : Prop where
  missing : v.Passed → v.missing = s.missingEntries v.use level
  candidates : v.Passed → v.candidates = s.candidates v.use.1 v.use.2 level
  picked : ∀ entry, v.picked = some entry →
    entry ∈ s.candidates v.use.1 v.use.2 level ∧ v.next = s.nested? entry.id

theorem allows_visit (s : Store) (dice : Dice σ) (level : Int) (use : ListUse) (state : σ) :
    s.Allows level (s.visit dice level use state).1 := by
  have spec := s.visit_spec dice level use state
  generalize s.visit dice level use state = made at spec
  cases spec with
  | missed low =>
    have stopped : ¬ Visit.Passed ⟨use, (dice.percent state).1, [], [], none, none⟩ :=
      Nat.not_le.mpr low
    exact ⟨fun passed => absurd passed stopped, fun passed => absurd passed stopped, by simp⟩
  | barren _ barren =>
    exact ⟨fun _ => rfl, fun _ => barren.symm, by simp⟩
  | picked _ first others pickable i =>
    refine ⟨fun _ => rfl, fun _ => pickable.symm, ?_⟩
    rintro entry ⟨⟩
    refine ⟨?_, rfl⟩
    rw [pickable]
    exact List.get_mem _ _

theorem allows_walk (s : Store) (dice : Dice σ) (level : Int) (depth : Nat) (use : ListUse)
    (state : σ) : ∀ visit ∈ (s.walk dice level depth use state).visits, s.Allows level visit := by
  have first := s.allows_visit dice level
  induction depth generalizing use state with
  | zero => simp [walk]
  | succ depth ih =>
    rw [walk]
    cases leads : (s.visit dice level use state).1.next with
    | none => simpa [leads] using first use state
    | some next => simpa [leads] using ⟨first use state, ih next _⟩

/-- One more list that is allowed is one visit and what is drawn from the list that it leads to. -/
theorem drawWithin_succ (s : Store) (dice : Dice σ) (level : Int) (depth : Nat) (use : ListUse)
    (state : σ) :
    s.drawWithin dice level (depth + 1) use.1 use.2 state =
      match s.visit dice level use state with
      | (visit, state) =>
        match visit.next with
        | none => (⟨visit.result, visit.notices⟩, state)
        | some next =>
          let (drawn, state) := s.drawWithin dice level depth next.1 next.2 state
          (⟨drawn.pick, visit.notices ++ drawn.notices⟩, state) := by
  have spec := s.visit_spec dice level use state
  generalize s.visit dice level use state = made at spec
  cases spec with
  | missed low => simp [drawWithin, low, Visit.result, Visit.notices]
  | barren passed barren =>
    simp [drawWithin, passed, barren, missingItems, Visit.result, Visit.notices, missingEntries]
  | picked passed first others pickable i after pick =>
    simp only [drawWithin, passed, pickable, if_false, pick]
    cases s.nested? ((first :: others).get i).id with
    | none => simp [Visit.result, Visit.notices, missingItems, missingEntries]
    | some next => simp [Visit.notices, missingItems, missingEntries]

/-- What is drawn is read off the visits. -/
theorem drawWithin_eq_walk (s : Store) (dice : Dice σ) (level : Int) (depth : Nat) (use : ListUse)
    (state : σ) :
    s.drawWithin dice level depth use.1 use.2 state =
      ((s.walk dice level depth use state).drawn, (s.walk dice level depth use state).state) := by
  induction depth generalizing use state with
  | zero => rfl
  | succ depth ih =>
    rw [drawWithin_succ, walk]
    cases leads : (s.visit dice level use state).1.next with
    | none => simp [leads, Walk.drawn]
    | some next =>
      simp [leads, ih, Walk.drawn, Visit.result_of_next leads]

/-- A walk goes from its list to where its visits lead. -/
theorem from_walk (s : Store) (dice : Dice σ) (level : Int) (depth : Nat) (use : ListUse)
    (state : σ) : (s.walk dice level depth use state).From use := by
  induction depth generalizing use state with
  | zero => exact ⟨rfl, by simp [walk]⟩
  | succ depth ih =>
    rw [walk]
    cases leads : (s.visit dice level use state).1.next with
    | none =>
      refine ⟨by simp [leads, Walk.uses], fun i visit place => ?_⟩
      cases i with
      | zero =>
        obtain rfl : (s.visit dice level use state).1 = visit := by simpa [leads] using place
        simp [leads, Walk.uses]
      | succ i => simp [leads] at place
    | some next =>
      obtain ⟨first, further⟩ := ih next (s.visit dice level use state).2
      refine ⟨by simp [leads, Walk.uses], fun i visit place => ?_⟩
      cases i with
      | zero =>
        obtain rfl : (s.visit dice level use state).1 = visit := by simpa [leads] using place
        simpa [leads, Walk.uses, List.head?_eq_getElem?] using first.symm
      | succ i => simpa [leads, Walk.uses] using further i visit (by simpa [leads] using place)

/-- A draw is the visits that start with its list. -/
theorem draw_eq_walk (s : Store) (dice : Dice σ) (list : LevelledList) (role : ListRole)
    (level : Int) (state : σ) :
    let walk := s.walk dice level maxListDepth (list, role) state
    s.draw dice list role level state = (walk.drawn, walk.state) ∧ walk.From (list, role) :=
  ⟨s.drawWithin_eq_walk dice level maxListDepth (list, role) state,
    s.from_walk dice level maxListDepth (list, role) state⟩

/-- A visit that leads nowhere gives the result. -/
theorem pick_walk (s : Store) {visit : Visit}
    (mem : visit ∈ (s.walk dice level depth use state).visits) (last : visit.next = none) :
    (s.walk dice level depth use state).drawn.pick = visit.result := by
  induction depth generalizing use state with
  | zero => simp [walk] at mem
  | succ depth ih =>
    rw [walk] at mem ⊢
    cases leads : (s.visit dice level use state).1.next with
    | none =>
      obtain rfl : visit = (s.visit dice level use state).1 := by simpa [leads] using mem
      simp [leads, Walk.drawn]
    | some next =>
      obtain rfl | later : visit = (s.visit dice level use state).1 ∨
          visit ∈ (s.walk dice level depth next (s.visit dice level use state).2).visits := by
        simpa [leads] using mem
      · rw [leads] at last
        cases last
      · simpa [leads, Walk.drawn, Visit.result_of_next leads] using ih later

/-- The dice roll once for each visit, and pick once for each that has a candidate. -/
theorem walk_counted (s : Store) (dice : Dice σ) (level : Int) (depth : Nat) (use : ListUse)
    (state : σ) (tally : Tally) :
    s.walk dice.counted level depth use (state, tally) =
      let w := s.walk dice level depth use state
      ⟨w.visits, w.refused, w.state, tally.rolls + w.visits.length,
        tally.picks + w.visits.countP (·.picked.isSome)⟩ := by
  have first (use : ListUse) (state : σ) (tally : Tally) :
      s.visit dice.counted level use (state, tally) =
        let (visit, state) := s.visit dice level use state
        (visit, state, ⟨tally.rolls + 1, tally.picks + visit.picked.isSome.toNat⟩) := by
    simp only [visit, Dice.counted]
    by_cases missed : (dice.percent state).1.val < use.1.chanceNone.toNat
    · simp [missed]
    · simp only [missed, if_false]
      cases s.candidates use.1 use.2 level <;> rfl
  induction depth generalizing use state tally with
  | zero => rfl
  | succ depth ih =>
    rw [walk, walk, first]
    cases leads : (s.visit dice level use state).1.next with
    | none => simp [leads, List.countP_cons, Bool.toNat, Bool.cond_eq_ite]
    | some next =>
      simp [leads, ih, List.countP_cons, Bool.toNat, Bool.cond_eq_ite]
      omega

theorem length_visits_le (s : Store) (dice : Dice σ) (level : Int) (depth : Nat) (use : ListUse)
    (state : σ) : (s.walk dice level depth use state).visits.length ≤ depth := by
  induction depth generalizing use state with
  | zero => exact Nat.le_refl 0
  | succ depth ih =>
    rw [walk]
    cases leads : (s.visit dice level use state).1.next with
    | none => simp [leads]
    | some next => simpa [leads] using ih next _

end Store

end ContentLayers
