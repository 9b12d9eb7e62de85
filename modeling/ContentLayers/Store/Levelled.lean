import ContentLayers.Notice
import ContentLayers.Store.Basic
import ContentLayers.Store.Random

/-!
# Drawing from levelled lists

A list is rolled for nothing first, and then one of its eligible entries is picked. A pick that
names a levelled list is drawn from in turn, at most `maxListDepth` lists deep.
-/

namespace ContentLayers

def maxListDepth : Nat := 32

/-- What a levelled list is used for, which decides the meaning of its flags. -/
inductive ListRole where
  | items
  | creatures
  deriving DecidableEq, Repr

namespace LevelledList

/-- Whether entries below the highest eligible level count too. -/
def allLevels (list : LevelledList) : ListRole → Bool
  | .items => list.flags &&& 2 != 0
  | .creatures => list.flags &&& 1 != 0

/-- The highest level of an entry that is not above `level`. -/
def highest? (list : LevelledList) (level : Int) : Option Int :=
  ((list.items.map (·.level.toInt)).filter (· ≤ level)).max?

/-- The entries whose level is right, whether or not their ids are known. -/
def levelEligible (list : LevelledList) (role : ListRole) (level : Int) : List LevelledEntry :=
  match list.highest? level with
  | none => []
  | some highest => list.items.filter fun entry =>
      entry.level.toInt ≤ level && (list.allLevels role || entry.level.toInt == highest)

end LevelledList

/-- The outcome of a draw, and the notices it gave. -/
structure Drawn where
  pick : Option String
  notices : List Notice

namespace Store

def candidates (s : Store) (list : LevelledList) (role : ListRole) (level : Int) :
    List LevelledEntry :=
  (list.levelEligible role level).filter fun entry => (s.find entry.id).isSome

def missingItems (s : Store) (list : LevelledList) (role : ListRole) (level : Int) : List Notice :=
  ((list.levelEligible role level).filter fun entry => (s.find entry.id).isNone).map
    fun entry => .missingItem entry.id list.id

/-- The list that an id names, item lists before creature lists. -/
def nested? (s : Store) (id : String) : Option (LevelledList × ListRole) :=
  match (s.table .itemList).search id with
  | some list => some (list, .items)
  | none => ((s.table .creatureList).search id).map (·, .creatures)

/-- Draws from a list when `depth` more lists may be opened. -/
def drawWithin {σ : Type} (s : Store) (dice : Dice σ) (level : Int) :
    (depth : Nat) → LevelledList → ListRole → σ → Drawn × σ
  | 0, list, _, state => (⟨none, [.listTooDeep list.id]⟩, state)
  | depth + 1, list, role, state =>
    let (roll, state) := dice.percent state
    if roll.val < list.chanceNone.toNat then (⟨none, []⟩, state)
    else
      let missing := s.missingItems list role level
      match s.candidates list role level with
      | [] => (⟨none, missing⟩, state)
      | first :: others =>
        let (i, state) := dice.pick others.length state
        let chosen := (first :: others).get i
        match s.nested? chosen.id with
        | some (list, role) =>
          let (drawn, state) := drawWithin s dice level depth list role state
          (⟨drawn.pick, missing ++ drawn.notices⟩, state)
        | none => (⟨some chosen.id, missing⟩, state)

/-- Draws an id from a list for an actor of a level. -/
def draw {σ : Type} (s : Store) (dice : Dice σ) (list : LevelledList) (role : ListRole)
    (level : Int) (state : σ) : Drawn × σ :=
  s.drawWithin dice level maxListDepth list role state

end Store

end ContentLayers
