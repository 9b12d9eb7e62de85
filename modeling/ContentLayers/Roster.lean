import ContentLayers.Text.Folding
import Std.Data.ExtTreeMap

/-!
# Rosters

Entries in the order in which their ids were first mentioned, found again by id up to ASCII case.
-/

namespace ContentLayers

structure Roster (α : Type) where
  entries : Array α
  /-- The position of each folded id. -/
  index : Std.ExtTreeMap String Nat

namespace Roster

variable {α : Type}

def empty : Roster α := ⟨#[], ∅⟩

instance : Inhabited (Roster α) := ⟨empty⟩

def toList (r : Roster α) : List α := r.entries.toList

def find? (r : Roster α) (id : String) : Option α :=
  r.index[fold id]?.bind (r.entries[·]?)

/-- Sets the entry for an id, in the place that the id has or else in a new one at the end. -/
def put (r : Roster α) (id : String) (a : α) : Roster α :=
  match r.index[fold id]? with
  | some position => { r with entries := r.entries.setIfInBounds position a }
  | none => ⟨r.entries.push a, r.index.insert (fold id) r.entries.size⟩

/-- The index knows exactly the entries, each under its folded id. Ids are then distinct up to
case. -/
def Valid (idOf : α → String) (r : Roster α) : Prop :=
  ∀ key position, r.index[key]? = some position ↔
    ∃ a, r.entries[position]? = some a ∧ fold (idOf a) = key

theorem valid_empty (idOf : α → String) : (empty : Roster α).Valid idOf := by
  intro key position
  simp [empty]

theorem Valid.put {idOf : α → String} {r : Roster α} (h : r.Valid idOf) {id : String} {a : α}
    (ha : fold (idOf a) = fold id) : (r.put id a).Valid idOf := by
  unfold Roster.put
  split
  · rename_i old known
    obtain ⟨b, hb, hid⟩ := (h _ _).mp known
    have bound : old < r.entries.size := (Array.getElem?_eq_some_iff.mp hb).1
    intro key position
    show r.index[key]? = some position ↔ _
    rw [h key position]
    by_cases hp : old = position
    · subst hp
      have held : r.entries[old] = b := by simpa [bound] using hb
      simp [held, hid, ha, bound]
    · simp [hp]
  · rename_i unknown
    have fresh : ∀ (position : Nat) (b : α),
        r.entries[position]? = some b → fold (idOf b) ≠ fold id := by
      intro position b hb hid
      have := (h _ _).mpr ⟨b, hb, hid⟩
      simp [unknown] at this
    intro key position
    show (r.index.insert (fold id) r.entries.size)[key]? = some position ↔
      ∃ b, (r.entries.push a)[position]? = some b ∧ _
    rw [Std.ExtTreeMap.getElem?_insert, Array.getElem?_push]
    simp only [Std.LawfulEqOrd.compare_eq_iff_eq]
    by_cases hk : fold id = key
    · subst hk
      by_cases hp : position = r.entries.size
      · subst hp; simp [ha]
      · simp only [if_neg hp, if_true, Option.some.injEq]
        constructor
        · intro e; exact absurd e.symm hp
        · rintro ⟨b, hb, hid⟩; exact absurd hid (fresh _ _ hb)
    · by_cases hp : position = r.entries.size
      · subst hp
        simp only [if_neg hk, if_true, Option.some.injEq]
        constructor
        · intro e
          obtain ⟨b, hb, _⟩ := (h _ _).mp e
          simp at hb
        · rintro ⟨b, rfl, hid⟩; exact absurd (ha.symm.trans hid) hk
      · simp only [if_neg hk, if_neg hp]
        exact h key position

end Roster

end ContentLayers
