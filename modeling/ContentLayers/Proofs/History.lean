import ContentLayers.Text.Folding
import Mathlib

/-!
# Histories

A history lists entries with ids, the oldest first. It has two readings: the ids in the order of
their first mention, and the last entry for an id.
-/

namespace ContentLayers

@[simp] theorem fold_fold (s : String) : fold (fold s) = fold s := by
  simp [fold, Function.comp_def]

theorem eraseDups_concat (keys : List String) (key : String) :
    (keys ++ [key]).eraseDups =
      if key ∈ keys then keys.eraseDups else keys.eraseDups ++ [key] := by
  rw [List.eraseDups_append]
  by_cases seen : key ∈ keys <;> simp [List.removeAll, List.eraseDups_cons, seen]

theorem eraseDups_append_of_subset {keys more : List String} (known : ∀ key ∈ more, key ∈ keys) :
    (keys ++ more).eraseDups = keys.eraseDups := by
  have none : more.removeAll keys = [] := by simpa [List.removeAll] using known
  rw [List.eraseDups_append, none]
  simp

theorem nodup_eraseDups (keys : List String) : keys.eraseDups.Nodup := by
  induction keys using List.reverseRecOn with
  | nil => exact List.nodup_nil
  | append_singleton keys key ih =>
    rw [eraseDups_concat]
    split
    · exact ih
    · rename_i fresh
      rw [← List.concat_eq_append, List.nodup_concat, List.mem_eraseDups]
      exact ⟨fresh, ih⟩

theorem eraseDups_of_nodup {keys : List String} (distinct : keys.Nodup) :
    keys.eraseDups = keys := by
  induction keys using List.reverseRecOn with
  | nil => rfl
  | append_singleton keys key ih =>
    rw [← List.concat_eq_append, List.nodup_concat] at distinct
    rw [eraseDups_concat, if_neg distinct.1, ih distinct.2]

theorem eraseDups_eraseDups_append (keys more : List String) :
    (keys.eraseDups ++ more).eraseDups = (keys ++ more).eraseDups := by
  induction more using List.reverseRecOn with
  | nil => simpa using eraseDups_of_nodup (nodup_eraseDups keys)
  | append_singleton more key ih =>
    rw [← List.append_assoc, ← List.append_assoc, eraseDups_concat, eraseDups_concat, ih]
    simp [List.mem_eraseDups]

namespace History

variable {ω : Type} (idOf : ω → String)

/-- The folded ids in the order of their first mention. -/
def mentioned (log : List ω) : List String := (log.map fun w => fold (idOf w)).eraseDups

/-- The last entry for an id. -/
def last? (log : List ω) (q : String) : Option ω :=
  (log.filter fun w => sameFolded (idOf w) q).getLast?

variable {idOf} {log : List ω} {w : ω} {q : String}

theorem last?_congr {other : String} (same : fold q = fold other) :
    last? idOf log q = last? idOf log other := by
  simp [last?, sameFolded, same]

theorem last?_concat :
    last? idOf (log ++ [w]) q = if fold (idOf w) = fold q then some w else last? idOf log q := by
  by_cases h : fold (idOf w) = fold q
  · simp [last?, sameFolded, h]
  · simp only [last?, sameFolded, List.filter_append]
    simp [h]

theorem last?_append (earlier later : List ω) :
    last? idOf (earlier ++ later) q = (last? idOf later q).or (last? idOf earlier q) := by
  simp [last?, List.getLast?_append]

theorem last?_eq_none : last? idOf log q = none ↔ ∀ w ∈ log, fold (idOf w) ≠ fold q := by
  simp [last?, sameFolded_iff]

theorem mem_of_last? (found : last? idOf log q = some w) : w ∈ log :=
  (List.mem_filter.mp (List.mem_of_getLast? found)).1

theorem mem_mentioned {key : String} :
    key ∈ mentioned idOf log ↔ ∃ w ∈ log, fold (idOf w) = key := by
  simp [mentioned, List.mem_eraseDups]

theorem mentioned_concat :
    mentioned idOf (log ++ [w]) =
      if fold (idOf w) ∈ mentioned idOf log then mentioned idOf log
      else mentioned idOf log ++ [fold (idOf w)] := by
  simp only [mentioned, List.map_append, List.map_cons, List.map_nil, eraseDups_concat,
    List.mem_eraseDups]

/-- What is read off the entries of a log, each seen with those before it. -/
def select {β : Type} (f : List ω → ω → Option β) (log : List ω) : List β :=
  (List.range log.length).filterMap fun i => log[i]?.bind (f (log.take i))

theorem select_concat {β : Type} (f : List ω → ω → Option β) (log : List ω) (w : ω) :
    select f (log ++ [w]) = select f log ++ (f log w).toList := by
  have earlier : ∀ i ∈ List.range log.length,
      (log ++ [w])[i]?.bind (f ((log ++ [w]).take i)) = log[i]?.bind (f (log.take i)) := by
    intro i mem
    have bound := List.mem_range.mp mem
    rw [List.getElem?_append_left bound, List.take_append_of_le_length (Nat.le_of_lt bound)]
  rw [select, List.length_append, List.length_singleton, List.range_succ, List.filterMap_append,
    List.filterMap_congr earlier, select]
  cases entry : f log w <;> simp [entry]

theorem mem_select {β : Type} {f : List ω → ω → Option β} {b : β} :
    b ∈ select f log ↔ ∃ i w, log[i]? = some w ∧ f (log.take i) w = some b := by
  simp only [select, List.mem_filterMap, List.mem_range, Option.bind_eq_some_iff]
  constructor
  · rintro ⟨i, _, w, held, found⟩
    exact ⟨i, w, held, found⟩
  · rintro ⟨i, w, held, found⟩
    exact ⟨i, (List.getElem?_eq_some_iff.mp held).1, w, held, found⟩

/-- Each entry is as it must be after those before it. -/
def Each (p : List ω → ω → Prop) (log : List ω) : Prop :=
  ∀ i w, log[i]? = some w → p (log.take i) w

variable {p weak : List ω → ω → Prop} {more : List ω}

theorem each_nil : Each p [] := fun i w held => by simp at held

theorem each_concat : Each p (log ++ [w]) ↔ Each p log ∧ p log w := by
  constructor
  · intro each
    refine ⟨fun i v held => ?_, ?_⟩
    · have inside := (List.getElem?_eq_some_iff.mp held).1
      have before := each i v (by rwa [List.getElem?_append_left inside])
      rwa [List.take_append_of_le_length (Nat.le_of_lt inside)] at before
    · simpa using each log.length w (by simp)
  · rintro ⟨each, last⟩ i v held
    by_cases inside : i < log.length
    · rw [List.getElem?_append_left inside] at held
      rw [List.take_append_of_le_length (Nat.le_of_lt inside)]
      exact each i v held
    · rw [List.getElem?_append_right (Nat.le_of_not_lt inside), List.getElem?_singleton] at held
      split at held
      · rename_i first
        have whole : i = log.length := by omega
        rw [whole, List.take_left, ← Option.some.inj held]
        exact last
      · cases held

theorem each_append :
    Each p (log ++ more) ↔ Each p log ∧ Each (fun earlier => p (log ++ earlier)) more := by
  induction more using List.reverseRecOn with
  | nil => simp [each_nil]
  | append_singleton more w ih => rw [← List.append_assoc, each_concat, each_concat, ih, and_assoc]

theorem Each.imp (each : Each p log) (weaker : ∀ earlier, ∀ w ∈ log, p earlier w → weak earlier w) :
    Each weak log := fun i w held =>
  weaker _ w (List.mem_of_getElem? held) (each i w held)

instance [∀ earlier w, Decidable (p earlier w)] : Decidable (Each p log) :=
  decidable_of_iff (∀ i : Fin log.length, p (log.take i) log[i]) <| by
    constructor
    · intro each i w held
      obtain ⟨inside, same⟩ := List.getElem?_eq_some_iff.mp held
      exact same ▸ each ⟨i, inside⟩
    · exact fun each i => each i log[i] (List.getElem?_eq_getElem i.isLt)

end History

end ContentLayers
