import ContentLayers.Proofs.Loading

/-!
# Effects of records

What a record does to a load is decided by what the records of its kind see of it: their table, the
active topic for topics and infos, and the index of the file. Effects on different kinds commute.
-/

namespace ContentLayers

namespace FileStats

/-- One more record replaced of a file, by the file with an index. -/
def bump (index : Nat) (overrides : Std.ExtTreeMap Nat Nat) (previous : Nat) :
    Std.ExtTreeMap Nat Nat :=
  if previous = index then overrides
  else overrides.insert previous (overrides.getD previous 0 + 1)

theorem bump_comm (index : Nat) (overrides : Std.ExtTreeMap Nat Nat) (p q : Nat) :
    bump index (bump index overrides p) q = bump index (bump index overrides q) p := by
  by_cases own : p = index
  · simp [bump, own]
  by_cases own' : q = index
  · simp [bump, own']
  by_cases same : p = q
  · rw [same]
  simp only [bump, own, own', if_false]
  apply Std.ExtTreeMap.ext_getElem?
  intro key
  simp only [Std.ExtTreeMap.getElem?_insert, Std.ExtTreeMap.getD_insert,
    Std.LawfulEqOrd.compare_eq_iff_eq, same, Ne.symm same, if_false]
  split
  · rename_i here
    subst here
    rw [if_neg same]
  · rfl

/-- What one record adds to the counts of its file. -/
structure Tally where
  loaded : Nat := 0
  deleted : Nat := 0
  skipped : Nat := 0
  infos : Nat := 0
  /-- The file whose record is replaced. -/
  previous : Option Nat := none

def add (s : FileStats) (t : Tally) : FileStats :=
  { s with
    loaded := s.loaded + t.loaded
    deleted := s.deleted + t.deleted
    skipped := s.skipped + t.skipped
    infos := s.infos + t.infos
    overrides := t.previous.elim s.overrides (bump s.index s.overrides) }

/-- The order in which records are counted makes no difference. -/
theorem add_comm (s : FileStats) (t u : Tally) : (s.add t).add u = (s.add u).add t := by
  have overrides : u.previous.elim (t.previous.elim s.overrides (bump s.index s.overrides))
        (bump s.index (t.previous.elim s.overrides (bump s.index s.overrides))) =
      t.previous.elim (u.previous.elim s.overrides (bump s.index s.overrides))
        (bump s.index (u.previous.elim s.overrides (bump s.index s.overrides))) := by
    cases t.previous with
    | none => cases u.previous <;> rfl
    | some p =>
      cases u.previous with
      | none => rfl
      | some q => exact bump_comm s.index s.overrides p q
  simp only [add, overrides, Nat.add_right_comm]

namespace Tally

def ofWrite : Outcome → Tally
  | .tombstoned _ => { deleted := 1 }
  | .inserted | .revived | .replaced none => { loaded := 1 }
  | .replaced (some previous) => { loaded := 1, previous := some previous }

def ofInfo : InfoMerge → Tally
  | .ignored => {}
  | .appended | .updated | .markedDeleted => { infos := 1 }

end Tally

theorem countWrite_eq_add (s : FileStats) (outcome : Outcome) :
    s.countWrite outcome = s.add (.ofWrite outcome) := by
  rcases outcome with _ | (_ | previous) | _ | _
  case replaced.some =>
    by_cases own : previous = s.index <;>
      simp [countWrite, countOverride, add, Tally.ofWrite, bump, own]
  all_goals rfl

theorem countInfo_eq_add (s : FileStats) (merge : InfoMerge) :
    s.countInfo merge = s.add (.ofInfo merge) := by
  cases merge <;> rfl

end FileStats

namespace Chunk

/-- The kind that a record belongs to, by tag. Infos belong to the topics. -/
def group (c : Chunk) : Tag := if c.tag = Kind.infoTag then Kind.dialogue.tag else c.tag

end Chunk

namespace Loading

variable {l m next : Loading Store} {c d : Chunk}

/-- Each way to apply a record is the way it is applied. -/
theorem Step.apply (h : Step l c next) : l.apply c = (next, none) := by
  cases h with
  | topic topic named decoded =>
    rw [Loading.apply, if_pos named, decode, decoded]
    rfl
  | info info topics merge named decoded merged =>
    have apart : c.tag ≠ Kind.dialogue.tag := named ▸ Kind.infoTag_ne_dialogue
    rw [Loading.apply, if_neg apart, if_pos named, decode, decoded]
    simp only [Except.mapError, applyInfo, merged]
  | record kind table record other noInfo found decoded =>
    rw [Loading.apply, if_neg other, if_neg noInfo, found]
    simp only [applyRecord, Shelf.load, decoded]
    rfl
  | skipped other noInfo unknown optional =>
    rw [Loading.apply, if_neg other, if_neg noInfo, unknown]
    simp [optional, skip]

/-- A load without its reports. -/
def quiet (l : Loading Store) : Loading Store := { l with events := [] }

/-- What a record does to a load, apart from what is reported. -/
structure Effect where
  /-- The shelf that is put in its place. -/
  shelf : Option Shelf
  /-- The topic that becomes active. -/
  opened : Option String
  tally : FileStats.Tally

/-- The load after an effect. -/
def after (l : Loading Store) (e : Effect) : Loading Store where
  store := e.shelf.elim l.store l.store.setShelf
  active := e.opened.or l.active
  position := l.position + 1
  stats := l.stats.add e.tally
  events := []

/-- The effect is on the shelf with a tag, and makes a topic active only when it is theirs. -/
structure Effect.Within (e : Effect) (tag : Tag) : Prop where
  shelf : ∀ shelf, e.shelf = some shelf → shelf.kind.tag = tag
  opened : tag ≠ Kind.dialogue.tag → e.opened = none

/-- Two loads look the same to the records of a kind. -/
structure Alike (l m : Loading Store) (tag : Tag) : Prop where
  shelf : m.store.shelf? tag = l.store.shelf? tag
  active : tag = Kind.dialogue.tag → m.active = l.active
  index : m.stats.index = l.stats.index

/-- Topics and infos see the table of the topics. -/
theorem Alike.topics (h : Alike l m Kind.dialogue.tag) :
    m.store.table .dialogue = l.store.table .dialogue := by
  rw [Store.table, Store.table?, h.shelf]
  rfl

/-- What a record does is decided by what the records of its kind see. -/
theorem Step.effect (h : Step l c next) :
    ∃ e : Effect, e.Within c.group ∧
      ∀ m, Alike l m c.group → ∃ next, m.apply c = (next, none) ∧ next.quiet = m.after e := by
  cases h with
  | topic topic named decoded =>
    have group : c.group = Kind.dialogue.tag := by
      simp [Chunk.group, named, Ne.symm Kind.infoTag_ne_dialogue]
    let written := (l.store.table .dialogue).write (l.writeOf c topic)
    refine ⟨⟨some ⟨.dialogue, written.1⟩, some topic.id, .ofWrite written.2⟩,
      ⟨by rintro _ ⟨⟩; exact group.symm, fun other => absurd group other⟩, fun m alike => ?_⟩
    rw [group] at alike
    refine ⟨_, (Step.topic topic named decoded).apply, ?_⟩
    simp [quiet, after, advance, applyTopic, Table.openTopic, written, Table.write, writeOf,
      alike.topics, alike.index, FileStats.countWrite_eq_add]
  | info info topics merge named decoded merged =>
    have group : c.group = Kind.dialogue.tag := by simp [Chunk.group, named]
    refine ⟨⟨some ⟨.dialogue, topics⟩, none, .ofInfo merge⟩,
      ⟨by rintro _ ⟨⟩; exact group.symm, fun _ => rfl⟩, fun m alike => ?_⟩
    rw [group] at alike
    rw [← alike.topics, ← alike.active rfl] at merged
    refine ⟨_, (Step.info info topics merge named decoded merged).apply, ?_⟩
    simp [quiet, after, advance, FileStats.countInfo_eq_add]
  | record kind table record other noInfo found decoded =>
    have group : c.group = c.tag := by simp [Chunk.group, noInfo]
    have named : kind.tag = c.tag := (Store.shelf?_eq_some found).2
    let written := table.write (l.writeOf c record)
    refine ⟨⟨some ⟨kind, written.1⟩, none, .ofWrite written.2⟩,
      ⟨by rintro _ ⟨⟩; exact named.trans group.symm, fun _ => rfl⟩, fun m alike => ?_⟩
    rw [group] at alike
    have found' : m.store.shelf? c.tag = some ⟨kind, table⟩ := alike.shelf.trans found
    refine ⟨_, (Step.record kind table record other noInfo found' decoded).apply, ?_⟩
    simp [quiet, after, advance, written, writeOf, alike.index, FileStats.countWrite_eq_add]
  | skipped other noInfo unknown optional =>
    have group : c.group = c.tag := by simp [Chunk.group, noInfo]
    refine ⟨⟨none, none, { skipped := 1 }⟩, ⟨by rintro _ ⟨⟩, fun _ => rfl⟩, fun m alike => ?_⟩
    rw [group] at alike
    refine ⟨_, (Step.skipped other noInfo (alike.shelf.trans unknown) optional).apply, ?_⟩
    simp [quiet, after, advance, FileStats.add]

end Loading

theorem Store.setShelf_comm {s : Store} {a b : Shelf} (apart : a.kind.tag ≠ b.kind.tag) :
    (s.setShelf a).setShelf b = (s.setShelf b).setShelf a := by
  simp only [setShelf, List.map_map, mk.injEq, and_true]
  refine List.map_congr_left fun old _ => ?_
  by_cases first : old.kind.tag = a.kind.tag
  · simp [first, apart]
  · by_cases second : old.kind.tag = b.kind.tag <;> simp [first, second, Ne.symm apart]

namespace Loading

variable {l m next : Loading Store} {c d : Chunk} {e f : Effect} {tag other : Tag}

theorem alike_of_quiet (same : m.quiet = l.quiet) (tag : Tag) : Alike l m tag where
  shelf := congrArg (·.store.shelf? tag) same
  active _ := congrArg (·.active) same
  index := congrArg (·.stats.index) same

theorem Alike.symm (h : Alike l m tag) : Alike m l tag :=
  ⟨h.shelf.symm, fun topics => (h.active topics).symm, h.index.symm⟩

theorem after_congr (same : m.quiet = l.quiet) (e : Effect) : m.after e = l.after e :=
  congrArg (·.after e) same

/-- An effect is not seen by the records of other kinds. -/
theorem Effect.Within.alike (within : e.Within tag) (apart : tag ≠ other) (l : Loading Store) :
    Alike l (l.after e) other where
  shelf := by
    cases placed : e.shelf with
    | none => simp [after, placed]
    | some shelf =>
      have away : shelf.kind.tag ≠ other := within.shelf shelf placed ▸ apart
      simp [after, placed, Store.shelf?_setShelf, away]
  active topics := by
    have closed := within.opened (topics ▸ apart)
    simp [after, closed]
  index := rfl

/-- Effects on different kinds commute. -/
theorem after_comm (within : e.Within tag) (within' : f.Within other) (apart : tag ≠ other)
    (l : Loading Store) : (l.after e).after f = (l.after f).after e := by
  have store : ((l.after e).after f).store = ((l.after f).after e).store := by
    cases placed : e.shelf with
    | none => simp [after, placed]
    | some shelf =>
      cases placed' : f.shelf with
      | none => simp [after, placed, placed']
      | some shelf' =>
        have away : shelf.kind.tag ≠ shelf'.kind.tag := by
          rwa [within.shelf shelf placed, within'.shelf shelf' placed']
        simp [after, placed, placed', Store.setShelf_comm away]
  have active : f.opened.or (e.opened.or l.active) = e.opened.or (f.opened.or l.active) := by
    by_cases topics : tag = Kind.dialogue.tag
    · simp [within'.opened fun same => apart (topics.trans same.symm)]
    · simp [within.opened topics]
  have counts := l.stats.add_comm e.tally f.tally
  simp only [after] at store ⊢
  rw [store, active, counts]

theorem apply_effect (step : l.apply c = (m, none)) :
    ∃ e : Effect, e.Within c.group ∧ m.quiet = l.after e ∧
      ∀ k, Alike l k c.group → ∃ next, k.apply c = (next, none) ∧ next.quiet = k.after e := by
  obtain ⟨e, within, does⟩ := (Step.of_apply step).effect
  obtain ⟨m', step', quiet⟩ := does l (alike_of_quiet rfl _)
  obtain rfl : m = m' := congrArg (·.1) (step.symm.trans step')
  exact ⟨e, within, quiet, does⟩

/-- Reports do not matter to what is applied. -/
theorem apply_congr {l' : Loading Store} (same : l'.quiet = l.quiet)
    (step : l.apply c = (m, none)) : ∃ m', l'.apply c = (m', none) ∧ m'.quiet = m.quiet := by
  obtain ⟨e, _, quiet, does⟩ := apply_effect step
  obtain ⟨m', step', quiet'⟩ := does l' (alike_of_quiet same _)
  exact ⟨m', step', by rw [quiet', quiet, after_congr same]⟩

/-- Two records of different kinds are applied in either order. -/
theorem apply_swap (apart : c.group ≠ d.group) (first : l.apply c = (m, none))
    (second : m.apply d = (next, none)) :
    ∃ m' next', l.apply d = (m', none) ∧ m'.apply c = (next', none) ∧
      next'.quiet = next.quiet := by
  obtain ⟨e, within, quiet, does⟩ := apply_effect first
  obtain ⟨f, within', quiet', does'⟩ := apply_effect second
  have early : Alike m l d.group := by
    have unseen := within.alike apart l
    rw [← quiet] at unseen
    exact Alike.symm ⟨unseen.shelf, unseen.active, unseen.index⟩
  obtain ⟨m', step, after⟩ := does' l early
  have late : Alike l m' c.group := by
    have unseen := within'.alike (Ne.symm apart) l
    rw [← after] at unseen
    exact ⟨unseen.shelf, unseen.active, unseen.index⟩
  obtain ⟨next', step', after'⟩ := does m' late
  refine ⟨m', next', step, step', ?_⟩
  calc next'.quiet
    _ = m'.quiet.after e := after'
    _ = (l.after f).after e := by rw [after]
    _ = (l.after e).after f := (after_comm within within' apart l).symm
    _ = m.quiet.after f := by rw [quiet]
    _ = next.quiet := quiet'.symm

end Loading

end ContentLayers
