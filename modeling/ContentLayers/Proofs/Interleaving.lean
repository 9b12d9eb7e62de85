import ContentLayers.Proofs.Effects
import ContentLayers.Store.Indices

/-!
# Interleavings

Files with the same records of each kind in the same order come from one another by exchanging
neighbours of different kinds. Exchanged, they are applied to the same end.
-/

namespace ContentLayers

/-- The records of each kind are the same in both lists and in the same order. -/
def SameByKind (xs ys : List Chunk) : Prop :=
  ∀ tag, xs.filter (·.group = tag) = ys.filter (·.group = tag)

theorem sameByKind_iff {xs ys : List Chunk} :
    SameByKind xs ys ↔ ∀ tag ∈ (xs ++ ys).map Chunk.group,
      xs.filter (·.group = tag) = ys.filter (·.group = tag) := by
  constructor
  · intro same tag _
    exact same tag
  · intro same tag
    by_cases held : tag ∈ (xs ++ ys).map Chunk.group
    · exact same tag held
    · simp only [List.mem_map, List.mem_append, not_exists, not_and] at held
      have none (zs : List Chunk) (part : ∀ c ∈ zs, c ∈ xs ∨ c ∈ ys) :
          zs.filter (·.group = tag) = [] := by
        rw [List.filter_eq_nil_iff]
        intro c mem
        simpa using held c (part c mem)
      rw [none xs fun c => Or.inl, none ys fun c => Or.inr]

instance (xs ys : List Chunk) : Decidable (SameByKind xs ys) :=
  decidable_of_iff _ sameByKind_iff.symm

/-- Records in another order, made by exchanging neighbours of different kinds. -/
inductive Reordered : List Chunk → List Chunk → Prop
  | nil : Reordered [] []
  | cons (c : Chunk) {xs ys : List Chunk} (rest : Reordered xs ys) : Reordered (c :: xs) (c :: ys)
  | swap {c d : Chunk} (apart : c.group ≠ d.group) (rest : List Chunk) :
      Reordered (c :: d :: rest) (d :: c :: rest)
  | trans {xs ys zs : List Chunk} (first : Reordered xs ys) (second : Reordered ys zs) :
      Reordered xs zs

namespace Reordered

theorem refl (xs : List Chunk) : Reordered xs xs := by
  induction xs with
  | nil => exact .nil
  | cons c cs ih => exact .cons c ih

/-- A record moves to the front past records of other kinds. -/
theorem bubble {c : Chunk} {front : List Chunk} (apart : ∀ d ∈ front, d.group ≠ c.group)
    (back : List Chunk) : Reordered (c :: (front ++ back)) (front ++ c :: back) := by
  induction front with
  | nil => exact refl _
  | cons d front ih =>
    rw [List.forall_mem_cons] at apart
    exact .trans (.swap (Ne.symm apart.1) (front ++ back)) (.cons d (ih apart.2))

theorem of_sameByKind {xs ys : List Chunk} (same : SameByKind xs ys) : Reordered xs ys := by
  induction xs generalizing ys with
  | nil =>
    cases ys with
    | nil => exact .nil
    | cons d ys => simpa using same d.group
  | cons c xs ih =>
    -- The first record of its kind stands in the other list behind records of other kinds only.
    have first : ys.filter (·.group = c.group) = c :: xs.filter (·.group = c.group) := by
      rw [← same c.group]
      simp
    obtain ⟨front, back, rfl, apart, _, _⟩ := List.filter_eq_cons_iff.mp first
    have others : SameByKind xs (front ++ back) := by
      intro tag
      have whole := same tag
      by_cases here : c.group = tag
      · have none : front.filter (·.group = tag) = [] := by
          simpa [List.filter_eq_nil_iff, here] using apart
        simpa [none, here] using whole
      · simpa [here] using whole
    exact .trans (.cons c (ih others)) (bubble (by simpa using apart) back)

end Reordered

namespace Loading

variable {l m next : Loading Store} {c : Chunk}

theorem run_cons_eq_none {records : List Chunk} :
    l.run (c :: records) = (next, none) ↔
      ∃ m, l.apply c = (m, none) ∧ m.run records = (next, none) := by
  rw [run]
  cases l.apply c with
  | mk m failure => cases failure <;> simp

theorem run_congr {l' : Loading Store} {records : List Chunk} (same : l'.quiet = l.quiet)
    (through : l.run records = (m, none)) :
    ∃ m', l'.run records = (m', none) ∧ m'.quiet = m.quiet := by
  induction records generalizing l l' with
  | nil =>
    obtain rfl : l = m := congrArg Prod.fst through
    exact ⟨l', rfl, same⟩
  | cons c records ih =>
    obtain ⟨n, step, rest⟩ := run_cons_eq_none.mp through
    obtain ⟨n', step', same'⟩ := apply_congr same step
    obtain ⟨m', rest', ended⟩ := ih same' rest
    exact ⟨m', run_cons_eq_none.mpr ⟨n', step', rest'⟩, ended⟩

end Loading

open Loading

/-- A run that goes through also goes through in the other order, and to the same end. -/
theorem Reordered.run {xs ys : List Chunk} (reordered : Reordered xs ys) {l m : Loading Store}
    (through : l.run xs = (m, none)) : ∃ m', l.run ys = (m', none) ∧ m'.quiet = m.quiet := by
  induction reordered generalizing l m with
  | nil => exact ⟨m, through, rfl⟩
  | cons c _ ih =>
    obtain ⟨n, step, rest⟩ := run_cons_eq_none.mp through
    obtain ⟨m', rest', ended⟩ := ih rest
    exact ⟨m', run_cons_eq_none.mpr ⟨n, step, rest'⟩, ended⟩
  | swap apart rest =>
    obtain ⟨n, first, through⟩ := run_cons_eq_none.mp through
    obtain ⟨k, second, through⟩ := run_cons_eq_none.mp through
    obtain ⟨n', k', first', second', same⟩ := apply_swap apart first second
    obtain ⟨m', through', ended⟩ := run_congr same through
    exact ⟨m', run_cons_eq_none.mpr ⟨n', first', run_cons_eq_none.mpr ⟨k', second', through'⟩⟩,
      ended⟩
  | trans _ _ ih ih' =>
    obtain ⟨n, middle, same⟩ := ih through
    obtain ⟨m', last, ended⟩ := ih' middle
    exact ⟨m', last, ended.trans same⟩

namespace Store

/-- A load succeeds when its records go through and the feed ends properly. -/
theorem load_eq_ok {s : Store} {feed : Feed} {index : Nat} {stats : FileStats} :
    (s.load feed index).result = .ok stats ↔
      feed.failure = none ∧ ∃ m, (start s feed.name index).run feed.records = (m, none) ∧
        m.stats = stats ∧ m.store = (s.load feed index).store := by
  rw [load]
  cases ran : (start s feed.name index).run feed.records with
  | mk m failure =>
    cases failure with
    | some e => simp
    | none =>
      cases ending : feed.failure with
      | some cause => simp
      | none => simp

theorem load_of_sameByKind {s : Store} {feed : Feed} {index : Nat} {records : List Chunk}
    (same : SameByKind feed.records records) {stats : FileStats}
    (loaded : (s.load feed index).result = .ok stats) :
    (s.load { feed with records } index).result = .ok stats ∧
      (s.load { feed with records } index).store = (s.load feed index).store := by
  obtain ⟨proper, m, through, counted, store⟩ := load_eq_ok.mp loaded
  obtain ⟨m', through', ended⟩ := (Reordered.of_sameByKind same).run through
  have whole : (s.load { feed with records } index).result = .ok m'.stats ∧
      (s.load { feed with records } index).store = m'.store := by
    simp [load, through', proper]
  have stats' : m'.stats = m.stats := congrArg (·.stats) ended
  have store' : m'.store = m.store := congrArg (·.store) ended
  rw [whole.1, whole.2, ← counted, ← store, stats', store']
  exact ⟨rfl, rfl⟩

/-- **How kinds are interleaved cannot be observed.** Of two files with the same records of each
kind in the same order, both are loaded or neither. Both leave the same store, and so the same
indices, and count the same. -/
theorem load_interleaved (s : Store) (feed : Feed) (index : Nat) {records : List Chunk}
    (same : SameByKind feed.records records) :
    ((∃ stats, (s.load feed index).result = .ok stats) ↔
      ∃ stats, (s.load { feed with records } index).result = .ok stats) ∧
    ∀ stats, (s.load feed index).result = .ok stats →
      (s.load { feed with records } index).result = .ok stats ∧
        (s.load { feed with records } index).store = (s.load feed index).store ∧
        (s.load { feed with records } index).store.setUp = (s.load feed index).store.setUp := by
  refine ⟨⟨?_, ?_⟩, fun stats loaded => ?_⟩
  · rintro ⟨stats, loaded⟩
    exact ⟨stats, (load_of_sameByKind same loaded).1⟩
  · rintro ⟨stats, loaded⟩
    have back : SameByKind ({ feed with records } : Feed).records feed.records :=
      fun tag => (same tag).symm
    exact ⟨stats, (load_of_sameByKind back loaded).1⟩
  · obtain ⟨result, store⟩ := load_of_sameByKind same loaded
    exact ⟨result, store, congrArg setUp store⟩

/-- A record of an unknown kind, a topic, an activator and an info of the topic. -/
def mixedFeed : Feed where
  name := "mixed"
  announced := none
  records := [⟨.ascii 'Z' 'Z' 'Z' 'Z', 0, []⟩, ⟨Kind.dialogue.tag, 0, [0x80]⟩,
    ⟨Kind.activator.tag, 0, [0x80]⟩, ⟨Kind.infoTag, 0, [0x80]⟩]
  failure := none

def sortedRecords : List Chunk :=
  [⟨Kind.activator.tag, 0, [0x80]⟩, ⟨Kind.dialogue.tag, 0, [0x80]⟩, ⟨Kind.infoTag, 0, [0x80]⟩,
    ⟨.ascii 'Z' 'Z' 'Z' 'Z', 0, []⟩]

theorem load_interleaved_mixed :
    SameByKind mixedFeed.records sortedRecords ∧
      (∃ stats, (new.load mixedFeed 0).result = .ok stats) ∧
      (new.load { mixedFeed with records := sortedRecords } 0).store =
        (new.load mixedFeed 0).store := by
  have same : SameByKind mixedFeed.records sortedRecords := by decide
  have loaded : ∃ stats, (new.load mixedFeed 0).result = .ok stats := ⟨_, rfl⟩
  obtain ⟨stats, result⟩ := loaded
  exact ⟨same, ⟨stats, result⟩, ((load_interleaved new mixedFeed 0 same).2 stats result).2.1⟩

end Store

end ContentLayers
