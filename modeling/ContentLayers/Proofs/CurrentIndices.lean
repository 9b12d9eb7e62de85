import ContentLayers.Proofs.Owners

/-!
# Current indices

Every call that may change a table makes the indices stale, also when it fails halfway or is
refused. Indices that count as current are those of the tables, so a look-up gives what a scan
gives.
-/

namespace ContentLayers

/-- A call that changes a store or tries to. -/
inductive Call where
  | declare (kind : Kind)
  /-- Asks for a table and writes to it. -/
  | modify (kind : Kind) (log : List (Write kind.Carrier))
      (holds : ∀ w ∈ log, kind.Holds w.record)
  | load (feed : Feed) (index : Nat)
  | setUp

namespace Loading

variable {l m next : Loading Store} {c : Chunk} {records : List Chunk}

theorem Step.current (step : Step l c next) : next.store.current = l.store.current := by
  cases step <;> rfl

theorem Applies.current (applied : Applies l records m) : m.store.current = l.store.current := by
  induction applied with
  | nil => rfl
  | concat _ step ih => rw [(Step.of_apply step).current, ih]

end Loading

namespace Store

/-- The store after a call. -/
def call (s : Store) : Call → Store
  | .declare kind => (s.declare kind).1
  | .modify kind log _ => (s.modify kind fun table => table.replay log).1
  | .load feed index => (s.load feed index).store
  | .setUp => s.setUp

/-- The store after calls one after the other. -/
def callAll (s : Store) (calls : List Call) : Store := calls.foldl call s

variable {s : Store} {kind : Kind}

theorem Reachable.call (h : s.Reachable) (c : Call) : (s.call c).Reachable := by
  cases c with
  | declare kind => exact h.declare kind
  | modify kind log holds => exact h.modify kind log holds
  | load feed index => exact h.load feed index
  | setUp => exact h.setUp

theorem Reachable.callAll (h : s.Reachable) (calls : List Call) : (s.callAll calls).Reachable := by
  induction calls generalizing s with
  | nil => exact h
  | cons c calls ih => exact ih (h.call c)

/-- The indices are those of the tables, unless they are stale. -/
def Fresh (s : Store) : Prop := s.current = true → s.indices = s.derive

theorem fresh_of_stale (stale : s.current = false) : s.Fresh := by
  intro current
  rw [stale] at current
  cases current

/-- A kind that is new to the store makes the indices stale. -/
theorem Fresh.declare (h : s.Fresh) (kind : Kind) : (s.declare kind).1.Fresh := by
  obtain same | appended := s.declare_cases kind
  · rwa [same]
  · exact fresh_of_stale appended.stale

/-- Asking for a table makes the indices stale before the kind is looked up. -/
theorem current_modify {β : Type} (s : Store) (kind : Kind)
    (change : Table kind.Carrier → Table kind.Carrier × β) :
    (s.modify kind change).1.current = false := by
  rw [modify]
  cases s.table? kind <;> rfl

/-- A load makes the indices stale before it reads a record. -/
theorem Sound.current_load (h : s.Sound) (feed : Feed) (index : Nat) :
    (s.load feed index).store.current = false := by
  obtain ⟨m, applied, store, _⟩ := load_spec h.distinct feed index
  rw [store, applied.current]
  rfl

theorem fresh_setUp (s : Store) : s.setUp.Fresh := fun _ => rfl

theorem Reachable.fresh (h : s.Reachable) : s.Fresh := by
  induction h with
  | new => exact fresh_of_stale rfl
  | declare _ kind ih => exact ih.declare kind
  | modify _ kind log _ _ => exact fresh_of_stale (current_modify _ kind _)
  | load h feed index _ => exact fresh_of_stale (h.sound.current_load feed index)
  | setUp => exact fresh_setUp _

/-- A look-up gives what a scan gives, whether or not it uses the index of owners. -/
theorem Sound.find_eq_scan (h : s.Sound) (fresh : s.Fresh) (id : String) :
    s.find id = s.scan id := by
  rw [find]
  split
  · rename_i current
    rw [fresh current, h.getElem?_owners]
  · rfl

/-- **Look-ups do not depend on when the indices are derived.** After any calls, indices that count
as current are those that would be derived now, and each id is found with the kind that owns it. -/
theorem find_follows_tables (calls : List Call) :
    let s := Store.new.callAll calls
    (s.needsSetUp = false → s.indices = s.setUp.indices) ∧
      ∀ id, (∀ kind, s.find id = some kind ↔ s.Owns id kind) ∧ s.setUp.find id = s.find id := by
  intro s
  have reachable : s.Reachable := Reachable.new.callAll calls
  have scanned := reachable.sound.find_eq_scan reachable.fresh
  refine ⟨fun settled => ?_, fun id => ⟨fun kind => ?_, ?_⟩⟩
  · exact reachable.fresh (by simpa [needsSetUp] using settled)
  · rw [scanned, reachable.sound.scan_eq_some]
  · rw [scanned, reachable.setUp.sound.find_eq_scan s.fresh_setUp]
    rfl

/-- A kind with the tag of the books is refused. Then a coin is written, as a book too and deleted
again, and a file fails at its second record. -/
def coinCalls : List Call := [
  .declare (.custom ⟨0, Kind.book.tag, "Scroll", true, []⟩),
  .modify .miscellaneous [⟨{ (default : Miscellaneous) with id := "Coin" }, false, none⟩]
    fun _ _ => trivial,
  .setUp,
  .modify .book [⟨{ (default : Book) with id := "coin" }, false, none⟩,
    ⟨{ (default : Book) with id := "COIN" }, true, none⟩] fun _ _ => trivial,
  .load ⟨"broken", none, [⟨Kind.book.tag, 0, [0x80]⟩, ⟨Kind.infoTag, 0, []⟩], none⟩ 0,
  .setUp]

theorem find_follows_tables_coin :
    let s := Store.new.callAll coinCalls
    s.needsSetUp = false ∧ s.indices = s.setUp.indices ∧ s.find "cOIN" = some .miscellaneous ∧
      s.Owns "cOIN" .miscellaneous := by
  intro s
  have settled : s.needsSetUp = false := by rfl
  have reachable : s.Reachable := Reachable.new.callAll coinCalls
  have found : s.find "cOIN" = some .miscellaneous :=
    (reachable.sound.find_eq_scan reachable.fresh "cOIN").trans (by rfl)
  have follows := find_follows_tables coinCalls
  exact ⟨settled, follows.1 settled, found, ((follows.2 "cOIN").1 _).mp found⟩

end Store

end ContentLayers
