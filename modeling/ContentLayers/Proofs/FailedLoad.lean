import ContentLayers.Proofs.Reachable
import ContentLayers.Store.Session

/-!
# Loads that fail

A load that fails leaves what a load of the records before the failure leaves. A session goes on
with the next file.
-/

namespace ContentLayers

open Loading

/-- The first records of a feed, with a proper end after them. -/
def Feed.upTo (feed : Feed) (k : Nat) : Feed :=
  { feed with records := feed.records.take k, failure := none }

namespace Store

/-- Why a store refuses a record that follows others in its file. -/
inductive Rejection (s : Store) (earlier : List Chunk) (c : Chunk) : FormatError → Prop
  | undecodable (kind : Kind) (cause : StreamError) (declared : (s.table? kind).isSome = true)
      (named : kind.tag = c.tag)
      (undecodable : (decodePayload c.payload : Except StreamError kind.Carrier) = .error cause) :
      Rejection s earlier c (.decode c.tag earlier.length cause)
  | undecodableInfo (cause : StreamError) (named : c.tag = Kind.infoTag)
      (undecodable : (decodePayload c.payload : Except StreamError Info) = .error cause) :
      Rejection s earlier c (.decode c.tag earlier.length cause)
  | orphan (info : Info) (named : c.tag = Kind.infoTag)
      (decoded : decodePayload c.payload = .ok info)
      (headless : ∀ d ∈ earlier, d.tag ≠ Kind.dialogue.tag) :
      Rejection s earlier c (.orphanInfo info.id earlier.length)
  | unsupported (noInfo : c.tag ≠ Kind.infoTag) (undeclared : c.tag ∉ s.tags)
      (required : c.isRequired = true) :
      Rejection s earlier c (.unsupportedRequired c.tag earlier.length)

/-- The load fails after `k` records and leaves what they alone leave. -/
structure StopsAt (s : Store) (feed : Feed) (index k : Nat) (e : FormatError) : Prop where
  applied : (s.load feed index).applied = k
  bound : k ≤ feed.records.length
  front : ∃ stats, (s.load (feed.upTo k) index).result = .ok stats
  store : (s.load feed index).store = (s.load (feed.upTo k) index).store
  cause : (∃ cause, feed.failure = some cause ∧ k = feed.records.length ∧ e = .stream cause) ∨
    ∃ c, feed.records[k]? = some c ∧
      Rejection (s.load (feed.upTo k) index).store (feed.records.take k) c e

end Store

/-- An info needs an active topic, and has a place when there is one. -/
theorem Loading.Sound.active_of_orphan {l : Loading Store} (h : l.Sound) {info : Info}
    {deleted : Bool}
    (orphan : (l.store.table .dialogue).mergeInfo l.active info deleted = none) :
    l.active = none := by
  cases named : l.active with
  | none => rfl
  | some id =>
    obtain ⟨slot, found⟩ := Option.isSome_iff_exists.mp (h.active id named)
    simp [Table.mergeInfo, named, found] at orphan

theorem Loading.Refusal.rejection {l : Loading Store} {earlier : List Chunk} {c : Chunk}
    {e : FormatError} (h : l.Sound) (refused : Refusal l c e) (counted : l.position = earlier.length)
    (headless : l.active = none → ∀ d ∈ earlier, d.tag ≠ Kind.dialogue.tag) :
    l.store.Rejection earlier c e := by
  cases refused with
  | topic cause named undecodable =>
    rw [counted]
    exact .undecodable .dialogue cause h.store.dialogue named.symm undecodable
  | info cause named undecodable =>
    rw [counted]
    exact .undecodableInfo cause named undecodable
  | orphan info named decoded orphan =>
    rw [counted]
    exact .orphan info named decoded (headless (h.active_of_orphan orphan))
  | record kind table cause found undecodable =>
    have known := Store.isSome_table?_of_shelf? found
    rw [counted]
    exact .undecodable kind cause known (Store.shelf?_eq_some found).2 undecodable
  | unsupported noInfo unknown required =>
    rw [counted]
    exact .unsupported noInfo (Store.shelf?_eq_none.mp unknown) required

namespace Store

variable {s : Store}

/-- A feed whose records are all applied is loaded, unless it ends in an error. -/
theorem load_of_applies (feed : Feed) {index : Nat} {m : Loading Store}
    (applied : Applies (start s feed.name index) feed.records m) :
    (s.load feed index).store = m.store ∧ (s.load feed index).applied = feed.records.length ∧
      (s.load feed index).result =
        match feed.failure with
        | none => .ok m.stats
        | some cause => .error (.stream cause) := by
  refine ⟨?_, ?_, ?_⟩
  · rw [load, applied.run]
    cases feed.failure <;> rfl
  · rw [applied_load, applied.run, applied.counts.2.2]
    simp [start]
  · rw [load, applied.run]
    cases feed.failure <;> rfl

theorem Sound.stopsAt (h : s.Sound) {feed : Feed} {index : Nat} {e : FormatError}
    (failed : (s.load feed index).result = .error e) :
    s.StopsAt feed index (s.load feed index).applied e := by
  obtain ⟨m, applied, store, ended⟩ := load_spec h.distinct feed index
  have front := load_of_applies (feed.upTo (s.load feed index).applied) applied
  refine ⟨rfl, ?_, ⟨m.stats, front.2.2⟩, store.trans front.1.symm, ?_⟩
  · obtain ⟨all, _⟩ | ⟨c, _, held, _⟩ := ended
    · exact Nat.le_of_eq all
    · exact Nat.le_of_lt (List.getElem?_eq_some_iff.mp held).1
  · obtain ⟨all, result⟩ | ⟨c, e', held, refused, result⟩ := ended
    · rw [failed] at result
      cases ending : feed.failure with
      | none => simp [ending] at result
      | some cause => exact Or.inl ⟨cause, rfl, all, by simpa [ending] using result⟩
    · have same : e = e' := Except.error.inj (failed.symm.trans result)
      have began := sound_start h feed.name index
      have counted : m.position = (feed.records.take (s.load feed index).applied).length := by
        simpa [start] using applied.counts.2.1
      rw [front.1, same]
      exact Or.inr ⟨c, held, (Refusal.of_apply refused).rejection (applied.sound began) counted
        (applied.active began rfl).mp⟩

/-- No topic is active when a file begins: an info before the first header is never applied. -/
theorem Sound.headless (h : s.Sound) {feed : Feed} (index : Nat) {i : Nat} {c : Chunk}
    (held : feed.records[i]? = some c) (named : c.tag = Kind.infoTag)
    (headless : ∀ d ∈ feed.records.take i, d.tag ≠ Kind.dialogue.tag) :
    (s.load feed index).applied ≤ i ∧ ∃ e, (s.load feed index).result = .error e := by
  obtain ⟨m, applied, _, ended⟩ := load_spec h.distinct feed index
  have began := sound_start h feed.name index
  -- a load that applies no record beyond `i` does not reach the end of the feed
  suffices within : (s.load feed index).applied ≤ i by
    have bound := (List.getElem?_eq_some_iff.mp held).1
    obtain ⟨all, _⟩ | ⟨_, e, _, _, result⟩ := ended
    · omega
    · exact ⟨within, e, result⟩
  by_contra beyond
  have inside : i < (s.load feed index).applied := Nat.lt_of_not_le beyond
  have front : (feed.records.take (s.load feed index).applied)[i]? = some c := by
    rw [List.getElem?_take, if_pos inside, held]
  obtain ⟨before, after, earlier, step⟩ := applied.step front
  rw [List.take_take, Nat.min_eq_left (Nat.le_of_lt inside)] at earlier
  have idle := (earlier.active began rfl).mpr headless
  cases (Step.of_apply step).topics (earlier.sound began).store.dialogue with
  | header _ header => exact Kind.infoTag_ne_dialogue (named.symm.trans header)
  | info _ _ _ _ _ merged =>
    obtain ⟨id, _, active, _⟩ := Table.mergeInfo_eq_some.mp merged
    rw [idle] at active
    cases active
  | other _ noInfo => exact noInfo named

end Store

namespace Session

/-- The session after a file that fails at its record `k`: as after a file that ends there, but for
the list of files. -/
structure Survives (session : Session) (feed : Feed) (k : Nat) (e : FormatError) : Prop where
  error : (session.apply feed).result = .error ⟨session.nextIndex, feed.name, e⟩
  files : (session.apply feed).session.files = session.files
  index : (session.apply feed).session.nextIndex = session.nextIndex + 1
  front : ∃ stats, (session.apply (feed.upTo k)).result = .ok stats ∧
    (session.apply (feed.upTo k)).session =
      { (session.apply feed).session with files := session.files.push stats }
  next : ∀ next : Feed,
    let applied := (session.apply feed).session.apply next
    let loaded := (session.apply feed).session.store.load next (session.nextIndex + 1)
    applied.session.store = loaded.store ∧
    applied.session.nextIndex = session.nextIndex + 2 ∧
    match loaded.result with
    | .ok stats => applied.result = .ok stats ∧ applied.session.files = session.files.push stats
    | .error cause => applied.result = .error ⟨session.nextIndex + 1, next.name, cause⟩ ∧
        applied.session.files = session.files
  headless : ∀ (next : Feed) (i : Nat) (c : Chunk), next.records[i]? = some c →
    c.tag = Kind.infoTag → (∀ d ∈ next.records.take i, d.tag ≠ Kind.dialogue.tag) →
    let loaded := (session.apply feed).session.store.load next (session.nextIndex + 1)
    loaded.applied ≤ i ∧ ∃ e, loaded.result = .error e

theorem survives (session : Session) (h : session.store.Sound) {feed : Feed} {k : Nat}
    {e : FormatError} (failed : (session.store.load feed session.nextIndex).result = .error e)
    (stops : session.store.StopsAt feed session.nextIndex k e) : session.Survives feed k e := by
  obtain ⟨stats, front⟩ := stops.front
  have after : (session.apply feed).session.store =
      (session.store.load feed session.nextIndex).store := by
    simp only [apply, failed]
  refine ⟨?_, ?_, ?_, ⟨stats, ?_, ?_⟩, fun next => ?_, fun next i c held named headless => ?_⟩
  · simp only [apply, failed]
  · simp only [apply, failed]
  · simp only [apply, failed]
  · simp only [apply, front]
  · simp only [apply, front, failed, stops.store]
  · simp only [apply, failed]
    cases result : ((session.store.load feed session.nextIndex).store.load next
      (session.nextIndex + 1)).result <;> simp
  · rw [after]
    exact (h.load feed session.nextIndex).headless _ held named headless

end Session

/-- **A failing load stops cleanly.** It leaves what a successful load of the records before the
failure leaves, and a session goes on from there with the next index. -/
theorem Store.load_stops {s : Store} (reachable : s.Reachable) (feed : Feed) (index : Nat)
    (e : FormatError) (failed : (s.load feed index).result = .error e) :
    ∃ k, s.StopsAt feed index k e ∧
      ∀ files, (Session.mk s index files).Survives feed k e := by
  have stops := reachable.sound.stopsAt failed
  exact ⟨_, stops, fun files => Session.survives _ reachable.sound failed stops⟩

/-- A topic, an info of it, and a required record of an unknown kind, all with empty payloads. -/
def brokenFeed : Feed where
  name := "broken"
  announced := none
  records := [⟨Kind.dialogue.tag, 0, [0x80]⟩, ⟨Kind.infoTag, 0, [0x80]⟩,
    ⟨.ascii 'Z' 'Z' 'Z' 'Z', Chunk.requiredFlag, []⟩]
  failure := none

theorem Store.load_stops_broken :
    (Store.new.load brokenFeed 3).result =
        .error (.unsupportedRequired (.ascii 'Z' 'Z' 'Z' 'Z') 2) ∧
      (Store.new.load brokenFeed 3).store = (Store.new.load (brokenFeed.upTo 2) 3).store ∧
      ((Session.mk .new 3 #[]).apply brokenFeed).session.nextIndex = 4 := by
  have failed : (Store.new.load brokenFeed 3).result =
      .error (.unsupportedRequired (.ascii 'Z' 'Z' 'Z' 'Z') 2) := by rfl
  obtain ⟨k, stops, survives⟩ := Store.load_stops .new brokenFeed 3 _ failed
  have two : k = 2 := stops.applied.symm.trans (by rfl)
  subst two
  exact ⟨failed, stops.store, (survives #[]).index⟩

end ContentLayers
