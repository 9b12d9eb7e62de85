import ContentLayers.Dialogue

/-!
# File statistics

What a content file did to the store, counted while its records are applied.
-/

namespace ContentLayers

/-- What one content file contributed. -/
structure FileStats where
  name : String
  index : Nat
  /-- Records inserted, replaced or revived. -/
  loaded : Nat
  deleted : Nat
  /-- Records of kinds that the store does not declare. -/
  skipped : Nat
  /-- Infos appended, updated or deleted. -/
  infos : Nat
  /-- Records replaced, by the index of the file that wrote them. -/
  overrides : Std.ExtTreeMap Nat Nat

namespace FileStats

def new (name : String) (index : Nat) : FileStats := ⟨name, index, 0, 0, 0, 0, ∅⟩

def totalOverrides (s : FileStats) : Nat := s.overrides.toList.foldl (fun n entry => n + entry.2) 0

/-- Counts a record written over that of a file. Written over the file's own it is not an override.
-/
def countOverride (s : FileStats) (previous : Nat) : FileStats :=
  if previous = s.index then s
  else { s with overrides := s.overrides.insert previous (s.overrides.getD previous 0 + 1) }

def countWrite (s : FileStats) : Outcome → FileStats
  | .tombstoned _ => { s with deleted := s.deleted + 1 }
  | .inserted | .revived | .replaced none => { s with loaded := s.loaded + 1 }
  | .replaced (some previous) => { s with loaded := s.loaded + 1 }.countOverride previous

def countInfo (s : FileStats) : InfoMerge → FileStats
  | .ignored => s
  | .appended | .updated | .markedDeleted => { s with infos := s.infos + 1 }

end FileStats

end ContentLayers
