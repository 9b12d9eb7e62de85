import ContentLayers.Files.Tree
import Mathlib

/-!
# Files in directories

Where a path leads when a plain name is put behind the path of a directory, and what a file that is
written there changes: one place holds it, and the directories stay.
-/

namespace ContentLayers

namespace Path

/-- A name that is one part of a path and means itself. -/
structure IsPlain (name : String) : Prop where
  nonempty : name ≠ ""
  noDot : name ≠ "."
  noDotDot : name ≠ ".."
  noSlash : '/' ∉ name.toList

theorem splitSlash_ne_nil (cs : List Char) : splitSlash cs ≠ [] := by
  cases cs with
  | nil => simp [splitSlash]
  | cons c cs =>
    rw [splitSlash]
    split
    · simp
    · split <;> simp

theorem splitSlash_append (cs ds : List Char) :
    splitSlash (cs ++ '/' :: ds) = splitSlash cs ++ splitSlash ds := by
  induction cs with
  | nil => simp [splitSlash]
  | cons c cs ih =>
    by_cases slash : c = '/'
    · simp [splitSlash, slash, ih]
    · cases parts : splitSlash cs with
      | nil => exact absurd parts (splitSlash_ne_nil cs)
      | cons part others => simp [splitSlash, slash, ih, parts]

theorem splitSlash_of_not_mem {cs : List Char} (plain : '/' ∉ cs) : splitSlash cs = [cs] := by
  induction cs with
  | nil => rfl
  | cons c cs ih =>
    rw [List.mem_cons, not_or] at plain
    simp [splitSlash, ih plain.2, Ne.symm plain.1]

variable {dir name : String}

theorem IsPlain.isAbsolute (plain : IsPlain name) : Path.isAbsolute name = false := by
  cases letters : name.toList with
  | nil => simp [Path.isAbsolute, letters]
  | cons c cs =>
    have first : c ≠ '/' := by
      rintro rfl
      exact plain.noSlash (by simp [letters])
    simp [Path.isAbsolute, letters, first]

/-- A plain name follows the slash at the end of a directory's path, or one put there. -/
theorem toList_join (plain : IsPlain name) (named : dir ≠ "") :
    ∃ above, (join dir name).toList = above ++ '/' :: name.toList ∧
      (dir.toList = above ∨ dir.toList = above ++ ['/']) := by
  have full : dir.isEmpty = false := by simpa using named
  rw [join, plain.isAbsolute, full]
  by_cases slash : dir.toList.getLast? = some '/'
  · obtain ⟨above, ends⟩ := List.getLast?_eq_some_iff.mp slash
    exact ⟨above, by simp [ends], Or.inr ends⟩
  · exact ⟨dir.toList, by simp [slash], Or.inl rfl⟩

/-- The parts of a plain name behind a directory are those of the directory, but for an empty last
one, and the name. -/
theorem parts_join (plain : IsPlain name) (named : dir ≠ "") :
    ∃ front, front ≠ [] ∧ parts (join dir name) = front ++ [name] ∧
      (parts dir = front ∨ parts dir = front ++ [""]) := by
  obtain ⟨above, joined, ends⟩ := toList_join plain named
  refine ⟨(splitSlash above).map .ofList, by simp [splitSlash_ne_nil], ?_, ?_⟩
  · simp [parts, joined, splitSlash_append, splitSlash_of_not_mem plain.noSlash]
  · rcases ends with ends | ends
    · exact Or.inl (by rw [parts, ends])
    · right
      rw [parts, ends, splitSlash_append, List.map_append]
      rfl

theorem isAbsolute_join (plain : IsPlain name) (named : dir ≠ "") :
    isAbsolute (join dir name) = isAbsolute dir := by
  obtain ⟨above, joined, ends⟩ := toList_join plain named
  cases above with
  | nil =>
    have rooted : dir.toList = ['/'] := by
      simpa [String.toList_eq_nil_iff, named] using ends
    simp [isAbsolute, joined, rooted]
  | cons c cs =>
    rcases ends with ends | ends <;> simp [isAbsolute, joined, ends]

theorem trimParts_concat (plain : IsPlain name) (lead : Bool) (front : List String) :
    trimParts lead (front ++ [name]) = front ++ [name] := by
  have kept : (name == "" || name == ".") = false := by simp [plain.nonempty, plain.noDot]
  simp [trimParts, kept]

theorem fileName?_join (plain : IsPlain name) (named : dir ≠ "") :
    fileName? (join dir name) = some name := by
  obtain ⟨front, full, joined, _⟩ := parts_join plain named
  have body : ∃ above, (anatomy (join dir name)).2.2 = above ++ [name] := by
    simp only [anatomy, joined]
    split
    · exact ⟨front.tail, List.tail_append_of_ne_nil full⟩
    · exact ⟨front, rfl⟩
  obtain ⟨above, body⟩ := body
  simp [fileName?, body, trimParts_concat plain, plain.noDot, plain.noDotDot]

end Path

namespace FileTree

variable {t u : FileTree} {place p q : Place} {node : Node} {here : Place} {dir name : String}

theorem node?_set :
    (t.set place node).node? q = if q = place then some node else t.node? q := by
  by_cases same : q = place
  · simp [node?, set, same]
  · have apart : (q == place) = false := by simp [same]
    have others : (t.nodes.filter (·.1 != place)).lookup q = t.nodes.lookup q := by
      induction t.nodes with
      | nil => rfl
      | cons head rest ih =>
        obtain ⟨held, other⟩ := head
        by_cases hidden : held = place
        · simp [hidden, List.lookup_cons, ih, apart]
        · simp [hidden, List.lookup_cons, ih]
    simp [node?, set, List.lookup_cons, same, apart, others]

theorem isDirectory_of_node?_eq_none (absent : t.node? place = none) :
    t.isDirectory place = false := by
  rw [isDirectory, absent]
  rfl

/-- The trees have the same directories. -/
def SameDirectories (t u : FileTree) : Prop := ∀ place, u.isDirectory place = t.isDirectory place

theorem sameDirectories_set {contents : Bytes} (free : t.isDirectory place = false) :
    t.SameDirectories (t.set place (.file contents)) := by
  intro q
  by_cases same : q = place
  · subst same
    rw [free]
    simp [isDirectory, node?_set]
  · simp [isDirectory, node?_set, same]

/-- Follows parts to a directory. -/
def enter (t : FileTree) (place : Place) (parts : List String) : Option Place :=
  (t.follow place parts).filter t.isDirectory

/-- The directory that a path names. -/
def directory? (t : FileTree) (here : Place) (path : String) : Option Place :=
  (t.resolve here path).filter t.isDirectory

/-- Where one part leads. -/
def down (place : Place) (part : String) : Place :=
  if part = "" || part = "." then place else if part = ".." then place.tail else part :: place

theorem enter_nil : t.enter place [] = if t.isDirectory place then some place else none := by
  simp [enter, follow, Option.filter_some]

theorem enter_of_not_isDirectory (outside : t.isDirectory place = false) (parts : List String) :
    t.enter place parts = none := by
  cases parts <;> simp [enter, follow, outside, Option.filter_some]

/-- Only directories count on the way. -/
theorem enter_cons {part : String} {parts : List String} :
    t.enter place (part :: parts) =
      if t.isDirectory place then t.enter (down place part) parts else none := by
  cases inside : t.isDirectory place with
  | false => simp [enter_of_not_isDirectory inside]
  | true =>
    by_cases still : (part = "" || part = ".") = true
    · simp [enter, follow, down, inside, still]
    by_cases up : part = ".."
    · simp [enter, follow, down, inside, up]
    by_cases known : (t.node? (part :: place)).isSome = true
    · simp [enter, follow, down, inside, still, up, known]
    · -- what is not there is no directory, so going on from it fails as well
      have outside := isDirectory_of_node?_eq_none (Option.not_isSome_iff_eq_none.mp known)
      have blocked := enter_of_not_isDirectory outside parts
      simpa [enter, follow, down, inside, still, up, known] using blocked.symm

theorem enter_congr (same : t.SameDirectories u) (place : Place) (parts : List String) :
    u.enter place parts = t.enter place parts := by
  induction parts generalizing place with
  | nil => rw [enter_nil, enter_nil, same]
  | cons part parts ih => rw [enter_cons, enter_cons, same, ih]

/-- A slash at the end of a path means nothing. -/
theorem enter_concat_empty (place : Place) (parts : List String) :
    t.enter place (parts ++ [""]) = t.enter place parts := by
  induction parts generalizing place with
  | nil => simp [enter_cons, enter_nil, down]
  | cons part parts ih => rw [List.cons_append, enter_cons, enter_cons, ih]

theorem directory?_eq (t : FileTree) (here : Place) (path : String) :
    t.directory? here path = if path.isEmpty || !isPath path then none
      else t.enter (if Path.isAbsolute path then [] else here) (Path.parts path) := by
  rw [directory?, resolve]
  split <;> rfl

theorem directory?_congr (same : t.SameDirectories u) (here : Place) (path : String) :
    u.directory? here path = t.directory? here path := by
  rw [directory?_eq, directory?_eq, enter_congr same]

/-- The directory above a plain name. -/
theorem exists_front (plain : Path.IsPlain name) (found : t.directory? here dir = some p) :
    ∃ front, Path.parts (Path.join dir name) = front ++ [name] ∧
      t.enter (if Path.isAbsolute (Path.join dir name) then [] else here) front = some p := by
  rw [directory?_eq] at found
  split at found
  · cases found
  rename_i sound
  have named : dir ≠ "" := by
    rintro rfl
    simp at sound
  obtain ⟨front, _, joined, ends⟩ := Path.parts_join plain named
  refine ⟨front, joined, ?_⟩
  rw [Path.isAbsolute_join plain named, ← found]
  rcases ends with ends | ends
  · rw [ends]
  · rw [ends, enter_concat_empty]

theorem isDirectory_of_enter {parts : List String} (found : t.enter place parts = some p) :
    t.isDirectory p = true := (Option.filter_eq_some_iff.mp found).2

/-- A file is written into a directory under a plain name that no directory has. -/
theorem write_join (plain : Path.IsPlain name) (short : isName name = true)
    (reach : isPath (Path.join dir name) = true) (found : t.directory? here dir = some p)
    (free : t.isDirectory (name :: p) = false) (contents : Bytes) :
    t.write here (Path.join dir name) contents = some (t.set (name :: p) (.file contents)) := by
  obtain ⟨front, joined, entered⟩ := exists_front plain found
  have inside := isDirectory_of_enter entered
  obtain ⟨followed, _⟩ := Option.filter_eq_some_iff.mp entered
  simp [write, joined, followed, plain.nonempty, plain.noDot, plain.noDotDot, short, reach, inside,
    free]

theorem follow_concat (plain : Path.IsPlain name) {front : List String}
    (entered : t.enter place front = some p) (held : (t.node? (name :: p)).isSome = true) :
    t.follow place (front ++ [name]) = some (name :: p) := by
  induction front generalizing place with
  | nil =>
    rw [enter_nil] at entered
    split at entered
    · rename_i inside
      obtain rfl := Option.some.inj entered
      simp [follow, inside, plain.nonempty, plain.noDot, plain.noDotDot, held]
    · cases entered
  | cons part parts ih =>
    rw [enter_cons] at entered
    split at entered
    · rename_i inside
      have further := ih entered
      rw [down] at entered further
      rw [List.cons_append, follow]
      by_cases still : (part = "" || part = ".") = true
      · simpa [inside, still] using further
      by_cases up : part = ".."
      · simpa [inside, up] using further
      · have known : (t.node? (part :: place)).isSome = true := by
          by_contra unknown
          have outside := isDirectory_of_node?_eq_none (Option.not_isSome_iff_eq_none.mp unknown)
          simp [still, up, enter_of_not_isDirectory outside] at entered
        simpa [inside, still, up, known] using further
    · cases entered

theorem read_join (plain : Path.IsPlain name) (reach : isPath (Path.join dir name) = true)
    (found : t.directory? here dir = some p) {contents : Bytes}
    (held : t.node? (name :: p) = some (.file contents)) :
    t.read here (Path.join dir name) = .file contents := by
  obtain ⟨front, joined, entered⟩ := exists_front plain found
  have followed := follow_concat plain entered (by simp [held])
  have named : (Path.join dir name).isEmpty = false := by
    by_contra empty
    rw [Bool.not_eq_false, String.isEmpty_iff] at empty
    have last : some "" = some name := by
      simpa [empty, Path.parts, Path.splitSlash] using congrArg List.getLast? joined
    exact plain.nonempty (Option.some.inj last).symm
  simp [read, resolve, named, reach, joined, followed, held]

/-- The entries of a directory are the nodes in it. -/
theorem exists_mem_children :
    (∃ entry ∈ t.children p, entry.name = name) ↔ (t.node? (name :: p)).isSome = true := by
  simp only [children, List.mem_mergeSort, List.mem_filterMap, node?, List.lookup_isSome_iff,
    Prod.exists]
  constructor
  · rintro ⟨entry, ⟨place, node, mem, made⟩, rfl⟩
    cases place with
    | nil => cases made
    | cons n above =>
      simp only [Option.ite_none_right_eq_some, Option.some.injEq] at made
      obtain ⟨rfl, rfl⟩ := made
      exact ⟨n :: above, node, mem, beq_self_eq_true _⟩
  · rintro ⟨place, node, mem, same⟩
    obtain rfl : name :: p = place := by simpa using same
    exact ⟨⟨name, node != .directory⟩, ⟨name :: p, node, mem, by simp⟩, rfl⟩

end FileTree

end ContentLayers
