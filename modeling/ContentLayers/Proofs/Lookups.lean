import ContentLayers.Proofs.Publishing

/-!
# Looking up names in directories

The first directory with an entry of the name wins, whatever the entry is. A subdirectory of the
name is found like a file, and hides the files of later directories.
-/

namespace ContentLayers

namespace Directories

/-- A directory that is there has a node under the name asked for. -/
structure Holds (d : Directories) (desk : Desk) (asked dir name : String) (node : Node) : Prop where
  there : ∃ place, desk.tree.directory? desk.here dir = some place ∧
    desk.tree.node? (name :: place) = some node
  named : if d.foldCase then fold name = fold asked else name = asked

/-- The first directory with a node of some sort under the name asked for. -/
structure First (d : Directories) (desk : Desk) (asked : String) (sort : Node → Prop)
    (dir name : String) (node : Node) : Prop where
  held : d.Holds desk asked dir name node
  sorted : sort node
  first : ∃ before after, d.paths = before ++ dir :: after ∧
    ∀ earlier ∈ before, ∀ name node, sort node → ¬ d.Holds desk asked earlier name node

/-- The first entry of the name is a subdirectory. -/
def Eclipsed (d : Directories) (desk : Desk) (asked : String) : Prop :=
  ∃ dir name, d.First desk asked (fun _ => True) dir name .directory

/-- No directory has two names that are equal up to case, so it does not matter in which order one
lists them. -/
def Distinct (d : Directories) (desk : Desk) : Prop :=
  ∀ dir ∈ d.paths, ∀ place, desk.tree.directory? desk.here dir = some place →
    ∀ name other, (desk.tree.node? (name :: place)).isSome = true →
      (desk.tree.node? (other :: place)).isSome = true → fold name = fold other → name = other

/-- The path that a directory answers with. -/
def pick (d : Directories) (desk : Desk) (asked dir : String) : Option String :=
  ((((desk.tree.directory? desk.here dir).map desk.tree.children).getD []).find?
    fun entry => d.isMatch entry.name asked).map fun entry => Path.join dir entry.name

variable {d : Directories} {desk : Desk} {asked dir name path : String} {node : Node}
  {place : Place}

theorem isMatch_iff :
    d.isMatch name asked = true ↔ if d.foldCase then fold name = fold asked else name = asked := by
  unfold isMatch
  split
  · exact sameFolded_iff
  · exact beq_iff_eq

theorem run_lookupIn (d : Directories) (desk : Desk) (asked : String) (paths : List String) :
    (d.lookupIn asked paths : StateM Desk (Option String)).run desk =
      (paths.findSome? (d.pick desk asked), desk) := by
  induction paths with
  | nil => rfl
  | cons dir paths ih =>
    have entries : (Files.entries? dir : StateM Desk _).run desk =
        ((desk.tree.directory? desk.here dir).map desk.tree.children, desk) := rfl
    rw [lookupIn, Desk.run_bind entries, List.findSome?_cons, pick]
    cases (((desk.tree.directory? desk.here dir).map desk.tree.children).getD []).find?
        fun entry => d.isMatch entry.name asked with
    | none => exact ih
    | some entry => rfl

/-! ## One directory -/

/-- Names that match one name are equal up to case, with or without folding. -/
theorem Holds.fold_eq (h : d.Holds desk asked dir name node) : fold name = fold asked := by
  have named := h.named
  split at named
  · exact named
  · exact congrArg fold named

/-- A directory holds the name where it has an entry that matches. -/
theorem exists_holds_iff (found : desk.tree.directory? desk.here dir = some place) :
    (∃ node, d.Holds desk asked dir name node) ↔
      ∃ entry ∈ desk.tree.children place, entry.name = name ∧ d.isMatch name asked = true := by
  constructor
  · rintro ⟨node, ⟨place', found', known⟩, named⟩
    obtain rfl : place = place' := Option.some.inj (found.symm.trans found')
    have held : (desk.tree.node? (name :: place)).isSome = true := by rw [known, Option.isSome_some]
    obtain ⟨entry, mem, same⟩ := FileTree.exists_mem_children.mpr held
    exact ⟨entry, mem, same, isMatch_iff.mpr named⟩
  · rintro ⟨entry, mem, same, named⟩
    obtain ⟨node, known⟩ :=
      Option.isSome_iff_exists.mp (FileTree.exists_mem_children.mp ⟨entry, mem, same⟩)
    exact ⟨node, ⟨place, found, known⟩, isMatch_iff.mp named⟩

theorem pick_eq_none :
    d.pick desk asked dir = none ↔ ∀ name node, ¬ d.Holds desk asked dir name node := by
  cases found : desk.tree.directory? desk.here dir with
  | none =>
    simp only [pick, found, Option.map_none, Option.getD_none, List.find?_nil, true_iff]
    rintro name node ⟨⟨place, found', _⟩, _⟩
    rw [found] at found'
    cases found'
  | some place =>
    simp only [pick, found, Option.map_some, Option.getD_some, Option.map_eq_none_iff,
      List.find?_eq_none]
    constructor
    · intro unmatched name node held
      obtain ⟨entry, mem, rfl, named⟩ := (exists_holds_iff found).mp ⟨node, held⟩
      exact unmatched entry mem named
    · intro unheld entry mem named
      obtain ⟨node, held⟩ := (exists_holds_iff found).mpr ⟨entry, mem, rfl, named⟩
      exact unheld entry.name node held

/-- Without names that differ in case alone, a directory holds one name of those that match. -/
theorem Holds.name_eq (distinct : d.Distinct desk) (listed : dir ∈ d.paths)
    (h : d.Holds desk asked dir name node) {other : String} {node' : Node}
    (h' : d.Holds desk asked dir other node') : name = other := by
  obtain ⟨place, found, known⟩ := h.there
  obtain ⟨place', found', known'⟩ := h'.there
  obtain rfl : place = place' := Option.some.inj (found.symm.trans found')
  have same : fold name = fold other := h.fold_eq.trans h'.fold_eq.symm
  exact distinct dir listed place found name other (by simp [known]) (by simp [known']) same

theorem exists_holds_of_pick (picked : d.pick desk asked dir = some path) :
    ∃ name node, d.Holds desk asked dir name node ∧ path = Path.join dir name := by
  cases found : desk.tree.directory? desk.here dir with
  | none => simp [pick, found] at picked
  | some place =>
    simp only [pick, found, Option.map_some, Option.getD_some, Option.map_eq_some_iff] at picked
    obtain ⟨entry, first, rfl⟩ := picked
    have named : d.isMatch entry.name asked = true := by simpa using List.find?_some first
    obtain ⟨node, held⟩ := (exists_holds_iff found).mpr
      ⟨entry, List.mem_of_find?_eq_some first, rfl, named⟩
    exact ⟨entry.name, node, held, rfl⟩

theorem pick_eq_some (distinct : d.Distinct desk) (listed : dir ∈ d.paths) :
    d.pick desk asked dir = some path ↔
      ∃ name node, d.Holds desk asked dir name node ∧ path = Path.join dir name := by
  constructor
  · exact exists_holds_of_pick
  · rintro ⟨name, node, held, rfl⟩
    cases answer : d.pick desk asked dir with
    | none => exact absurd held (pick_eq_none.mp answer name node)
    | some path =>
      obtain ⟨other, node', held', rfl⟩ := exists_holds_of_pick answer
      rw [held.name_eq distinct listed held']

/-! ## All directories -/

/-- Where there is one, there is a first. -/
theorem exists_first {α : Type} {p : α → Prop} {xs : List α} (h : ∃ x ∈ xs, p x) :
    ∃ before x after, xs = before ++ x :: after ∧ p x ∧ ∀ y ∈ before, ¬ p y := by
  induction xs with
  | nil => simp at h
  | cons x xs ih =>
    by_cases here : p x
    · exact ⟨[], x, xs, rfl, here, by simp⟩
    · have later : ∃ y ∈ xs, p y := by simpa [here] using h
      obtain ⟨before, y, after, rfl, found, missed⟩ := ih later
      exact ⟨x :: before, y, after, rfl, found, by simpa [here] using missed⟩

/-- A search answers with the first entry of the name. -/
theorem findSome?_pick (distinct : d.Distinct desk) (asked path : String) :
    d.paths.findSome? (d.pick desk asked) = some path ↔
      ∃ dir name node, d.First desk asked (fun _ => True) dir name node ∧
        path = Path.join dir name := by
  rw [List.findSome?_eq_some_iff]
  constructor
  · rintro ⟨before, dir, after, split, picked, missed⟩
    have listed : dir ∈ d.paths := by simp [split]
    obtain ⟨name, node, held, rfl⟩ := (pick_eq_some distinct listed).mp picked
    refine ⟨dir, name, node, ⟨held, trivial, before, after, split, ?_⟩, rfl⟩
    intro earlier mem name node _
    exact pick_eq_none.mp (missed earlier mem) name node
  · rintro ⟨dir, name, node, ⟨held, _, before, after, split, missed⟩, rfl⟩
    have listed : dir ∈ d.paths := by simp [split]
    have picked := (pick_eq_some distinct listed).mpr ⟨name, node, held, rfl⟩
    refine ⟨before, dir, after, split, picked, ?_⟩
    intro earlier mem
    exact pick_eq_none.mpr fun name node => missed earlier mem name node trivial

/-- Where no subdirectory comes first, the first entry is the first file. -/
theorem first_iff_of_not_eclipsed (clear : ¬ d.Eclipsed desk asked) :
    d.First desk asked (fun _ => True) dir name node ↔
      d.First desk asked (· ≠ .directory) dir name node := by
  constructor
  · rintro ⟨held, _, before, after, split, missed⟩
    refine ⟨held, ?_, before, after, split, fun earlier mem name node _ =>
      missed earlier mem name node trivial⟩
    rintro rfl
    exact clear ⟨dir, name, held, trivial, before, after, split, missed⟩
  · rintro ⟨held, _, before, after, split, missed⟩
    refine ⟨held, trivial, before, after, split, ?_⟩
    intro earlier mem name node _ held'
    -- The first of the directories before it holds no file, so it would be an eclipse.
    obtain ⟨before', other, after', rfl, ⟨name', node', held''⟩, missed'⟩ :=
      exists_first (p := fun dir => ∃ name node, d.Holds desk asked dir name node)
        ⟨earlier, mem, name, node, held'⟩
    have isDirectory : node' = .directory := by
      by_contra isFile
      exact missed other (by simp) name' node' isFile held''
    rw [isDirectory] at held''
    refine clear
      ⟨other, name', held'', trivial, before', after' ++ dir :: after, by simp [split], ?_⟩
    intro earlier' mem' name node _ held
    exact missed' earlier' mem' ⟨name, node, held⟩

/-- Some directory has a node of the sort where one is the first to have it. -/
theorem exists_first_iff (d : Directories) (desk : Desk) (asked : String) (sort : Node → Prop) :
    (∃ dir name node, d.First desk asked sort dir name node) ↔
      ∃ dir ∈ d.paths, ∃ name node, sort node ∧ d.Holds desk asked dir name node := by
  constructor
  · rintro ⟨dir, name, node, held, sorted, before, after, split, _⟩
    exact ⟨dir, by simp [split], name, node, sorted, held⟩
  · intro held
    obtain ⟨before, dir, after, split, ⟨name, node, sorted, held⟩, missed⟩ := exists_first held
    refine ⟨dir, name, node, held, sorted, before, after, split, ?_⟩
    intro earlier mem name node sorted held
    exact missed earlier mem ⟨name, node, sorted, held⟩

/-- **The first entry of a name is found, whatever it is.** Nothing else happens on the desk. Where
the first entry is no subdirectory, a path is found when some directory has a file of the name, and
it is that of the file in the first such directory. -/
theorem lookup_finds_first_entry (distinct : d.Distinct desk) (asked : String) :
    ∃ result, (d.lookup? asked : StateM Desk (Option String)).run desk = (result, desk) ∧
      ((∃ path, result = some path) ↔
        ∃ dir ∈ d.paths, ∃ name node, d.Holds desk asked dir name node) ∧
      (∀ path, result = some path ↔
        ∃ dir name node, d.First desk asked (fun _ => True) dir name node ∧
          path = Path.join dir name) ∧
      (¬ d.Eclipsed desk asked →
        ((∃ path, result = some path) ↔
          ∃ dir ∈ d.paths, ∃ name node, node ≠ .directory ∧ d.Holds desk asked dir name node) ∧
        ∀ path, result = some path ↔
          ∃ dir name node, d.First desk asked (· ≠ .directory) dir name node ∧
            path = Path.join dir name) := by
  have answer := findSome?_pick distinct asked
  refine ⟨_, run_lookupIn d desk asked d.paths, ?_, answer, fun clear => ⟨?_, ?_⟩⟩
  · have firsts := exists_first_iff d desk asked fun _ => True
    simp only [true_and] at firsts
    rw [← firsts]
    simp [answer]
  · rw [← exists_first_iff]
    simp [answer, first_iff_of_not_eclipsed clear]
  · intro path
    simp only [answer, first_iff_of_not_eclipsed clear]

/-- A file that a subdirectory of the same name stands before, and one that stands alone. -/
def shelves : Desk :=
  ⟨⟨[(["Morrowind.esm", "low"], .directory), (["Morrowind.esm", "high"], .file []),
    (["Tribunal.esm", "high"], .file []), (["low"], .directory), (["high"], .directory),
    ([], .directory)]⟩, [], []⟩

def shelved : Directories := ⟨["gone", "low", "high"], true⟩

theorem node?_shelves : (shelves.tree.node? place).isSome = true ↔
    place ∈ [["Morrowind.esm", "low"], ["Morrowind.esm", "high"], ["Tribunal.esm", "high"], ["low"],
      ["high"], []] := by
  simp [FileTree.node?, shelves, List.lookup_isSome_iff]

theorem directory?_shelves :
    shelves.tree.directory? shelves.here "gone" = none ∧
      shelves.tree.directory? shelves.here "low" = some ["low"] ∧
      shelves.tree.directory? shelves.here "high" = some ["high"] := by
  decide

theorem distinct_shelves : shelved.Distinct shelves := by
  obtain ⟨gone, low, high⟩ := directory?_shelves
  intro dir listed place found name other known known' same
  rw [node?_shelves] at known known'
  have either : dir = "gone" ∨ dir = "low" ∨ dir = "high" := by simpa [shelved] using listed
  rcases either with rfl | rfl | rfl
  · rw [gone] at found
    cases found
  · obtain rfl := Option.some.inj (low.symm.trans found)
    have both : name = "Morrowind.esm" ∧ other = "Morrowind.esm" := by
      simpa using And.intro known known'
    rw [both.1, both.2]
  · obtain rfl := Option.some.inj (high.symm.trans found)
    have both : (name = "Morrowind.esm" ∨ name = "Tribunal.esm") ∧
        (other = "Morrowind.esm" ∨ other = "Tribunal.esm") := by
      simpa using And.intro known known'
    have apart : fold "Morrowind.esm" ≠ fold "Tribunal.esm" := by decide
    rcases both with ⟨rfl | rfl, rfl | rfl⟩
    · rfl
    · exact absurd same apart
    · exact absurd same.symm apart
    · rfl

/-- The subdirectory is all that the directories before the last one hold. -/
theorem holds_shelves (listed : dir ∈ shelved.paths)
    (held : shelved.Holds shelves asked dir name node) :
    (dir = "low" ∧ name = "Morrowind.esm" ∧ node = .directory) ∨
      (dir = "high" ∧ node = .file []) := by
  obtain ⟨gone, low, high⟩ := directory?_shelves
  obtain ⟨place, found, known⟩ := held.there
  have there : (shelves.tree.node? (name :: place)).isSome = true := by
    rw [known, Option.isSome_some]
  rw [node?_shelves] at there
  have either : dir = "gone" ∨ dir = "low" ∨ dir = "high" := by simpa [shelved] using listed
  rcases either with rfl | rfl | rfl
  · rw [gone] at found
    cases found
  · obtain rfl := Option.some.inj (low.symm.trans found)
    obtain rfl : name = "Morrowind.esm" := by simpa using there
    have kind : shelves.tree.node? ["Morrowind.esm", "low"] = some .directory := by decide
    exact Or.inl ⟨rfl, rfl, Option.some.inj (known.symm.trans kind)⟩
  · obtain rfl := Option.some.inj (high.symm.trans found)
    have kinds : shelves.tree.node? ["Morrowind.esm", "high"] = some (.file []) ∧
        shelves.tree.node? ["Tribunal.esm", "high"] = some (.file []) := by decide
    have names : name = "Morrowind.esm" ∨ name = "Tribunal.esm" := by simpa using there
    rcases names with rfl | rfl
    · exact Or.inr ⟨rfl, Option.some.inj (known.symm.trans kinds.1)⟩
    · exact Or.inr ⟨rfl, Option.some.inj (known.symm.trans kinds.2)⟩

theorem first_shelves {sort : Node → Prop} (high : shelved.Holds shelves asked "high" name node)
    (sorted : sort node) (missed : fold asked = fold "Morrowind.esm" → ¬ sort .directory) :
    shelved.First shelves asked sort "high" name node where
  held := high
  sorted := sorted
  first := by
    refine ⟨["gone", "low"], [], rfl, ?_⟩
    intro earlier mem name node sorted held
    have listed : earlier ∈ shelved.paths := List.mem_append_left ["high"] mem
    obtain ⟨rfl, rfl, rfl⟩ | ⟨rfl, _⟩ := holds_shelves listed held
    · exact missed held.fold_eq.symm sorted
    · exact absurd mem (by decide)

/-- The file that stands alone is found in any case. -/
theorem lookup_finds_first_entry_alone :
    shelved.Distinct shelves ∧ ¬ shelved.Eclipsed shelves "tribunal.ESM" ∧
      (shelved.lookup? "tribunal.ESM" : StateM Desk (Option String)).run shelves =
        (some "high/Tribunal.esm", shelves) := by
  have apart : fold "tribunal.ESM" ≠ fold "Morrowind.esm" := by decide
  have clear : ¬ shelved.Eclipsed shelves "tribunal.ESM" := by
    rintro ⟨dir, name, held, -, before, after, split, -⟩
    obtain ⟨-, rfl, -⟩ | ⟨-, isFile⟩ := holds_shelves (by simp [split]) held
    · exact apart held.fold_eq.symm
    · cases isFile
  obtain ⟨result, run, -, -, files⟩ := lookup_finds_first_entry distinct_shelves "tribunal.ESM"
  have held : shelved.Holds shelves "tribunal.ESM" "high" "Tribunal.esm" (.file []) :=
    ⟨⟨["high"], directory?_shelves.2.2, by decide⟩, by decide⟩
  obtain rfl : result = some "high/Tribunal.esm" :=
    ((files clear).2 _).mpr ⟨"high", "Tribunal.esm", .file [],
      first_shelves held nofun (fun same => absurd same apart), by decide⟩
  exact ⟨distinct_shelves, clear, run⟩

/-- A subdirectory in an earlier directory hides the first file of the name. -/
theorem lookup_hides_file :
    shelved.Distinct shelves ∧
      shelved.First shelves "morrowind.esm" (· ≠ .directory) "high" "Morrowind.esm" (.file []) ∧
      Path.join "high" "Morrowind.esm" = "high/Morrowind.esm" ∧
      (shelved.lookup? "morrowind.esm" : StateM Desk (Option String)).run shelves =
        (some "low/Morrowind.esm", shelves) ∧
      shelves.tree.read shelves.here "low/Morrowind.esm" = .directory := by
  have held : shelved.Holds shelves "morrowind.esm" "high" "Morrowind.esm" (.file []) :=
    ⟨⟨["high"], directory?_shelves.2.2, by decide⟩, by decide⟩
  have hidden : shelved.Holds shelves "morrowind.esm" "low" "Morrowind.esm" .directory :=
    ⟨⟨["low"], directory?_shelves.2.1, by decide⟩, by decide⟩
  have found : shelved.paths.findSome? (shelved.pick shelves "morrowind.esm") =
      some "low/Morrowind.esm" := by
    rw [findSome?_pick distinct_shelves]
    refine ⟨"low", "Morrowind.esm", .directory, ⟨hidden, trivial, ["gone"], ["high"], rfl, ?_⟩,
      by decide⟩
    intro earlier mem name node _ held
    obtain rfl := List.mem_singleton.mp mem
    obtain ⟨other, _⟩ | ⟨other, _⟩ := holds_shelves (by decide) held
    · exact absurd other (by decide)
    · exact absurd other (by decide)
  refine ⟨distinct_shelves, first_shelves held nofun (fun _ plain => plain rfl), by decide, ?_,
    by decide⟩
  rw [lookup?, run_lookupIn, found]

end Directories

end ContentLayers
