import ContentLayers.Installation
import ContentLayers.Proofs.Publishing

/-!
# Installing published content files

Content files that are written into data directories are found there by name, and loaded as their
records are loaded from memory.
-/

namespace ContentLayers

section Stocked

variable {desk : Desk} {d : Directories} {files : List Manuscript} {tree : FileTree}
  {f : Manuscript} {p q : Place}

/-- An entry with the name of a file is that file. -/
theorem Publishable.entry_of_match (ready : Publishable desk d files)
    (stocked : desk.tree.Stocked tree desk.here files) (mem : f ∈ files)
    (found : desk.tree.directory? desk.here f.directory = some p) {path : String}
    (listed : path ∈ d.paths) (directory : desk.tree.directory? desk.here path = some q)
    {entry : Entry} (held : entry ∈ tree.children q) (named : d.isMatch entry.name f.name = true) :
    entry.name = f.name ∧ q = p := by
  have same : fold entry.name = fold f.name := by
    rw [Directories.isMatch] at named
    split at named
    · exact sameFolded_iff.mp named
    · rw [beq_iff_eq.mp named]
  have known : (tree.node? (entry.name :: q)).isSome = true :=
    FileTree.exists_mem_children.mp ⟨entry, held, rfl⟩
  obtain old | ⟨g, mem', above, found', place⟩ := stocked.others (entry.name :: q)
  · rw [old, ← FileTree.exists_mem_children] at known
    obtain ⟨entry', held', named'⟩ := known
    refine absurd ?_ (ready.clear path listed q directory entry' held' f mem)
    rw [named', same]
  · obtain ⟨named', rfl⟩ := List.cons.inj place
    obtain rfl := ready.same_of_name mem' mem (by rw [← named', same])
    exact ⟨named', Option.some.inj (found'.symm.trans found)⟩

/-- In its place the file is found by name. -/
theorem Publishable.find?_of_place (ready : Publishable desk d files)
    (stocked : desk.tree.Stocked tree desk.here files) (mem : f ∈ files)
    (found : desk.tree.directory? desk.here f.directory = some p) {path : String}
    (listed : path ∈ d.paths) (directory : desk.tree.directory? desk.here path = some p) :
    ∃ entry, (tree.children p).find? (fun entry => d.isMatch entry.name f.name) = some entry ∧
      entry.name = f.name := by
  have known : (tree.node? (f.name :: p)).isSome = true := by
    rw [stocked.written f mem p found, Option.isSome_some]
  obtain ⟨entry, held, named⟩ := FileTree.exists_mem_children.mpr known
  cases first : (tree.children p).find? fun entry => d.isMatch entry.name f.name with
  | none =>
    have unmatched := List.find?_eq_none.mp first entry held
    simp [named, Directories.isMatch, sameFolded] at unmatched
  | some entry' =>
    have matched : d.isMatch entry'.name f.name = true := by simpa using List.find?_some first
    have held' := List.mem_of_find?_eq_some first
    exact ⟨entry', rfl, (ready.entry_of_match stocked mem found listed directory held' matched).1⟩

/-- In other places the file is not found. -/
theorem Publishable.find?_elsewhere (ready : Publishable desk d files)
    (stocked : desk.tree.Stocked tree desk.here files) (mem : f ∈ files)
    (found : desk.tree.directory? desk.here f.directory = some p) {path : String}
    (listed : path ∈ d.paths) (directory : desk.tree.directory? desk.here path = some q)
    (elsewhere : q ≠ p) :
    (tree.children q).find? (fun entry => d.isMatch entry.name f.name) = none := by
  rw [List.find?_eq_none]
  intro entry held named
  exact elsewhere (ready.entry_of_match stocked mem found listed directory held named).2

/-- The first directory that has the file is the one that it was written to, by whatever path. -/
theorem Publishable.run_lookupIn (ready : Publishable desk d files)
    (stocked : desk.tree.Stocked tree desk.here files) (mem : f ∈ files)
    (found : desk.tree.directory? desk.here f.directory = some p) (notices : List Notice)
    {paths : List String} (listed : ∀ path ∈ paths, path ∈ d.paths)
    (there : ∃ path ∈ paths, desk.tree.directory? desk.here path = some p) :
    ∃ path ∈ paths, desk.tree.directory? desk.here path = some p ∧
      (d.lookupIn f.name paths : StateM Desk (Option String)).run ⟨tree, desk.here, notices⟩ =
        (some (Path.join path f.name), ⟨tree, desk.here, notices⟩) := by
  induction paths with
  | nil =>
    obtain ⟨path, none, _⟩ := there
    cases none
  | cons path rest ih =>
    have head := listed path List.mem_cons_self
    have entries : (Files.entries? path : StateM Desk _).run ⟨tree, desk.here, notices⟩ =
        ((desk.tree.directory? desk.here path).map tree.children,
          ⟨tree, desk.here, notices⟩) := by
      rw [← FileTree.directory?_congr stocked.directories]
      rfl
    rw [Directories.lookupIn, Desk.run_bind entries]
    by_cases reached : desk.tree.directory? desk.here path = some p
    · refine ⟨path, List.mem_cons_self, reached, ?_⟩
      obtain ⟨entry, first, named⟩ := ready.find?_of_place stocked mem found head reached
      simp only [reached, Option.map_some, Option.getD_some, first, named]
      rfl
    · have missed : ((((desk.tree.directory? desk.here path).map tree.children).getD []).find?
          fun entry => d.isMatch entry.name f.name) = none := by
        cases directory : desk.tree.directory? desk.here path with
        | none => rfl
        | some q =>
          refine ready.find?_elsewhere stocked mem found head directory ?_
          rintro rfl
          exact reached directory
      have behind : ∃ other ∈ rest, desk.tree.directory? desk.here other = some p := by
        obtain ⟨other, mem', directory⟩ := there
        obtain rfl | later := List.mem_cons.mp mem'
        · exact absurd directory reached
        · exact ⟨other, later, directory⟩
      obtain ⟨path', mem', directory', result⟩ :=
        ih (fun other mem => listed other (List.mem_cons_of_mem path mem)) behind
      refine ⟨path', List.mem_cons_of_mem path mem', directory', ?_⟩
      simp only [missed, result]

/-- A file is opened under its name with the feed of its buffer. -/
theorem Publishable.run_openNamed (ready : Publishable desk d files)
    (stocked : desk.tree.Stocked tree desk.here files) (mem : f ∈ files) (notices : List Notice) :
    ∃ file, (d.openNamed f.name : StateM Desk (Except InstallError ContentFile)).run
        ⟨tree, desk.here, notices⟩ = (.ok file, ⟨tree, desk.here, notices⟩) ∧
      file.feed = f.buffer.feed := by
  obtain ⟨p, found⟩ := Option.isSome_iff_exists.mp (ready.there f mem)
  obtain ⟨path, listed, directory, located⟩ := ready.run_lookupIn stocked mem found notices
    (fun _ listed => listed) ⟨f.directory, ready.listed f mem, found⟩
  have plain := ready.plain f mem
  have contents : tree.read desk.here (Path.join path f.name) = .file f.contents := by
    refine FileTree.read_join plain (ready.reach path listed f mem) ?_
      (stocked.written f mem p found)
    rw [FileTree.directory?_congr stocked.directories, directory]
  have read : (Files.read (Path.join path f.name) : StateM Desk Opened).run
      ⟨tree, desk.here, notices⟩ = (.file f.contents, ⟨tree, desk.here, notices⟩) := by
    rw [← contents]
    rfl
  have named : Path.fileName? (Path.join path f.name) = some f.name := by
    refine Path.fileName?_join plain ?_
    rintro rfl
    simp [FileTree.directory?_eq] at directory
  obtain ⟨file, parsed, feed⟩ := (ready.fits f mem).parse (Path.join path f.name)
  have opened : (ContentFile.openAt (Path.join path f.name) :
      StateM Desk (Except OpenError ContentFile)).run ⟨tree, desk.here, notices⟩ =
        (.ok file, ⟨tree, desk.here, notices⟩) := by
    rw [ContentFile.openAt, Desk.run_bind read]
    simp only [named, Option.getD_some, parsed]
    rfl
  refine ⟨file, ?_, feed⟩
  rw [Directories.openNamed, Directories.lookup?, Desk.run_bind located]
  simp only
  rw [Desk.run_bind opened]
  rfl

/-- Notices go on the desk, and change nothing else there. -/
theorem Desk.run_noteAll (news : List Notice) (tree : FileTree) (here : Place)
    (notices : List Notice) :
    ∃ later, (Journal.noteAll news : StateM Desk Unit).run ⟨tree, here, notices⟩ =
      ((), ⟨tree, here, later⟩) := by
  induction news generalizing notices with
  | nil => exact ⟨notices, rfl⟩
  | cons n news ih =>
    obtain ⟨later, noted⟩ := ih (n :: notices)
    exact ⟨later, by rw [← noted]; rfl⟩

end Stocked

namespace Session

/-- The store and the report that feeds lead to, or the error of the first that fails. -/
def Applied.outcome (a : Applied Unit) : Except LoadError (Store × LoadReport) :=
  a.result.map fun _ => a.session.finish

theorem file_of_error {session : Session} {feed : Feed} {e : LoadError}
    (failed : (session.apply feed).result = .error e) : e.file = feed.name := by
  rw [apply] at failed
  cases loaded : (session.store.load feed session.nextIndex).result with
  | ok stats => simp [loaded] at failed
  | error cause =>
    simp only [loaded, Except.error.injEq] at failed
    rw [← failed]

end Session

/-- Files are applied from their directories as from their buffers. -/
theorem Publishable.run_applyFiles {desk : Desk} {d : Directories} {files : List Manuscript}
    {tree : FileTree} (ready : Publishable desk d files)
    (stocked : desk.tree.Stocked tree desk.here files) {coming : List Manuscript}
    (part : ∀ f ∈ coming, f ∈ files) (session : Session) (notices : List Notice) :
    ∃ later, (d.applyFiles (coming.map (·.name)) session :
        StateM Desk (Except InstallError Session)).run ⟨tree, desk.here, notices⟩ =
      (match (session.applyAll (coming.map (·.buffer.feed))).result with
        | .error e => .error (.aborted e.file e)
        | .ok _ => .ok (session.applyAll (coming.map (·.buffer.feed))).session,
        ⟨tree, desk.here, later⟩) := by
  induction coming generalizing session notices with
  | nil => exact ⟨notices, rfl⟩
  | cons f coming ih =>
    obtain ⟨file, opened, feed⟩ :=
      ready.run_openNamed stocked (part f List.mem_cons_self) notices
    have masters {β : Type} (next : StateM Desk β) : ∃ announced,
        (if file.header.masters.isEmpty = true then next else do
          Journal.note (.masters f.name (file.header.masters.map (·.name)))
          next).run ⟨tree, desk.here, notices⟩ = next.run ⟨tree, desk.here, announced⟩ := by
      cases file.header.masters.isEmpty <;> exact ⟨_, rfl⟩
    rw [List.map_cons, List.map_cons, Directories.applyFiles, Desk.run_bind opened,
      Session.applyAll]
    simp only [feed]
    obtain ⟨announced, masters⟩ := masters _
    rw [masters]
    obtain ⟨logged, logs⟩ :=
      Desk.run_noteAll (logOf (session.apply f.buffer.feed).events) tree desk.here announced
    rw [Desk.run_bind logs]
    cases applied : (session.apply f.buffer.feed).result with
    | error e =>
      have named : e.file = f.name := by
        rw [Session.file_of_error applied, Manuscript.feed_buffer]
      exact ⟨logged, by simp only [named]; rfl⟩
    | ok stats =>
      exact ih (fun g mem => part g (List.mem_cons_of_mem f mem)) _ logged

/-- **Published files are loaded like buffers.** Files that are written into data directories are
all written, and loading them by name gives the store and the report that a session over their
records in memory gives, or ends with its error. -/
theorem Directories.install_published {desk : Desk} {d : Directories} {files : List Manuscript}
    (ready : Publishable desk d files) :
    ∃ written, (files.mapM Manuscript.publish : StateM Desk (List Bool)).run desk =
        (files.map fun _ => true, written) ∧
      ((d.install (files.map (·.name)) :
        StateM Desk (Except InstallError (Store × LoadReport))).run written).1 =
          ((Session.start .new).applyAll (files.map (·.buffer.feed))).outcome.mapError
            fun e => .aborted e.file e := by
  obtain ⟨tree, published, stocked⟩ := ready.run_publish
  refine ⟨_, published, ?_⟩
  obtain ⟨later, applied⟩ :=
    ready.run_applyFiles stocked (fun _ mem => mem) (.start .new) desk.notices
  rw [install, Desk.run_bind applied, Session.Applied.outcome]
  cases ((Session.start .new).applyAll (files.map (·.buffer.feed))).result with
  | error e => rfl
  | ok _ =>
    simp only [Except.map, Except.mapError]
    obtain ⟨final, noted⟩ := Desk.run_noteAll
      ((Session.start .new).applyAll (files.map (·.buffer.feed))).session.finishNotices
      tree desk.here later
    rw [Desk.run_bind noted]
    rfl

/-- A desk with two empty directories. -/
def emptyDesk : Desk :=
  ⟨⟨[(["high"], .directory), (["low"], .directory), ([], .directory)]⟩, [], []⟩

def bothDirectories : Directories := ⟨["low/", "high"], true⟩

/-- A topic with an info, and a required record of an unknown kind in a later file. -/
def manuscripts : List Manuscript := [
  ⟨"high", "Base.esm", ⟨"", "", []⟩,
    [⟨Kind.dialogue.tag, 0, [0x80]⟩, ⟨Kind.infoTag, 0, [0x80]⟩]⟩,
  ⟨"low/", "Late.esp", ⟨"", "", [⟨"Base.esm", 28⟩]⟩,
    [⟨.ascii 'Z' 'Z' 'Z' 'Z', Chunk.requiredFlag, []⟩]⟩]

theorem publishable_manuscripts : Publishable emptyDesk bothDirectories manuscripts where
  fits := by
    simp only [manuscripts, List.forall_mem_cons, List.not_mem_nil, false_implies, implies_true,
      and_true]
    exact ⟨⟨by decide, by cbv, by decide⟩, ⟨by decide, by cbv, by decide⟩⟩
  plain := by
    simp only [manuscripts, List.forall_mem_cons, List.not_mem_nil, false_implies, implies_true,
      and_true]
    constructor <;> exact ⟨by decide, by decide, by decide, by decide⟩
  short := by decide
  distinct := by decide
  listed := by decide
  there := by decide
  clear := by
    have high : emptyDesk.tree.directory? emptyDesk.here "high" = some ["high"] := by decide
    have low : emptyDesk.tree.directory? emptyDesk.here "low/" = some ["low"] := by decide
    have empty : emptyDesk.tree.children ["high"] = [] ∧ emptyDesk.tree.children ["low"] = [] := by
      simp [FileTree.children, emptyDesk]
    intro path listed place found entry held
    have either : path = "low/" ∨ path = "high" := by simpa [bothDirectories] using listed
    rcases either with rfl | rfl
    · obtain rfl := Option.some.inj (low.symm.trans found)
      simp [empty.2] at held
    · obtain rfl := Option.some.inj (high.symm.trans found)
      simp [empty.1] at held
  reach := by decide

theorem Directories.install_published_late :
    Publishable emptyDesk bothDirectories manuscripts ∧
      ∃ written, (manuscripts.mapM Manuscript.publish : StateM Desk (List Bool)).run emptyDesk =
          ([true, true], written) ∧
        ((bothDirectories.install ["Base.esm", "Late.esp"] :
          StateM Desk (Except InstallError (Store × LoadReport))).run written).1 =
            .error (.aborted "Late.esp" ⟨1, "Late.esp",
              .unsupportedRequired (.ascii 'Z' 'Z' 'Z' 'Z') 0⟩) := by
  obtain ⟨written, published, loaded⟩ := Directories.install_published publishable_manuscripts
  exact ⟨publishable_manuscripts, written, published, loaded.trans (by rfl)⟩

end ContentLayers
