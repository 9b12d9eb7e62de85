import ContentLayers.Content.Open
import ContentLayers.Directories
import ContentLayers.Proofs.Drafts
import ContentLayers.Proofs.FileTrees

/-!
# Publishing content files

Content files with names that are new to their directories are written one after the other. Then the
file tree holds them all, and the directories are as before.
-/

namespace ContentLayers

/-- A content file to be: the directory it goes to, its name, its header and its records. -/
structure Manuscript where
  directory : String
  name : String
  header : FileHeader
  records : List Chunk

namespace Manuscript

/-- The sizes and the number of records fit in 32 bits. -/
structure Fits (f : Manuscript) : Prop where
  count : f.records.length < 0x100000000
  header : (encodePayload f.header).length < 0x100000000
  payloads : ∀ c ∈ f.records, c.payload.length < 0x100000000

/-- The records in memory. -/
def buffer (f : Manuscript) : Buffer := f.records.foldl Buffer.push (.empty f.name)

def path (f : Manuscript) : String := Path.join f.directory f.name

/-- Writes the content file, and tells whether that worked. -/
def publish {m : Type → Type} [Monad m] [Files m] (f : Manuscript) : m Bool :=
  match (Draft.new f.header).pushAll f.records with
  | .error _ => pure false
  | .ok draft =>
    match draft.bytes? with
    | none => pure false
    | some bytes => return (← save f.path bytes).isOk

/-- The bytes of the content file. -/
def contents (f : Manuscript) : Bytes :=
  Content.preamble f.records.length (encodePayload f.header).length ++ encodePayload f.header ++
    f.records.flatMap Chunk.frame

variable {f : Manuscript}

theorem feed_buffer (f : Manuscript) :
    f.buffer.feed = ⟨f.name, some f.records.length, f.records, none⟩ := by
  have pushed (b : Buffer) (cs : List Chunk) :
      cs.foldl Buffer.push b = { b with records := b.records ++ cs.toArray } := by
    induction cs generalizing b with
    | nil => simp
    | cons c cs ih => simp [ih, Buffer.push]
  simp [buffer, pushed, Buffer.empty, Buffer.feed]

/-- The content file is read from its bytes with the feed of the buffer. -/
theorem Fits.parse (fits : f.Fits) (path : String) :
    ∃ file, ContentFile.parse path f.name f.contents = .ok file ∧ file.feed = f.buffer.feed := by
  let file : ContentFile :=
    ⟨path, f.name, f.header, f.records.length, f.records.flatMap Chunk.frame⟩
  obtain ⟨last, trace, stuck⟩ :=
    Reader.exists_trace_of_frames (r := file.reader) fits.payloads rfl rfl
  refine ⟨file, ContentFile.parse_preamble fits.count fits.header path f.name, ?_⟩
  rw [feed_buffer]
  exact trace.feed stuck

end Manuscript

/-- What the directories and the file system must be for the files to be written and found: the
directories of the files are listed and there, they hold nothing of the names yet, and the names
are distinct, all up to case. -/
structure Publishable (desk : Desk) (d : Directories) (files : List Manuscript) : Prop where
  fits : ∀ f ∈ files, f.Fits
  plain : ∀ f ∈ files, Path.IsPlain f.name
  short : ∀ f ∈ files, FileTree.isName f.name = true
  distinct : (files.map fun f => fold f.name).Nodup
  listed : ∀ f ∈ files, f.directory ∈ d.paths
  there : ∀ f ∈ files, (desk.tree.directory? desk.here f.directory).isSome = true
  clear : ∀ path ∈ d.paths, ∀ place, desk.tree.directory? desk.here path = some place →
    ∀ entry ∈ desk.tree.children place, ∀ f ∈ files, fold entry.name ≠ fold f.name
  reach : ∀ path ∈ d.paths, ∀ f ∈ files, FileTree.isPath (Path.join path f.name) = true

namespace Publishable

variable {desk : Desk} {d : Directories} {files : List Manuscript}

/-- A name has one manuscript. -/
theorem same_of_name (ready : Publishable desk d files) {f g : Manuscript} (hf : f ∈ files)
    (hg : g ∈ files) (same : fold f.name = fold g.name) : f = g :=
  List.inj_on_of_nodup_map ready.distinct hf hg same

/-- Nothing stands in the place of a file. -/
theorem free (ready : Publishable desk d files) {f : Manuscript} (mem : f ∈ files) {place : Place}
    (found : desk.tree.directory? desk.here f.directory = some place) :
    desk.tree.node? (f.name :: place) = none := by
  rw [← Option.not_isSome_iff_eq_none, ← FileTree.exists_mem_children]
  rintro ⟨entry, held, named⟩
  exact ready.clear f.directory (ready.listed f mem) place found entry held f mem
    (congrArg fold named)

end Publishable

namespace FileTree

/-- The later tree is the earlier one with the files written. -/
structure Stocked (before after : FileTree) (here : Place) (files : List Manuscript) : Prop where
  directories : before.SameDirectories after
  written : ∀ f ∈ files, ∀ place, before.directory? here f.directory = some place →
    after.node? (f.name :: place) = some (.file f.contents)
  others : ∀ place, after.node? place = before.node? place ∨
    ∃ f ∈ files, ∃ above, before.directory? here f.directory = some above ∧
      place = f.name :: above

theorem stocked_nil (t : FileTree) (here : Place) : t.Stocked t here [] where
  directories _ := rfl
  written := nofun
  others _ := Or.inl rfl

/-- One more file is written, with a new name. -/
theorem Stocked.concat {before after : FileTree} {here : Place} {files : List Manuscript}
    {f : Manuscript} {p : Place} (h : before.Stocked after here files)
    (fresh : ∀ g ∈ files, g.name ≠ f.name)
    (found : before.directory? here f.directory = some p)
    (free : before.node? (f.name :: p) = none) :
    before.Stocked (after.set (f.name :: p) (.file f.contents)) here (files ++ [f]) where
  directories place := by
    have outside : after.isDirectory (f.name :: p) = false := by
      rw [h.directories, isDirectory_of_node?_eq_none free]
    rw [sameDirectories_set outside, h.directories]
  written g mem place held := by
    rw [node?_set]
    obtain old | new := List.mem_append.mp mem
    · have apart : g.name :: place ≠ f.name :: p := by
        simp [fresh g old]
      rw [if_neg apart]
      exact h.written g old place held
    · obtain rfl := List.mem_singleton.mp new
      have here : place = p := Option.some.inj (held.symm.trans found)
      rw [here, if_pos rfl]
  others place := by
    rw [node?_set]
    split
    · exact Or.inr ⟨f, by simp, p, found, ‹_›⟩
    · obtain same | ⟨g, mem, held⟩ := h.others place
      · exact Or.inl same
      · exact Or.inr ⟨g, by simp [mem], held⟩

end FileTree

/-- An action goes on from where the one before it ends. -/
theorem Desk.run_bind {α β : Type} {act : StateM Desk α} {next : α → StateM Desk β}
    {desk after : Desk} {a : α} (first : act.run desk = (a, after)) :
    (act >>= next).run desk = (next a).run after := by
  rw [StateT.run_bind, first]
  rfl

theorem Manuscript.run_publish {f : Manuscript} (fits : f.Fits) {desk : Desk} {tree : FileTree}
    (written : desk.tree.write desk.here f.path f.contents = some tree) :
    (f.publish : StateM Desk Bool).run desk = (true, { desk with tree }) := by
  have pushed := Draft.pushAll_eq_ok (d := Draft.new f.header) fits.payloads
  have all : (Draft.new f.header).pushAll f.records = .ok ⟨f.header, f.records.toArray⟩ := by
    simpa [Draft.new] using pushed
  have bytes : (Draft.mk f.header f.records.toArray).bytes? = some f.contents :=
    Draft.bytes?_of_sizes fits.count fits.header
  have wrote : (Files.write f.path f.contents : StateM Desk Bool).run desk =
      (true, { desk with tree }) := by
    simp only [Files.write, StateT.run_bind, StateT.run_get, pure_bind, written]
    rfl
  have saved : (save f.path f.contents : StateM Desk (Except SaveError Unit)).run desk =
      (.ok (), { desk with tree }) := by
    rw [save, Desk.run_bind wrote]
    rfl
  simp only [publish, all, bytes]
  rw [Desk.run_bind saved]
  rfl

/-- With some files written, the next one is written as well. -/
theorem Publishable.run_publish_next {desk : Desk} {d : Directories} {f : Manuscript}
    {done coming : List Manuscript} {mid : FileTree}
    (ready : Publishable desk d (done ++ f :: coming))
    (stocked : desk.tree.Stocked mid desk.here done) :
    ∃ next, (f.publish : StateM Desk Bool).run { desk with tree := mid } =
        (true, { desk with tree := next }) ∧
      desk.tree.Stocked next desk.here (done ++ [f]) := by
  have mem : f ∈ done ++ f :: coming := by simp
  obtain ⟨place, found⟩ := Option.isSome_iff_exists.mp (ready.there f mem)
  have clear := ready.free mem found
  have fresh : ∀ g ∈ done, g.name ≠ f.name := by
    intro g earlier same
    have distinct := ready.distinct
    rw [List.map_append, List.map_cons, List.nodup_append] at distinct
    exact distinct.2.2 _ (List.mem_map_of_mem earlier) _ List.mem_cons_self (congrArg fold same)
  have written : mid.write desk.here f.path f.contents =
      some (mid.set (f.name :: place) (.file f.contents)) := by
    -- Files are all that was added, so directories are where they were before.
    have outside : mid.isDirectory (f.name :: place) = false := by
      rw [stocked.directories, FileTree.isDirectory_of_node?_eq_none clear]
    have found' : mid.directory? desk.here f.directory = some place := by
      rw [FileTree.directory?_congr stocked.directories, found]
    exact FileTree.write_join (ready.plain f mem) (ready.short f mem)
      (ready.reach f.directory (ready.listed f mem) f mem) found' outside f.contents
  exact ⟨_, Manuscript.run_publish (ready.fits f mem) written, stocked.concat fresh found clear⟩

/-- All files are written, one after the other. -/
theorem Publishable.run_publish {desk : Desk} {d : Directories} {files : List Manuscript}
    (ready : Publishable desk d files) :
    ∃ tree, (files.mapM Manuscript.publish : StateM Desk (List Bool)).run desk =
        (files.map fun _ => true, { desk with tree }) ∧
      desk.tree.Stocked tree desk.here files := by
  suffices rest : ∀ done coming mid, files = done ++ coming →
      desk.tree.Stocked mid desk.here done →
      ∃ tree, (coming.mapM Manuscript.publish : StateM Desk (List Bool)).run
          { desk with tree := mid } = (coming.map fun _ => true, { desk with tree }) ∧
        desk.tree.Stocked tree desk.here files from
    rest [] files desk.tree rfl (FileTree.stocked_nil desk.tree desk.here)
  intro done coming
  induction coming generalizing done with
  | nil =>
    intro mid split stocked
    rw [List.append_nil] at split
    exact ⟨mid, rfl, split ▸ stocked⟩
  | cons f coming ih =>
    intro mid split stocked
    obtain ⟨next, first, stocked'⟩ := (split ▸ ready).run_publish_next stocked
    obtain ⟨tree, others, whole⟩ := ih (done ++ [f]) next (by simp [split]) stocked'
    refine ⟨tree, ?_, whole⟩
    rw [List.mapM_cons, Desk.run_bind first, Desk.run_bind others]
    rfl

end ContentLayers
