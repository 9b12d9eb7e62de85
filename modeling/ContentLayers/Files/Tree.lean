import ContentLayers.Files.Basic
import ContentLayers.Files.Path

/-!
# File trees

A file system as a value: directories and files by their place, with a working directory.
-/

namespace ContentLayers

/-- The names from a node up to the root, innermost first. -/
abbrev Place := List String

inductive Node where
  | directory
  | file (contents : Bytes)
  deriving DecidableEq, Repr

/-- Later nodes come first and hide earlier ones of the same place. -/
structure FileTree where
  nodes : List (Place × Node)
  deriving DecidableEq, Repr

namespace FileTree

/-- The root directory alone. -/
def root : FileTree := ⟨[([], .directory)]⟩

def node? (t : FileTree) (place : Place) : Option Node := t.nodes.lookup place

def set (t : FileTree) (place : Place) (node : Node) : FileTree :=
  ⟨(place, node) :: t.nodes.filter (·.1 != place)⟩

def isDirectory (t : FileTree) (place : Place) : Bool := t.node? place == some .directory

/-- Paths that a file system takes: without NUL, and shorter than 4096 bytes. -/
def isPath (path : String) : Bool := !path.toList.contains '\x00' && path.utf8ByteSize < 4096

/-- Names that a file system takes within a path. -/
def isName (name : String) : Bool := name.utf8ByteSize ≤ 255

/-- Follows parts from a place to an existing node. -/
def follow (t : FileTree) : Place → List String → Option Place
  | place, [] => some place
  | place, part :: parts =>
    if !t.isDirectory place then none
    else if part = "" || part = "." then t.follow place parts
    else if part = ".." then t.follow place.tail parts
    else if (t.node? (part :: place)).isSome then t.follow (part :: place) parts
    else none

/-- The existing node that a path names, seen from a working directory. -/
def resolve (t : FileTree) (here : Place) (path : String) : Option Place :=
  if path.isEmpty || !isPath path then none
  else t.follow (if Path.isAbsolute path then [] else here) (Path.parts path)

def children (t : FileTree) (place : Place) : List Entry :=
  (t.nodes.filterMap fun
    | (name :: above, node) => if above = place then some ⟨name, node != .directory⟩ else none
    | ([], _) => none).mergeSort fun a b => decide (a.name ≤ b.name)

def read (t : FileTree) (here : Place) (path : String) : Opened :=
  match (t.resolve here path).bind t.node? with
  | none => .missing
  | some .directory => .directory
  | some (.file contents) => .file contents

/-- Follows parts from a place and makes the directories that are missing, as far as it can. -/
def grow (t : FileTree) : Place → List String → FileTree × Bool
  | place, [] => (t, t.isDirectory place)
  | place, part :: parts =>
    if !t.isDirectory place then (t, false)
    else if part = "" || part = "." then t.grow place parts
    else if part = ".." then t.grow place.tail parts
    else if (t.node? (part :: place)).isSome then t.grow (part :: place) parts
    else if isName part then (t.set (part :: place) .directory).grow (part :: place) parts
    else (t, false)

def createDirectories (t : FileTree) (here : Place) (path : String) : FileTree × Bool :=
  if isPath path then t.grow (if Path.isAbsolute path then [] else here) (Path.parts path)
  else (t, false)

/-- Writes a file into a directory that is there. -/
def write (t : FileTree) (here : Place) (path : String) (contents : Bytes) : Option FileTree :=
  let parts := Path.parts path
  match parts.getLast? with
  | none => none
  | some name =>
    if name = "" || name = "." || name = ".." || !isName name || !isPath path then none
    else
      (t.follow (if Path.isAbsolute path then [] else here) parts.dropLast).bind fun place =>
        if !t.isDirectory place || t.isDirectory (name :: place) then none
        else some (t.set (name :: place) (.file contents))

end FileTree

/-- A file tree at work: its working directory, and the notices so far, latest first. -/
structure Desk where
  tree : FileTree
  here : Place
  notices : List Notice

namespace Desk

instance : Files (StateM Desk) where
  isDirectory path := do
    let d ← get
    pure (((d.tree.resolve d.here path).map d.tree.isDirectory).getD false)
  entries? path := do
    let d ← get
    pure (((d.tree.resolve d.here path).filter d.tree.isDirectory).map d.tree.children)
  read path := do
    let d ← get
    pure (d.tree.read d.here path)
  createDirectories path := do
    let d ← get
    let (tree, made) := d.tree.createDirectories d.here path
    set { d with tree }
    pure made
  write path contents := do
    let d ← get
    match d.tree.write d.here path contents with
    | none => pure false
    | some tree =>
      set { d with tree }
      pure true

instance : Journal (StateM Desk) where
  note n := modify fun d => { d with notices := n :: d.notices }

end Desk

end ContentLayers
