import ContentLayers.Notice

/-!
# Files

What the program asks of a file system and of a log. Reports and errors name a path as it was given.
-/

namespace ContentLayers

structure Entry where
  name : String
  isFile : Bool
  deriving DecidableEq, Repr

/-- What opening a path for reading finds. -/
inductive Opened where
  | missing
  | directory
  | file (contents : Bytes)
  deriving DecidableEq, Repr

class Files (m : Type → Type) where
  isDirectory : String → m Bool
  /-- The entries of a directory; none when the path is not one. -/
  entries? : String → m (Option (List Entry))
  read : String → m Opened
  /-- Makes a directory and those above it, and tells whether it is there now. -/
  createDirectories : String → m Bool
  /-- Writes a whole file, and tells whether that worked. -/
  write : String → Bytes → m Bool

class Journal (m : Type → Type) where
  note : Notice → m Unit

def Journal.noteAll {m : Type → Type} [Monad m] [Journal m] (notices : List Notice) : m Unit :=
  notices.forM note

/-- The last link of a chain of messages: the operating system refused. -/
def systemFault : String := "io"

end ContentLayers
