/-!
# Paths

Paths are text with slashes between their parts. Empty parts and single dots carry no meaning,
except a dot that leads a relative path.
-/

namespace ContentLayers.Path

/-- The text between the slashes. -/
def splitSlash : List Char → List (List Char)
  | [] => [[]]
  | c :: cs =>
    if c = '/' then [] :: splitSlash cs
    else match splitSlash cs with
      | [] => [[c]]
      | part :: parts => (c :: part) :: parts

def parts (path : String) : List String := (splitSlash path.toList).map .ofList

def isAbsolute (path : String) : Bool := path.toList.head? == some '/'

/-- A path taken relative to a base, unless it is absolute. -/
def join (base path : String) : String :=
  if isAbsolute path then path
  else if base.isEmpty || base.toList.getLast? == some '/' then base ++ path
  else base ++ "/" ++ path

/-- Drops the last parts while they carry no meaning; `lead` tells whether the first part is the
dot of a relative path. -/
def trimParts (lead : Bool) (parts : List String) : List String :=
  let kept := (parts.reverse.dropWhile fun part => part == "" || part == ".").reverse
  if lead && kept.isEmpty then ["."] else kept

/-- Whether the path is absolute, whether it leads with a dot, and its parts behind the root. -/
def anatomy (path : String) : Bool × Bool × List String :=
  let root := isAbsolute path
  let body := if root then (parts path).tail else parts path
  (root, !root && body.head? == some ".", body)

/-- The path without its last meaningful part; a root and the empty path have none. -/
def parent? (path : String) : Option String :=
  let (root, lead, body) := anatomy path
  match trimParts lead body with
  | [] => none
  | part :: parts =>
    let shorter := (part :: parts).dropLast
    let kept := trimParts (lead && !shorter.isEmpty) shorter
    some ((if root then "/" else "") ++ String.intercalate "/" kept)

/-- The last meaningful part, when it names something. -/
def fileName? (path : String) : Option String :=
  let (_, lead, body) := anatomy path
  ((trimParts lead body).getLast?).filter fun part => part != "." && part != ".."

/-- What follows the last dot of a name, unless that dot is the first character. -/
def extension? (path : String) : Option String :=
  (fileName? path).bind fun name =>
    let after := name.toList.reverse.takeWhile (· != '.')
    if after.length + 1 < name.length then some (.ofList after.reverse) else none

end ContentLayers.Path
