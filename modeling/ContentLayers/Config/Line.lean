import ContentLayers.Text.Blank
import ContentLayers.Text.Quoted

/-!
# Lines of a configuration

A line is blank, a comment, or `key = value` with blanks anywhere around the two. The paths of data
directories may be quoted.
-/

namespace ContentLayers

open Text

/-- Why a line cannot be read. -/
inductive LineError where
  | malformed (text : String)
  | escapeAtEnd (value : String)
  | unterminated (value : String)
  deriving DecidableEq, Repr

/-- What a line sets. -/
inductive Setting where
  | data (path : String)
  | dataLocal (path : String)
  | content (name : String)
  | other (key : String)
  deriving DecidableEq, Repr

namespace Config

/-- Splits text at line feeds, each with a carriage return ahead of it or not. `line` holds the
characters of the current line, latest first. -/
def linesFrom (line : List Char) : List Char → List (List Char)
  | [] => if line.isEmpty then [] else [line.reverse]
  | '\n' :: cs => (if line.head? = some '\r' then line.tail else line).reverse :: linesFrom [] cs
  | c :: cs => linesFrom (c :: line) cs

def lines (text : String) : List (List Char) := linesFrom [] text.toList

/-- The text of a quoted path up to its closing quote. An ampersand takes the next character as it
is. -/
def quotedPath (value : String) : List Char → Except LineError (List Char)
  | [] => .error (.unterminated value)
  | '"' :: _ => .ok []
  | '&' :: [] => .error (.escapeAtEnd value)
  | '&' :: c :: cs => (quotedPath value cs).map (c :: ·)
  | c :: cs => (quotedPath value cs).map (c :: ·)

/-- A path with its quotes taken off, if it has any. -/
def unquote (value : List Char) : Except LineError String :=
  match value with
  | '"' :: rest => (quotedPath (.ofList value) rest).map .ofList
  | _ => .ok (.ofList value)

def isKeyStart (c : Char) : Bool := c.isAlpha

def isKeyChar (c : Char) : Bool := c.isAlphanum || c == '_' || c == '-'

/-- The key and the trimmed value of a line. -/
def pair? (line : List Char) : Option (List Char × List Char) :=
  let text := trimStart line
  let key := text.takeWhile isKeyChar
  match key.head?.any isKeyStart, trimStart (text.dropWhile isKeyChar) with
  | true, '=' :: value => some (key, trim value)
  | _, _ => none

def isIgnored (line : List Char) : Bool :=
  match trim line with
  | [] => true
  | c :: _ => c == '#'

/-- What a line sets that is neither blank nor a comment. -/
def setting (line : List Char) : Except LineError Setting :=
  match pair? line with
  | none => .error (.malformed (.ofList (trim line)))
  | some (key, value) =>
    match String.ofList key with
    | "data" => (unquote value).map .data
    | "data-local" => (unquote value).map .dataLocal
    | "content" => .ok (.content (.ofList value))
    | other => .ok (.other other)

end Config

end ContentLayers
