import ContentLayers.Chunk.Basic

/-!
# Failures

The errors that end a load, with their messages. A chain of messages goes from the outermost to the
one behind all others.
-/

namespace ContentLayers

/-- Why a content file could not be applied. -/
inductive FormatError where
  | stream (cause : StreamError)
  | decode (tag : Tag) (position : Nat) (cause : StreamError)
  | orphanInfo (info : String) (position : Nat)
  | unsupportedRequired (tag : Tag) (position : Nat)
  deriving DecidableEq, Repr

namespace FormatError

def message : FormatError → String
  | .stream cause => s!"unreadable record stream: {cause.message}"
  | .decode tag position cause => s!"cannot decode {tag} record #{position}: {cause.message}"
  | .orphanInfo info position =>
    s!"INFO record '{info}' (#{position}) is not preceded by a DIAL record"
  | .unsupportedRequired tag position =>
    s!"record kind {tag} (#{position}) is marked required but is not supported"

/-- The message and the messages of what lies behind it. -/
def chain (e : FormatError) : List String :=
  match e with
  | .stream cause | .decode _ _ cause => [e.message, cause.message]
  | .orphanInfo _ _ | .unsupportedRequired _ _ => [e.message]

end FormatError

structure LoadError where
  /-- The place of the file in the load order. -/
  index : Nat
  file : String
  cause : FormatError
  deriving DecidableEq, Repr

namespace LoadError

def message (e : LoadError) : String :=
  s!"failed to load {e.file} (content file #{e.index}): {e.cause.message}"

def chain (e : LoadError) : List String := e.message :: e.cause.chain

end LoadError

end ContentLayers
