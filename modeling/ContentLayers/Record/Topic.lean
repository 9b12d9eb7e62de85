import ContentLayers.Record.Basic
import ContentLayers.Roster

/-!
# Dialogue topics

A topic gathers the infos of every file that writes it. An info that is deleted keeps its place, and
a newer header takes over the infos of the topic that it replaces.
-/

namespace ContentLayers

open MsgPack

/-- One response line of a topic. -/
structure Info where
  id : String
  speaker : String
  text : String
  disposition : Int32
  resultScript : String
  deriving DecidableEq, Repr, Inhabited

def Info.shape : Shape Info where
  columns := [.optional "id" String, .optional "speaker" String, .optional "text" String,
    .optional "disposition" Int32, .optional "result_script" String]
  toRow i := (i.id, i.speaker, i.text, i.disposition, i.resultScript, ())
  ofRow | (id, speaker, text, disposition, resultScript, ()) =>
          { id, speaker, text, disposition, resultScript }

instance : Payload Info := Info.shape.payload

inductive TopicKind where
  | topic
  | voice
  | greeting
  | persuasion
  | journal
  deriving DecidableEq, Repr, Inhabited

instance : Payload TopicKind := .numbered [.topic, .voice, .greeting, .persuasion, .journal]

/-- The place of an info in its topic. -/
structure InfoSlot where
  info : Info
  live : Bool
  deriving DecidableEq, Repr, Inhabited

structure Topic where
  id : String
  kind : TopicKind
  slots : Roster InfoSlot
  deriving Inhabited

/-- What merging an info did to its topic. -/
inductive InfoMerge where
  | appended
  | updated
  | markedDeleted
  /-- The deletion of an info that the topic never had. -/
  | ignored
  deriving DecidableEq, Repr

namespace Topic

def new (id : String) (kind : TopicKind) : Topic := ⟨id, kind, .empty⟩

/-- The live infos in the order of their first writing. -/
def infos (t : Topic) : List Info := (t.slots.toList.filter (·.live)).map (·.info)

def info? (t : Topic) (id : String) : Option Info :=
  ((t.slots.find? id).filter (·.live)).map (·.info)

def merge (t : Topic) (info : Info) (deleted : Bool) : Topic × InfoMerge :=
  match t.slots.find? info.id, deleted with
  | some slot, true =>
    ({ t with slots := t.slots.put info.id { slot with live := false } }, .markedDeleted)
  | some _, false => ({ t with slots := t.slots.put info.id ⟨info, true⟩ }, .updated)
  | none, true => (t, .ignored)
  | none, false => ({ t with slots := t.slots.put info.id ⟨info, true⟩ }, .appended)

end Topic

instance : Record Topic where
  shape :=
    { columns := [.optional "id" String, .optional "kind" TopicKind]
      toRow t := (t.id, t.kind, ())
      ofRow | (id, kind, ()) => .new id kind }
  id := (·.id)
  inherit newer older := { newer with slots := older.slots }

end ContentLayers
