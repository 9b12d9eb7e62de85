import ContentLayers.Record.Topic
import ContentLayers.Table

/-!
# Dialogue

In a content file a topic is a header and the infos that follow it belong to it. The active topic is
that of the last header; a file starts without one.
-/

namespace ContentLayers

namespace Table

/-- Writes a topic header. The topic becomes active, even when the header deletes it. -/
def openTopic (topics : Table Topic) (topic : Topic) (deleted : Bool) (origin : Option Nat) :
    Table Topic × Option String × Outcome :=
  let (topics, outcome) := topics.upsert topic deleted origin
  (topics, some topic.id, outcome)

/-- Merges an info into the active topic, which may itself be deleted. -/
def mergeInfo (topics : Table Topic) (active : Option String) (info : Info) (deleted : Bool) :
    Option (Table Topic × InfoMerge) :=
  active.bind fun id => (topics.slots.find? id).map fun slot =>
    let (topic, merge) := slot.record.merge info deleted
    ({ topics with slots := topics.slots.put id { slot with record := topic } }, merge)

end Table

end ContentLayers
