import ContentLayers.Record.Actor
import ContentLayers.Record.Custom
import ContentLayers.Record.Item
import ContentLayers.Record.LevelledList
import ContentLayers.Record.Script
import ContentLayers.Record.Topic
import ContentLayers.Record.Variant

/-!
# Kinds

The built-in kinds of record in the order in which a store declares them, and custom kinds. Each
kind has a tag, a name and a type of records.
-/

namespace ContentLayers

inductive Kind where
  | activator
  | apparatus
  | book
  | actorClass
  | creature
  | dialogue
  | gameSetting
  | globalVariable
  | itemList
  | creatureList
  | miscellaneous
  | npc
  | script
  | sound
  | spell
  | startScript
  | weapon
  | custom (k : CustomKind)
  deriving DecidableEq, Repr

namespace Kind

def builtins : List Kind :=
  [activator, apparatus, book, actorClass, creature, dialogue, gameSetting, globalVariable,
    itemList, creatureList, miscellaneous, npc, script, sound, spell, startScript, weapon]

@[reducible] def Carrier : Kind → Type
  | activator => Activator
  | apparatus => Apparatus
  | book => Book
  | actorClass => ActorClass
  | creature => Creature
  | dialogue => Topic
  | gameSetting => GameSetting
  | globalVariable => GlobalVariable
  | itemList => LevelledList
  | creatureList => LevelledList
  | miscellaneous => Miscellaneous
  | npc => Npc
  | script => Script
  | sound => Sound
  | spell => Spell
  | startScript => StartScript
  | weapon => Weapon
  | custom k => CustomRecord k

@[reducible] instance record : (k : Kind) → Record k.Carrier
  | activator => inferInstanceAs (Record Activator)
  | apparatus => inferInstanceAs (Record Apparatus)
  | book => inferInstanceAs (Record Book)
  | actorClass => inferInstanceAs (Record ActorClass)
  | creature => inferInstanceAs (Record Creature)
  | dialogue => inferInstanceAs (Record Topic)
  | gameSetting => inferInstanceAs (Record GameSetting)
  | globalVariable => inferInstanceAs (Record GlobalVariable)
  | itemList => inferInstanceAs (Record LevelledList)
  | creatureList => inferInstanceAs (Record LevelledList)
  | miscellaneous => inferInstanceAs (Record Miscellaneous)
  | npc => inferInstanceAs (Record Npc)
  | script => inferInstanceAs (Record Script)
  | sound => inferInstanceAs (Record Sound)
  | spell => inferInstanceAs (Record Spell)
  | startScript => inferInstanceAs (Record StartScript)
  | weapon => inferInstanceAs (Record Weapon)
  | custom k => inferInstanceAs (Record (CustomRecord k))

def tag : Kind → Tag
  | activator => .ascii 'A' 'C' 'T' 'I'
  | apparatus => .ascii 'A' 'P' 'P' 'A'
  | book => .ascii 'B' 'O' 'O' 'K'
  | actorClass => .ascii 'C' 'L' 'A' 'S'
  | creature => .ascii 'C' 'R' 'E' 'A'
  | dialogue => .ascii 'D' 'I' 'A' 'L'
  | gameSetting => .ascii 'G' 'M' 'S' 'T'
  | globalVariable => .ascii 'G' 'L' 'O' 'B'
  | itemList => .ascii 'L' 'E' 'V' 'I'
  | creatureList => .ascii 'L' 'E' 'V' 'C'
  | miscellaneous => .ascii 'M' 'I' 'S' 'C'
  | npc => .ascii 'N' 'P' 'C' '_'
  | script => .ascii 'S' 'C' 'P' 'T'
  | sound => .ascii 'S' 'O' 'U' 'N'
  | spell => .ascii 'S' 'P' 'E' 'L'
  | startScript => .ascii 'S' 'S' 'C' 'R'
  | weapon => .ascii 'W' 'E' 'A' 'P'
  | custom k => k.tag

def name : Kind → String
  | activator => "Activator"
  | apparatus => "Apparatus"
  | book => "Book"
  | actorClass => "Class"
  | creature => "Creature"
  | dialogue => "Dialogue"
  | gameSetting => "GameSetting"
  | globalVariable => "Global"
  | itemList => "ItemLevList"
  | creatureList => "CreatureLevList"
  | miscellaneous => "Miscellaneous"
  | npc => "NPC"
  | script => "Script"
  | sound => "Sound"
  | spell => "Spell"
  | startScript => "StartScript"
  | weapon => "Weapon"
  | custom k => k.name

/-- Whether records of the kind can be placed in the world by id. -/
def referenceable : Kind → Bool
  | activator | apparatus | book | creature | itemList | creatureList | miscellaneous | npc
  | weapon => true
  | actorClass | dialogue | gameSetting | globalVariable | script | sound | spell
  | startScript => false
  | custom k => k.referenceable

/-- The tag of the infos that follow a topic; no kind may use it. -/
def infoTag : Tag := .ascii 'I' 'N' 'F' 'O'

end Kind

end ContentLayers
