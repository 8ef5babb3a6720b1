import Gamebook.Document.Tag
import Gamebook.Json.Reader
import Gamebook.Markup.Failure
import Gamebook.Source

/-! # Faults

What can be wrong with a gamebook, or with what is done to it. A fault is a cause with, where it is
known, the place in the text of the gamebook that it belongs to.
-/

namespace Gamebook

/-- The outcome of a combat that a combat must provide for. -/
inductive Outcome where
  | win
  | lose
deriving DecidableEq, Repr

/-- The name of an outcome. -/
def Outcome.name : Outcome → String
  | .win => "win"
  | .lose => "lose"

/-- The causes of faults: of reading, of steps and branches, and of sessions. -/
inductive Cause where
  | malformedMarkup (failure : Markup.Failure)
  | rootNotQuest (name : String)
  | unknownElement (name : String) (parent : Tag)
  | nestedQuest
  | repeatedId (id : String)
  | invalidEncounters (failure : Json.Failure)
  | notACard (tag : Tag)
  | missingEvent (name : String)
  | invalidHeal (raw : String)
  | combatChild (tag : Tag)
  | combatWithoutOutcome (outcome : Outcome)
  | combatWithoutEnemies
  | choiceWithoutText
  | roleplayEvent
  | roleplayChild (tag : Tag)
  | roleplayTrigger
  | missingTarget (id : String)
  | invalidTrigger (text : String)
  | branchInBranch (container : Tag)
  | branchWithoutCard
  | questWithoutCard
  | snapshotNode (number : Nat)
  | snapshotWithoutNode
  | parkedOnTrigger
  | sessionEnded
  | noChoiceHere (current : Tag)
  | noCombatHere (current : Tag)
  | choiceOutOfRange (index count : Nat)
  | endlessTriggers (limit : Nat)
deriving DecidableEq

namespace Cause

/-- The code by which programs tell faults apart. -/
def code : Cause → String
  | malformedMarkup _ => "XML_PARSE_ERROR"
  | rootNotQuest _ => "XML_ROOT_NOT_QUEST"
  | unknownElement .. => "XML_UNKNOWN_TAG"
  | nestedQuest => "XML_NESTED_QUEST"
  | repeatedId _ => "DOCUMENT_DUPLICATE_ID"
  | invalidEncounters _ => "ENCOUNTER_TABLE_INVALID"
  | notACard _ => "STEP_UNEXPECTED_NODE"
  | missingEvent _ => "EVENT_NOT_FOUND"
  | invalidHeal _ => "EVENT_HEAL_INVALID"
  | combatChild _ => "COMBAT_CHILD_INVALID"
  | combatWithoutOutcome .win => "COMBAT_MISSING_WIN_EVENT"
  | combatWithoutOutcome .lose => "COMBAT_MISSING_LOSE_EVENT"
  | combatWithoutEnemies => "COMBAT_NO_ENEMIES"
  | choiceWithoutText => "CHOICE_TEXT_MISSING"
  | roleplayEvent => "ROLEPLAY_EVENT_CHILD"
  | roleplayChild _ => "ROLEPLAY_CHILD_INVALID"
  | roleplayTrigger => "ROLEPLAY_CHILD_INVALID"
  | missingTarget _ => "TRIGGER_GOTO_TARGET_MISSING"
  | invalidTrigger _ => "TRIGGER_INVALID"
  | branchInBranch _ => "CONTAINER_NESTED_BRANCH"
  | branchWithoutCard => "CONTAINER_NO_CARD"
  | questWithoutCard => "SESSION_EMPTY_QUEST"
  | snapshotNode _ => "SESSION_NODE_UNKNOWN"
  | snapshotWithoutNode => "SESSION_SNAPSHOT_INVALID"
  | parkedOnTrigger => "SESSION_UNSETTLED"
  | sessionEnded => "SESSION_ENDED"
  | noChoiceHere _ => "SESSION_NOT_AWAITING_CHOICE"
  | noCombatHere _ => "SESSION_NOT_IN_COMBAT"
  | choiceOutOfRange .. => "SESSION_CHOICE_OUT_OF_RANGE"
  | endlessTriggers _ => "SESSION_GOTO_LOOP"

/-- An element name as it stands in messages. -/
def shown (name : String) : String :=
  "<" ++ name ++ ">"

/-- Where a card is and where another would have to be. -/
def wrongCard (current expected : Tag) : String :=
  "Current card is " ++ shown current.element ++ ", expected " ++ shown expected.element ++ "."

/-- What a fault says to a person. -/
def message : Cause → String
  | malformedMarkup failure => failure.message
  | rootNotQuest name => "Root element must be <quest>, found " ++ shown name ++ "."
  | unknownElement name parent =>
    shown name ++ " is not allowed inside " ++ shown parent.element ++ "."
  | nestedQuest => "<quest> can only appear as the root element."
  | repeatedId id => "id=\"" ++ id ++ "\" is used by more than one node."
  | invalidEncounters failure => failure.message
  | notACard tag => "Unknown or unexpected node: " ++ shown tag.element ++ "."
  | missingEvent name => "Could not find child with on=\"" ++ name ++ "\"."
  | invalidHeal raw => "heal=\"" ++ raw ++ "\" is not an integer."
  | combatChild tag => "Invalid child element of <combat>: " ++ shown tag.element ++ "."
  | combatWithoutOutcome outcome =>
    "<combat> must have at least one conditionally true child with on=\"" ++ outcome.name ++ "\"."
  | combatWithoutEnemies => "<combat> has no enabled <e> children."
  | choiceWithoutText => "<choice> inside <roleplay> must have \"text\" attribute."
  | roleplayEvent => "<roleplay> cannot contain <event>."
  | roleplayChild tag => "Invalid child element of <roleplay>: " ++ shown tag.element ++ "."
  | roleplayTrigger => "Only an \"end\" <trigger> may appear directly inside <roleplay>."
  | missingTarget id => "goto target \"" ++ id ++ "\" does not exist."
  | invalidTrigger text => "invalid trigger \"" ++ text ++ "\"."
  | branchInBranch container =>
    shown container.element ++ " cannot have <event> or <choice> child."
  | branchWithoutCard =>
    "Node must have at least one of <combat> or <roleplay> or <trigger>."
  | questWithoutCard => "<quest> has no enabled <roleplay>, <combat> or <trigger> child."
  | snapshotNode number =>
    "Snapshot node " ++ Number.wholeText number ++ " is not a card of this quest."
  | snapshotWithoutNode => "Snapshot has no node but is not marked as ended."
  | parkedOnTrigger => "Session is parked on a trigger."
  | sessionEnded => "Quest has already ended."
  | noChoiceHere current => wrongCard current .roleplay
  | noCombatHere current => wrongCard current .combat
  | choiceOutOfRange index count =>
    "Choice index " ++ Number.wholeText index ++ " is out of range, " ++ Number.wholeText count
      ++ " choices available."
  | endlessTriggers limit => "goto chain exceeded " ++ Number.wholeText limit ++ " hops."

end Cause

/-- A cause with the place that it belongs to, if one is known. -/
structure Fault where
  cause : Cause
  span : Option Span
deriving DecidableEq

namespace Fault

/-- A fault that belongs to no place. -/
def ofCause (cause : Cause) : Fault := ⟨cause, none⟩

/-- The code by which programs tell faults apart. -/
def code (fault : Fault) : String := fault.cause.code

/-- What a fault says to a person. -/
def message (fault : Fault) : String := fault.cause.message

end Fault

end Gamebook
