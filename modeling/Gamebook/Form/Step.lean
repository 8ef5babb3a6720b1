import Gamebook.Form.Context
import Gamebook.Form.Encounter
import Gamebook.Play.Step

/-! # Steps in JSON

A step is written as one object, in which a field says which kind of step it is. To tell the kind
the whole object is looked at first, so that every number in it must be a double, every text must be
decodable, and values may be nested only to a certain depth.
-/

namespace Gamebook

namespace Enemy

/-- An enemy in JSON. -/
def toJson (enemy : Enemy) : Json :=
  .object ([("name", .string enemy.name), ("tier", .ofNat enemy.tier.toNat)]
    ++ Json.optionalField "class" .string enemy.kind)

/-- The enemy that a JSON value is. -/
def ofJson (json : Json) : Except Json.Failure Enemy := do
  let record ← Record.ofJson ["name", "tier", "class"] json
  return ⟨← record.required "name" Json.asString, ← record.required "tier" Json.asTier,
    ← record.optional "class" Json.asString⟩

end Enemy

namespace Choice

/-- A choice in JSON. -/
def toJson (choice : Choice) : Json :=
  .object [("text", .string choice.text), ("idx", .ofNat choice.index)]

/-- The choice that a JSON value is. -/
def ofJson (json : Json) : Except Json.Failure Choice := do
  let record ← Record.ofJson ["text", "idx"] json
  return ⟨← record.required "text" Json.asString, ← record.required "idx" Json.asCount⟩

end Choice

namespace ContentKind

/-- The name of a kind of paragraph. -/
def name : ContentKind → String
  | .text => "text"
  | .instruction => "instruction"

/-- The kind of paragraph with a name. -/
def ofName? (name : String) : Option ContentKind :=
  if name = "text" then some .text else if name = "instruction" then some .instruction else none

end ContentKind

namespace ContentItem

/-- A paragraph in JSON. -/
def toJson (item : ContentItem) : Json :=
  .object [("kind", .string item.kind.name), ("text", .string item.text)]

/-- The paragraph that a JSON value is. -/
def ofJson (empty : Json → Bool) (json : Json) : Except Json.Failure ContentItem := do
  let record ← Record.ofJson ["kind", "text"] json
  return ⟨← record.required "kind" (Json.asNameOf ContentKind.ofName? empty),
    ← record.required "text" Json.asString⟩

end ContentItem

namespace EventParameters

/-- What an event gives to the player, in JSON. -/
def toJson (parameters : EventParameters) : Json :=
  .object (Json.optionalField "xp" .boolean parameters.xp
    ++ Json.optionalField "loot" .boolean parameters.loot
    ++ Json.optionalField "heal" (fun heal => .ofInt heal.toInt) parameters.heal)

/-- The integer of sixty-four bits with a sign that a JSON value is. -/
def asHeal (json : Json) : Except Json.Failure Int64 := do
  let n ← json.asInt
  match Number.int64? n with
  | some heal => .ok heal
  | none => .error (.wrongForm "a smaller integer")

/-- What an event gives to the player, as a JSON value says. -/
def ofJson (json : Json) : Except Json.Failure EventParameters := do
  let record ← Record.ofJson ["xp", "loot", "heal"] json
  return ⟨← record.optional "xp" Json.asBool, ← record.optional "loot" Json.asBool,
    ← record.optional "heal" asHeal⟩

end EventParameters

namespace TriggerKind

/-- The name of what a trigger does. -/
def name : TriggerKind → String
  | .finish => "end"
  | .goto => "goto"

/-- What a trigger with a name does. -/
def ofName? (name : String) : Option TriggerKind :=
  if name = "end" then some .finish else if name = "goto" then some .goto else none

end TriggerKind

/-- The greatest depth to which the values in a step may be nested. -/
def depthLimit : Nat := 127

mutual

/-- Whether a value can be looked at as a whole, with at most `depth` levels of arrays and
objects. -/
def Json.isPlain (depth : Nat) : Json → Bool
  | .null => true
  | .boolean _ => true
  | .string _ => true
  | .undecodable => false
  | .number literal => ((Numeral.ofText? literal.toList).bind Numeral.toFloat?).isSome
  | .array items => 0 < depth && Json.arePlain (depth - 1) items
  | .object fields => 0 < depth && Json.arePlainFields (depth - 1) fields

/-- Whether all items can be looked at as a whole. -/
def Json.arePlain (depth : Nat) : List Json → Bool
  | [] => true
  | item :: rest => item.isPlain depth && Json.arePlain depth rest

/-- Whether the values of all fields can be looked at as a whole. -/
def Json.arePlainFields (depth : Nat) : List (String × Json) → Bool
  | [] => true
  | (_, value) :: rest => value.isPlain depth && Json.arePlainFields depth rest

end

/-- The spellings of nothing inside a value that has been looked at as a whole. -/
def Json.isEmptyPlain : Json → Bool
  | .null => true
  | .object [] => true
  | _ => false

namespace CombatStep

/-- The fields of a combat in JSON. -/
def toFields (step : CombatStep) : List (String × Json) :=
  [("icon", .ofOption .string step.icon), ("enemies", .array (step.enemies.map Enemy.toJson)),
    ("context", step.context.toJson)]

/-- The combat that a JSON value is. -/
def ofJson (json : Json) : Except Json.Failure CombatStep := do
  let record ← Record.ofJson ["icon", "enemies", "context"] json
  return ⟨← record.optional "icon" Json.asString,
    ← record.required "enemies" (Json.asListOf Enemy.ofJson),
    ← record.required "context" Context.ofJson⟩

end CombatStep

namespace RoleplayStep

/-- The fields of a piece of story in JSON. -/
def toFields (step : RoleplayStep) : List (String × Json) :=
  [("title", .ofOption .string step.title), ("icon", .ofOption .string step.icon),
    ("content", .array (step.content.map ContentItem.toJson)),
    ("choices", .array (step.choices.map Choice.toJson)), ("context", step.context.toJson)]

/-- The piece of story that a JSON value is. -/
def ofJson (json : Json) : Except Json.Failure RoleplayStep := do
  let record ← Record.ofJson ["title", "icon", "content", "choices", "context"] json
  return ⟨← record.optional "title" Json.asString, ← record.optional "icon" Json.asString,
    ← record.required "content" (Json.asListOf (ContentItem.ofJson Json.isEmptyPlain)),
    ← record.required "choices" (Json.asListOf Choice.ofJson),
    ← record.required "context" Context.ofJson⟩

end RoleplayStep

namespace Step

/-- A step in JSON. -/
def toJson : Step → Json
  | .combat step => .object (("type", .string "combat") :: step.toFields)
  | .roleplay step => .object (("type", .string "roleplay") :: step.toFields)
  | .trigger target kind =>
    .object [("type", .string "trigger"), ("target", .ofNat target), ("kind", .string kind.name)]

/-- The trigger that a JSON value is. -/
def triggerOfJson (json : Json) : Except Json.Failure Step := do
  let record ← Record.ofJson ["target", "kind"] json
  return .trigger (← record.required "target" Json.asCount)
    (← record.required "kind" (Json.asNameOf TriggerKind.ofName? Json.isEmptyPlain))

/-- The step of a kind whose other fields are given. -/
def ofContent (kind : Json) (content : Json) : Except Json.Failure Step :=
  match kind with
  | .string "combat" => (CombatStep.ofJson content).map .combat
  | .string "roleplay" => (RoleplayStep.ofJson content).map .roleplay
  | .string "trigger" => triggerOfJson content
  | _ => .error (.wrongForm "a kind of step")

/-- The step that a JSON value is: an object with its kind as a field, or an array that begins with
its kind. -/
def ofJson (json : Json) : Except Json.Failure Step :=
  if json.isPlain depthLimit then
    match json with
    | .object fields =>
      match fields.filter fun field => field.1 == "type" with
      | [(_, kind)] => ofContent kind (.object (fields.filter fun field => field.1 != "type"))
      | [] => .error (.missingField "type")
      | _ => .error (.repeatedField "type")
    | .array (kind :: items) => ofContent kind (.array items)
    | _ => .error (.wrongForm "a step")
  else .error (.wrongForm "plain values")

end Step

end Gamebook
