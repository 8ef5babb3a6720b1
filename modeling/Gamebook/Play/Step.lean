import Gamebook.Context
import Gamebook.Play.Trigger

/-! # Steps

What a player is shown, and what an event gives to the player.
-/

namespace Gamebook

/-- An enemy of a combat. -/
structure Enemy where
  name : String
  tier : UInt32
  kind : Option String
deriving DecidableEq

/-- A choice that is offered, with the number by which it is taken. -/
structure Choice where
  text : String
  index : Nat
deriving DecidableEq

/-- Whether a paragraph tells the story or instructs the player. -/
inductive ContentKind where
  | text
  | instruction
deriving DecidableEq, Repr

/-- A paragraph that is shown. -/
structure ContentItem where
  kind : ContentKind
  text : String
deriving DecidableEq

/-- A combat, with the context in which it was entered. -/
structure CombatStep where
  icon : Option String
  enemies : List Enemy
  context : Context
deriving DecidableEq

/-- A piece of story, with the context that it leads to. -/
structure RoleplayStep where
  title : Option String
  icon : Option String
  content : List ContentItem
  choices : List Choice
  context : Context
deriving DecidableEq

/-- What comes of arriving at a card. The target of a trigger is the number of a node. -/
inductive Step where
  | combat (step : CombatStep)
  | roleplay (step : RoleplayStep)
  | trigger (target : Nat) (kind : TriggerKind)
deriving DecidableEq

/-- What an event gives to the player. What it does not mention is missing. -/
structure EventParameters where
  xp : Option Bool
  loot : Option Bool
  heal : Option Int64
deriving DecidableEq

end Gamebook
