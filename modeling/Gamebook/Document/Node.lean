import Gamebook.Document.Tag
import Gamebook.NameMap
import Gamebook.Source

/-! # Nodes

A node of a gamebook is what its element says, apart from the nodes around it.
-/

namespace Gamebook

/-- One node. The text is without markup and is what scripts are read from; the markup is what the
reader is shown. -/
structure Node where
  tag : Tag
  attributes : NameMap String
  text : String
  markup : String
  span : Option Span
deriving DecidableEq

namespace Node

/-- A node of a kind with nothing else to it. -/
def bare (tag : Tag) : Node :=
  ⟨tag, NameMap.empty, "", "", none⟩

/-- The value of an attribute. -/
def attribute? (node : Node) (name : String) : Option String :=
  node.attributes.get? name

/-- The name by which other nodes refer to the node. -/
def id? (node : Node) : Option String :=
  node.attribute? "id"

/-- The outcome that an event is for. -/
def outcome? (node : Node) : Option String :=
  node.attribute? "on"

/-- The condition under which the node takes part. -/
def condition? (node : Node) : Option String :=
  node.attribute? "condition"

end Node

end Gamebook
