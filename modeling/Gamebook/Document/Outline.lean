import Gamebook.Document.Walk
import Gamebook.Fault
import Gamebook.Markup.Printer
import Gamebook.Text.Blank

/-! # Reading documents

The markup of a gamebook is first turned into an outline, a tree of nodes, which fails at the first
element that may not stand where it stands. The nodes of the outline are then numbered in the order
of their opening tags, and no two of them may have the same id.
-/

namespace Gamebook

/-- A node with the outlines of the nodes within it. -/
inductive Outline where
  | branch (node : Node) (children : List Outline)

namespace Outline

/-- The name under which an attribute is kept. -/
def attributeName (name : String) : String :=
  if name = "if" then "condition" else name

/-- The attributes of a node. Of several of one name the last counts. -/
def attributeMap (attributes : List (String × String)) : NameMap String :=
  NameMap.ofList (attributes.map fun (name, value) => (attributeName name, value))

/-- The node for text that stands by itself, if there is more to it than blanks. -/
def looseText? (content : String) (span : Span) : Option Outline :=
  let text := Text.trim content.toList
  if text.isEmpty then none
  else
    let markup := String.ofList (Text.escapeText text)
    some (.branch ⟨.text, NameMap.empty, String.ofList text, markup, some span⟩ [])

/-- The node for an element that holds text. -/
def leafNode (tag : Tag) (attributes : NameMap String) (children : List Markup.Node)
    (span : Span) : Node :=
  let text := Markup.contents children
  let markup :=
    if tag.holdsMarkup then Text.trim (Markup.markups children) else Text.escapeText text
  ⟨tag, attributes, String.ofList text, String.ofList markup, some span⟩

mutual

/-- The outline for a piece of markup within a node of the kind `parent`. -/
def ofMarkup (parent : Tag) : Markup.Node → Except Fault (Option Outline)
  | .text content span => .ok (looseText? content span)
  | .element name attributes children span =>
    match Tag.ofElement? name with
    | none => .error ⟨.unknownElement name parent, some span⟩
    | some tag =>
      if tag = .quest then .error ⟨.nestedQuest, some span⟩
      else if tag.isLeaf then
        .ok (some (.branch (leafNode tag (attributeMap attributes) children span) []))
      else
        match ofMarkups tag children with
        | .error fault => .error fault
        | .ok outlines =>
          .ok (some (.branch ⟨tag, attributeMap attributes, "", "", some span⟩ outlines))

/-- The outlines for all markup within a node of the kind `parent`. -/
def ofMarkups (parent : Tag) : List Markup.Node → Except Fault (List Outline)
  | [] => .ok []
  | first :: rest =>
    match ofMarkup parent first with
    | .error fault => .error fault
    | .ok found =>
      match ofMarkups parent rest with
      | .error fault => .error fault
      | .ok others => .ok (found.toList ++ others)

end

/-- The outline of a gamebook, given its root element. -/
def ofRoot : Markup.Node → Except Fault Outline
  | .text _ span => .error ⟨.rootNotQuest "", some span⟩
  | .element name attributes children span =>
    if Tag.ofElement? name = some .quest then
      match ofMarkups .quest children with
      | .error fault => .error fault
      | .ok outlines => .ok (.branch ⟨.quest, attributeMap attributes, "", "", some span⟩ outlines)
    else .error ⟨.rootNotQuest name, some span⟩

end Outline

namespace Document

/-- A document with at least the nodes of another, under the same numbers. -/
abbrev Grown (d : Document) := { grown : Document // d.entries.size ≤ grown.entries.size }

/-- The document with nothing added. -/
def Grown.same (d : Document) : Grown d := ⟨d, Nat.le_refl _⟩

mutual

/-- Adds an outline as the last child of a node. -/
def graft (d : Document) (parent : d.Ref) : Outline → Grown d
  | .branch node children =>
    let one := d.append parent node
    have hsize := d.size_append parent node
    have hlast : d.entries.size < one.entries.size := hsize ▸ Nat.lt_succ_self _
    let all := graftAll one ⟨d.entries.size, hlast⟩ children
    ⟨all.val, Nat.le_trans (Nat.le_of_lt hlast) all.property⟩

/-- Adds outlines one after the other as the last children of a node. -/
def graftAll (d : Document) (parent : d.Ref) : List Outline → Grown d
  | [] => Grown.same d
  | first :: rest =>
    let one := graft d parent first
    let all := graftAll one.val ⟨parent, Nat.lt_of_lt_of_le parent.isLt one.property⟩ rest
    ⟨all.val, Nat.le_trans one.property all.property⟩

end

/-- The document that numbers the nodes of an outline in the order of their opening tags. -/
def ofOutline : Outline → Document
  | .branch node children => (graftAll (single node) (single node).root children).val

/-- The first id that a node shares with a node before it, with the place of the later node. -/
def repeatedId? (seen : List String) : List Node → Option (String × Option Span)
  | [] => none
  | node :: rest =>
    match node.id? with
    | none => repeatedId? seen rest
    | some id => if seen.contains id then some (id, node.span) else repeatedId? (id :: seen) rest

/-- The document, unless two of its nodes have the same id. -/
def withDistinctIds (d : Document) : Except Fault Document :=
  match repeatedId? [] ((d.descendants d.root).map d.node) with
  | some (id, span) => .error ⟨.repeatedId id, span⟩
  | none => .ok d

/-- The document whose root element is given. -/
def ofRoot (root : Markup.Node) : Except Fault Document := do
  (ofOutline (← Outline.ofRoot root)).withDistinctIds

/-- The quest attributes, such as its title. -/
def metadata (d : Document) : NameMap String :=
  (d.node d.root).attributes

end Document

end Gamebook
