import Gamebook.Content.Rendering
import Gamebook.Play.Basic
import Gamebook.Play.Navigation
import Gamebook.Play.StateBlock
import Gamebook.Play.Step

/-! # Roleplay

A piece of story shows its paragraphs and offers its choices, all in the context after its state
block. If it has no choice of its own it offers one to go on, which says whether the quest ends.
-/

namespace Gamebook

/-- What has been found in a piece of story so far. -/
structure Page where
  content : List ContentItem
  choices : List Choice

namespace Page

/-- Nothing yet. -/
def empty : Page := ⟨[], []⟩

/-- Adds a paragraph, unless nothing of it is to be seen. -/
def addContent (page : Page) (kind : ContentKind) (text : String) : Page :=
  if text = "" then page else { page with content := page.content ++ [⟨kind, text⟩] }

/-- Adds a choice, which is taken by its number. -/
def addChoice (page : Page) (text : String) : Page :=
  { page with choices := page.choices ++ [⟨text, page.choices.length⟩] }

/-- Adds a node that takes part. -/
def add (page : Page) (context : Context) (node : Node) : Except Cause Page :=
  match node.tag with
  | .text => .ok (page.addContent .text (Content.render context node.markup))
  | .instruction => .ok (page.addContent .instruction (Content.render context node.markup))
  | .choice =>
    match (node.attribute? "text").filter fun text => !Text.allBlank text.toList with
    | some text => .ok (page.addChoice (Content.render context text))
    | none => .error .choiceWithoutText
  | .trigger => if node.isEndTrigger then .ok page else .error .roleplayTrigger
  | .event => .error .roleplayEvent
  | tag => .error (.roleplayChild tag)

end Page

/-- What the choice to go on says. -/
def goOnText (ends : Bool) : String :=
  if ends then "End" else "Next"

namespace Document

/-- Adds a child of a piece of story if it takes part. -/
def addToPage (d : Document) (context : Context) (page : Page) (child : d.Ref) : Play Page := do
  if ← d.isEnabled child context then
    match page.add context (d.node child) with
    | .ok page => return page
    | .error cause => throw (d.faultAt child cause)
  else
    return page

/-- Whether going on from a piece of story without choices ends the quest: because it holds a
trigger that does, or because the node beside it at which play goes on is one. -/
def endsAfter (d : Document) (r : d.Ref) (outer inner : Context) : Logged Bool := do
  let endsHere ← d.hasEndTrigger r inner
  let next ← d.nextSibling r outer
  return endsHere || next.any fun sibling => (d.node sibling).isEndTrigger

/-- The choices that are offered: those of the page, or else the one to go on. -/
def offered (d : Document) (r : d.Ref) (outer inner : Context) (page : Page) :
    Logged (List Choice) := do
  if page.choices.isEmpty then
    return [⟨goOnText (← d.endsAfter r outer inner), 0⟩]
  else
    return page.choices

/-- The piece of story that a node is, in a context. -/
def loadRoleplay (d : Document) (r : d.Ref) (context : Context) : Play RoleplayStep := do
  let inner ← d.updateContext r context
  let page ← (d.children r).foldlM (d.addToPage inner) Page.empty
  let choices ← d.offered r context inner page
  Play.write (.roleplayShown r.val page.content.length choices.length)
  let node := d.node r
  return ⟨node.attribute? "title", node.attribute? "icon", page.content, choices, inner⟩

end Document

end Gamebook
