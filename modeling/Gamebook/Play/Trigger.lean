import Gamebook.Document.Walk
import Gamebook.Fault
import Gamebook.Play.Visibility
import Gamebook.Text.Blank

/-! # Triggers

A trigger ends the quest or goes on at another node, which it names by its id. It finds that node
wherever it stands in the document.
-/

namespace Gamebook

/-- What a trigger does. -/
inductive TriggerKind where
  | finish
  | goto
deriving DecidableEq, Repr

/-- The id that a text sends play to: the word `goto`, blanks, and one word. -/
def gotoTarget? : List Char → Option (List Char)
  | 'g' :: 'o' :: 't' :: 'o' :: c :: rest =>
    let id := rest.dropWhile Text.isBlank
    if Text.isBlank c && !id.isEmpty && !id.any Text.isBlank then some id else none
  | _ => none

/-- Whether a node is a trigger that ends the quest. -/
def Node.isEndTrigger (node : Node) : Bool :=
  node.tag == .trigger && Text.trimmed node.text == "end"

namespace Document

/-- What a trigger does, and the node at which play goes on, which is the trigger itself if the
quest ends. -/
structure Trigger (d : Document) where
  target : d.Ref
  kind : TriggerKind
deriving DecidableEq

/-- A fault of a node. -/
def faultAt (d : Document) (r : d.Ref) (cause : Cause) : Fault :=
  ⟨cause, (d.node r).span⟩

/-- What a node does as a trigger. -/
def loadTrigger (d : Document) (r : d.Ref) : Except Fault d.Trigger :=
  let text := Text.trimmed (d.node r).text
  if text = "end" then .ok ⟨r, .finish⟩
  else
    match gotoTarget? text.toList with
    | none => .error (d.faultAt r (.invalidTrigger text))
    | some id =>
      match d.find? (d.top r) (String.ofList id) with
      | some target => .ok ⟨target, .goto⟩
      | none => .error (d.faultAt r (.missingTarget (String.ofList id)))

/-- Whether a node holds a trigger that ends the quest and takes part. -/
def hasEndTrigger (d : Document) (r : d.Ref) (context : Context) : Logged Bool :=
  (d.children r).anyM fun child =>
    if (d.node child).isEndTrigger then d.isEnabled child context else pure false

end Document

end Gamebook
