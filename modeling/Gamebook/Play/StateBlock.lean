import Gamebook.Play.Visibility
import Gamebook.Text.Braces

/-! # State blocks

The texts that a card begins with set the state of play if they are made of spans alone. They are
its state block. Its assignments are made in order; a span that is no script, or fails, or has a
value to show, changes nothing.
-/

namespace Gamebook

/-- Whether a piece of text is a span. -/
def Text.Piece.isSpan : Text.Piece → Bool
  | .span _ => true
  | .literal _ => false

/-- Whether a piece of text is a span or blank. -/
def Text.Piece.isSpanOrBlank : Text.Piece → Bool
  | .span _ => true
  | .literal text => Text.allBlank text

/-- The bodies of the spans of a text. -/
def Text.spanBodies (text : List Char) : List (List Char) :=
  (Text.pieces text).filterMap fun
    | .span body => some body
    | .literal _ => none

/-- Whether a text has a span and nothing beside its spans but blanks. -/
def Text.isSpansOnly (text : List Char) : Bool :=
  (Text.pieces text).any Piece.isSpan && (Text.pieces text).all Piece.isSpanOrBlank

/-- Whether a node is a text made of spans alone. -/
def Node.isStateText (node : Node) : Bool :=
  node.tag == .text && Text.isSpansOnly node.text.toList

/-- The texts made of spans alone that a node begins with. -/
def Document.stateBlock (d : Document) (r : d.Ref) : List d.Ref :=
  (d.children r).takeWhile fun child => (d.node child).isStateText

/-- The context after one span of a state block. -/
def applyStateSpan (context : Context) (body : List Char) : Logged Context :=
  match Script.ofBody body with
  | .error _ => do
    Logged.write (.unreadableSpan (String.ofList body))
    return context
  | .ok script =>
    if script.isAssignment then
      match script.run context with
      | .ok effect => pure (effect.apply context)
      | .error failure => do
        Logged.write (.skippedAssignment (String.ofList body) failure)
        return context
    else pure context

/-- The context after one text of a state block. -/
def applyStateText (context : Context) (node : Node) : Logged Context := do
  if ← node.isEnabled context then
    (Text.spanBodies node.text.toList).foldlM applyStateSpan context
  else
    return context

/-- The context after the state block of a node. -/
def Document.updateContext (d : Document) (r : d.Ref) (context : Context) : Logged Context :=
  (d.stateBlock r).foldlM (fun context child => applyStateText context (d.node child)) context

end Gamebook
