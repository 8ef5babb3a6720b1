import Gamebook.Content.Icon
import Gamebook.Script.Evaluation
import Gamebook.Script.Parse
import Gamebook.Text.Entity

/-! # Rendering

A text is rendered from left to right. Each span is replaced by the value of its script, or by
nothing if it only assigns, and later spans see its assignments. A span that is no script, or whose
script fails, stays as it is. What replaces a span is not looked at again for spans.
-/

namespace Gamebook.Content

/-- The script in the body of a span of markup, where some characters are written by name. -/
def spanScript (body : List Char) : Except Script.ParseFailure Script :=
  Script.ofBody (Text.decodeEntities body)

/-- What replaces a span, with the context after it. -/
def renderSpan (context : Context) (body : List Char) : List Char × Context :=
  match spanScript body with
  | .error _ => (Text.braced body, context)
  | .ok script =>
    match script.run context with
    | .error _ => (Text.braced body, context)
    | .ok effect =>
      (if script.isAssignment then [] else effect.value.text.toList, effect.apply context)

/-- What replaces pieces of text that stand one after the other. -/
def renderPieces (context : Context) : List Text.Piece → List Char
  | [] => []
  | .literal text :: rest => text ++ renderPieces context rest
  | .span body :: rest =>
    let (text, next) := renderSpan context body
    text ++ renderPieces next rest

/-- A text with its spans replaced. -/
def renderSpans (context : Context) (text : List Char) : List Char :=
  renderPieces context (Text.pieces text)

/-- A text as the reader sees it: with its spans replaced, then with icons, then trimmed. -/
def render (context : Context) (text : String) : String :=
  String.ofList (Text.trim (withIcons (renderSpans context text.toList)))

end Gamebook.Content
