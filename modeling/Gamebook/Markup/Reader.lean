import Gamebook.Markup.Namespace
import Gamebook.Markup.Node

/-! # Reading markup

The pieces of a text are put together with a stack of the elements that are still open. There is one
root element, and nothing but blanks, comments and instructions beside it. Texts that follow each
other directly are one text, which stands where the first of them stands.
-/

namespace Gamebook.Markup

/-- An element that is still open, with its children so far in reverse order. -/
structure Open where
  name : QualifiedName
  attributes : List (String × String)
  scope : Scope
  start : Position
  children : List Node

/-- What has been read: the open elements, innermost first, the root element once it is closed, and
whether the last piece was a text. -/
structure Progress where
  stack : List Open
  root : Option Node
  afterText : Bool

/-- The scope at the innermost open element. -/
def Progress.scope (progress : Progress) : Scope :=
  match progress.stack with
  | [] => []
  | top :: _ => top.scope

/-- Adds a text to the children of an element, which are given in reverse order. -/
def addText (joins : Bool) (content : String) (span : Span) : List Node → List Node
  | .text before first :: rest =>
    if joins then .text (before ++ content) first :: rest
    else .text content span :: .text before first :: rest
  | children => .text content span :: children

/-- Adds a text to the innermost open element. -/
def Progress.text (progress : Progress) (content : String) (span : Span) :
    Except Failure Progress :=
  match progress.stack with
  | [] => .error .contentOutsideRoot
  | top :: rest =>
    let children := addText progress.afterText content span top.children
    .ok { progress with stack := { top with children } :: rest, afterText := true }

/-- Adds a closed element to the innermost open element, or makes it the root. -/
def Progress.close (progress : Progress) (stack : List Open) (node : Node) : Progress :=
  match stack with
  | [] => { progress with stack := [], root := some node, afterText := false }
  | top :: rest =>
    { progress with
      stack := { top with children := node :: top.children } :: rest, afterText := false }

/-- Fails at a second root element. -/
def Progress.checkRoot (progress : Progress) : Except Failure Unit :=
  if progress.stack.isEmpty && progress.root.isSome then .error .secondRoot else .ok ()

/-- Reads one piece. -/
def Progress.step (progress : Progress) (placed : Placed) : Except Failure Progress :=
  match placed.piece with
  | .aside => .ok { progress with afterText := false }
  | .text raw =>
    if progress.stack.isEmpty && raw.all isSpace then .ok progress
    else
      match textContent? raw with
      | some content => progress.text content placed.span
      | none => .error .malformedReference
  | .data raw => progress.text (sectionContent raw) placed.span
  | .openTag name attributes => do
    progress.checkRoot
    let (scope, attributes) ← resolveTag progress.scope name attributes
    let opened : Open := ⟨name, attributes, scope, placed.span.start, []⟩
    .ok { progress with stack := opened :: progress.stack, afterText := false }
  | .emptyTag name attributes => do
    progress.checkRoot
    let (_, attributes) ← resolveTag progress.scope name attributes
    .ok (progress.close progress.stack
      (.element (String.ofList name.name) attributes [] placed.span))
  | .closeTag name =>
    match progress.stack with
    | [] => .error (.unmatchedTag (String.ofList name.name))
    | top :: rest =>
      if top.name = name then
        .ok (progress.close rest (.element (String.ofList name.name) top.attributes
          top.children.reverse ⟨top.start, placed.span.stop⟩))
      else .error (.unmatchedTag (String.ofList name.name))

/-- The root element, if every element is closed. -/
def Progress.finish (progress : Progress) : Except Failure Node :=
  match progress.stack, progress.root with
  | [], some root => .ok root
  | [], none => .error .missingRoot
  | _ :: _, _ => .error .unclosedElement

/-- Skips one part of the declaration at the beginning of a text: an attribute whose name begins
with `word`. -/
def declarationPart? (word : String) (text : List Char) : Option (List Char) :=
  if word.toList.isPrefixOf text then (attribute? text).map Prod.snd else none

/-- Skips blanks, of which there is at least one unless the declaration ends. -/
def declarationSpace? (text : List Char) : Option (List Char) :=
  if text.head?.any isSpace || ['?', '>'].isPrefixOf text then some (text.dropWhile isSpace)
  else none

/-- Skips the rest of the declaration after its first word: the version, then perhaps the encoding,
then perhaps whether it stands alone. -/
def afterDeclaration? (text : List Char) : Option (List Char) := do
  let start ← declarationSpace? text
  let afterVersion ← declarationSpace? (← declarationPart? "version" start)
  let afterEncoding ←
    if "encoding".toList.isPrefixOf afterVersion then
      declarationSpace? (← declarationPart? "encoding" afterVersion)
    else some afterVersion
  let afterStandalone ←
    if "standalone".toList.isPrefixOf afterEncoding then
      declarationPart? "standalone" afterEncoding
    else some afterEncoding
  match afterStandalone.dropWhile isSpace with
  | '?' :: '>' :: rest => some rest
  | _ => none

/-- The character that may stand before a text to show how it is coded. -/
def byteOrderMark : Char := Char.ofNat 0xFEFF

/-- Skips a byte order mark. -/
def afterMark (text : List Char) : List Char :=
  match text with
  | c :: rest => if c = byteOrderMark then rest else text
  | [] => []

/-- Skips the declaration that a text may begin with. -/
def body? (text : List Char) : Except Failure (List Char) :=
  if "<?xml ".toList.isPrefixOf text then
    orFail .malformedDeclaration (afterDeclaration? (text.drop "<?xml".length))
  else .ok text

/-- The root element of a marked up text. -/
def read (text : List Char) : Except Failure Node := do
  if let some c := text.find? fun c => !isAllowed c then
    throw (.forbiddenCharacter c)
  let body ← body? (afterMark text)
  let start := Position.first.after (text.take (text.length - body.length))
  let progress ← (← pieces start body).foldlM Progress.step ⟨[], none, false⟩
  progress.finish

end Gamebook.Markup
