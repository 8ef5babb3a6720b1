import Gamebook.Text.Split

/-! # Double braces

Texts hold scripts between double braces. `pieces` cuts a text into its spans, each from the first
double opening brace that is left to the first double closing brace after it, and the literal text
around them. `flatten_pieces` says that the pieces put together again are the text.
-/

namespace Gamebook.Text

/-- What opens a span. -/
def openBraces : List Char := ['{', '{']

/-- What closes a span. -/
def closeBraces : List Char := ['}', '}']

/-- What stands between double braces at the two ends of a text. -/
def unbraced? : List Char → Option (List Char)
  | '{' :: '{' :: rest =>
    match rest.reverse with
    | '}' :: '}' :: inner => some inner.reverse
    | _ => none
  | _ => none

/-- A part of a text that may hold scripts. -/
inductive Piece where
  | literal (text : List Char)
  | span (body : List Char)
deriving DecidableEq, Repr

/-- A span as it stands in the text. -/
def braced (body : List Char) : List Char :=
  openBraces ++ body ++ closeBraces

/-- A piece as it stands in the text. -/
def Piece.source : Piece → List Char
  | .literal text => text
  | .span body => braced body

/-- The parts of a text: literal text and spans in turn, beginning and ending with a literal text
that may be empty. -/
def pieces (text : List Char) : List Piece :=
  match _opening : splitText openBraces text with
  | none => [.literal text]
  | some (before, rest) =>
    match _closing : splitText closeBraces rest with
    | none => [.literal text]
    | some (body, after) => .literal before :: .span body :: pieces after
termination_by text.length
decreasing_by
  have hopening := length_of_splitText _opening
  have hclosing := length_of_splitText _closing
  simp only [openBraces, closeBraces, List.length_cons, List.length_nil] at hopening hclosing
  omega

/-- The pieces of a text put together again are the text. -/
theorem flatten_pieces (text : List Char) : (pieces text).flatMap Piece.source = text := by
  fun_induction pieces text with
  | case1 text => simp [Piece.source]
  | case2 text => simp [Piece.source]
  | case3 text before rest opening body after closing ih =>
    rw [List.flatMap_cons, List.flatMap_cons, ih]
    rw [eq_append_of_splitText opening, eq_append_of_splitText closing]
    simp [Piece.source, braced]

end Gamebook.Text
