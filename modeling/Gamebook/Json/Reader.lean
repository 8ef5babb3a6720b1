import Gamebook.Json.Numeral

/-! # Reading JSON

A text is cut into tokens, and the tokens are read from left to right with a stack of the arrays and
objects that are still open. Blanks may stand between tokens; nothing but blanks may follow the
value. There is no bound on how deep values are nested.
-/

namespace Gamebook.Json

/-- Why a text is not the JSON that was asked for. -/
inductive Failure where
  | unexpectedCharacter (c : Char)
  | unexpectedEnd
  | controlCharacter
  | invalidEscape
  | invalidNumber (literal : String)
  | misplaced
  | wrongForm (expected : String)
  | missingField (name : String)
  | repeatedField (name : String)
deriving DecidableEq

/-- The text of a failure in messages. -/
def Failure.message : Failure → String
  | .unexpectedCharacter c => "unexpected character " ++ stringOf c
  | .unexpectedEnd => "unexpected end of text"
  | .controlCharacter => "control character in a string"
  | .invalidEscape => "invalid escape in a string"
  | .invalidNumber literal => "invalid number " ++ literal
  | .misplaced => "a value, name or separator stands where none may stand"
  | .wrongForm expected => "expected " ++ expected
  | .missingField name => "missing field " ++ name
  | .repeatedField name => "repeated field " ++ name
where
  /-- One character as a string. -/
  stringOf (c : Char) : String := String.ofList [c]

/-- A part of a string: a character, or a number of sixteen bits given by an escape. -/
inductive StringPart where
  | char (c : Char)
  | unit (n : Nat)
deriving DecidableEq

/-- The value of four hexadecimal digits. -/
def hexUnit? (a b c d : Char) : Option Nat := do
  let high := 16 * (← Number.hexValue? a) + (← Number.hexValue? b)
  let low := 16 * (← Number.hexValue? c) + (← Number.hexValue? d)
  return 256 * high + low

/-- The character that a backslash and a letter stand for. -/
def simpleEscape? (c : Char) : Option Char :=
  match c with
  | '"' => some '"'
  | '\\' => some '\\'
  | '/' => some '/'
  | 'b' => some (Char.ofNat 8)
  | 'f' => some (Char.ofNat 12)
  | 'n' => some '\n'
  | 'r' => some '\r'
  | 't' => some '\t'
  | _ => none

/-- The parts of a string up to its closing quote, with what follows it. -/
def closeString : List Char → Except Failure (List StringPart × List Char)
  | [] => .error .unexpectedEnd
  | '"' :: rest => .ok ([], rest)
  | '\\' :: 'u' :: a :: b :: c :: d :: rest => do
    let some unit := hexUnit? a b c d | .error .invalidEscape
    let (parts, after) ← closeString rest
    .ok (.unit unit :: parts, after)
  | '\\' :: letter :: rest => do
    let some char := simpleEscape? letter | .error .invalidEscape
    let (parts, after) ← closeString rest
    .ok (.char char :: parts, after)
  | char :: rest =>
    if char.toNat < 0x20 then .error .controlCharacter
    else if char = '\\' then .error .unexpectedEnd
    else do
      let (parts, after) ← closeString rest
      .ok (.char char :: parts, after)

/-- Whether a number of sixteen bits is the first half of a character. -/
def isHighHalf (n : Nat) : Bool :=
  0xD800 ≤ n && n < 0xDC00

/-- Whether a number of sixteen bits is the second half of a character. -/
def isLowHalf (n : Nat) : Bool :=
  0xDC00 ≤ n && n < 0xE000

/-- The characters that the parts of a string stand for, if all halves stand in pairs. -/
def joinParts? : List StringPart → Option (List Char)
  | [] => some []
  | .char c :: rest => (joinParts? rest).map (c :: ·)
  | .unit high :: .unit low :: rest =>
    if isHighHalf high then
      if isLowHalf low then
        (joinParts? rest).map (Char.ofNat (0x10000 + (high - 0xD800) * 0x400 + (low - 0xDC00)) :: ·)
      else none
    else if isLowHalf high then none
    else (joinParts? (.unit low :: rest)).map (Char.ofNat high :: ·)
  | .unit n :: rest =>
    if isHighHalf n || isLowHalf n then none
    else (joinParts? rest).map (Char.ofNat n :: ·)

/-- The smallest parts of a JSON text. A string is `none` if it cannot be decoded. -/
inductive Token where
  | openArray | closeArray
  | openObject | closeObject
  | comma | colon
  | string (s : Option String)
  | literal (value : Json)

/-- The characters that a number or a word may be made of. -/
def continuesLiteral (c : Char) : Bool :=
  c.isAlphanum || c == '-' || c == '+' || c == '.'

/-- The value that a number or a word is. -/
def literal? (text : List Char) : Except Failure Json :=
  if text = "null".toList then .ok .null
  else if text = "true".toList then .ok (.boolean true)
  else if text = "false".toList then .ok (.boolean false)
  else if (Numeral.ofText? text).isSome then .ok (.number (String.ofList text))
  else .error (.invalidNumber (String.ofList text))

/-- The first token of a text that begins with the character `c`, with what follows it. -/
def lex (c : Char) (rest : List Char) : Except Failure (Token × List Char) :=
  match c with
  | '[' => .ok (.openArray, rest)
  | ']' => .ok (.closeArray, rest)
  | '{' => .ok (.openObject, rest)
  | '}' => .ok (.closeObject, rest)
  | ',' => .ok (.comma, rest)
  | ':' => .ok (.colon, rest)
  | '"' =>
    match closeString rest with
    | .ok (parts, after) => .ok (.string ((joinParts? parts).map String.ofList), after)
    | .error failure => .error failure
  | _ =>
    if continuesLiteral c then
      match literal? (c :: rest.takeWhile continuesLiteral) with
      | .ok value => .ok (.literal value, rest.dropWhile continuesLiteral)
      | .error failure => .error failure
    else .error (.unexpectedCharacter c)

theorem length_of_closeString {cs after : List Char} {parts : List StringPart}
    (h : closeString cs = .ok (parts, after)) : after.length ≤ cs.length := by
  fun_induction closeString cs generalizing parts <;> simp_all [bind, Except.bind] <;> grind

theorem length_of_lex {c : Char} {rest after : List Char} {token : Token}
    (h : lex c rest = .ok (token, after)) : after.length ≤ rest.length := by
  unfold lex at h
  split at h
  case h_7 =>
    split at h
    · next hclose => cases h; exact length_of_closeString hclose
    · cases h
  case h_8 =>
    split at h
    · split at h
      · cases h; exact (List.dropWhile_sublist _).length_le
      · cases h
    · cases h
  all_goals cases h; exact Nat.le_refl _

/-- The characters that may stand between tokens. -/
def isSpace (c : Char) : Bool :=
  c == ' ' || c == '\n' || c == '\t' || c == '\r'

/-- The tokens of a text. -/
def scan : List Char → Except Failure (List Token)
  | [] => .ok []
  | c :: rest =>
    if isSpace c then scan rest
    else
      match _h : lex c rest with
      | .error failure => .error failure
      | .ok (token, after) => (scan after).map (token :: ·)
termination_by cs => cs.length
decreasing_by
  · simp
  · exact Nat.lt_succ_of_le (length_of_lex _h)

/-- An array or object that is still open, with what it holds so far in reverse order. Names are
`none` if they cannot be decoded. -/
inductive Open where
  | array (items : List Json)
  | field (fields : List (Option String × Json)) (name : Option String)

/-- What has been read, and so what may follow. -/
inductive Progress where
  | beforeValue (stack : List Open)
  | openedArray (stack : List Open)
  | openedObject (stack : List Open)
  | beforeName (stack : List Open) (fields : List (Option String × Json))
  | afterName (stack : List Open) (fields : List (Option String × Json)) (name : Option String)
  | afterValue (stack : List Open) (value : Json)

/-- The object with the fields, which are given in reverse order. -/
def ofFields (fields : List (Option String × Json)) : Json :=
  match fields.reverse.mapM fun (name, value) => name.map (·, value) with
  | some decoded => .object decoded
  | none => .undecodable

/-- Reads a token where a value must follow. -/
def stepValue (stack : List Open) : Token → Except Failure Progress
  | .literal value => .ok (.afterValue stack value)
  | .string (some s) => .ok (.afterValue stack (.string s))
  | .string none => .ok (.afterValue stack .undecodable)
  | .openArray => .ok (.openedArray stack)
  | .openObject => .ok (.openedObject stack)
  | _ => .error .misplaced

/-- Reads one token. -/
def Progress.step : Progress → Token → Except Failure Progress
  | .beforeValue stack, token => stepValue stack token
  | .openedArray stack, .closeArray => .ok (.afterValue stack (.array []))
  | .openedArray stack, token => stepValue (.array [] :: stack) token
  | .openedObject stack, .closeObject => .ok (.afterValue stack (.object []))
  | .openedObject stack, .string name => .ok (.afterName stack [] name)
  | .beforeName stack fields, .string name => .ok (.afterName stack fields name)
  | .afterName stack fields name, .colon => .ok (.beforeValue (.field fields name :: stack))
  | .afterValue (.array items :: stack) value, .comma =>
    .ok (.beforeValue (.array (value :: items) :: stack))
  | .afterValue (.array items :: stack) value, .closeArray =>
    .ok (.afterValue stack (.array (value :: items).reverse))
  | .afterValue (.field fields name :: stack) value, .comma =>
    .ok (.beforeName stack ((name, value) :: fields))
  | .afterValue (.field fields name :: stack) value, .closeObject =>
    .ok (.afterValue stack (ofFields ((name, value) :: fields)))
  | _, _ => .error .misplaced

/-- The value that has been read, if nothing is open. -/
def Progress.finish : Progress → Except Failure Json
  | .afterValue [] value => .ok value
  | _ => .error .unexpectedEnd

/-- The value that a text is. -/
def ofChars (text : List Char) : Except Failure Json := do
  let tokens ← scan text
  (← tokens.foldlM Progress.step (.beforeValue [])).finish

/-- The value that a text is. -/
def ofText (text : String) : Except Failure Json :=
  ofChars text.toList

end Gamebook.Json
