import Gamebook.Text.CaseTable

/-! # Small letters

`lowercase` writes a text in small letters. Each capital has its own small letter, with two
exceptions: the dotted capital I becomes an i with a dot of its own, and a capital sigma at the end
of a word becomes the final form of the letter.
-/

namespace Gamebook.Text

/-- The small letter that the runs, which stand in increasing order, give to a code point. -/
def CapitalRun.small : List CapitalRun → Nat → Option Nat
  | [], _ => none
  | run :: rest, code =>
    if code ≤ run.last then
      if run.first ≤ code && (code - run.first) % run.stride == 0 then
        some (Int.toNat (code + run.shift))
      else
        none
    else
      CapitalRun.small rest code

/-- The small letters for one character, wherever it stands. -/
def smallLetters (c : Char) : List Char :=
  if c.toNat < 0x80 then [c.toLower]
  else if c.toNat = 0x130 then ['i', Char.ofNat 0x307]
  else match CapitalRun.small capitalRuns c.toNat with
    | some code => [Char.ofNat code]
    | none => [c]

/-- Whether the first character that decides about case is a letter with case. -/
def meetsCased (cs : List Char) : Bool :=
  match cs.dropWhile (CodeRange.covers caseIgnorableRanges) with
  | [] => false
  | c :: _ => CodeRange.covers casedRanges c

/-- The capital sigma. -/
def capitalSigma : Char := Char.ofNat 0x3A3

/-- The small letters for a text that stands after `before`, which is given last character first. -/
def lowercaseAfter (before : List Char) : List Char → List Char
  | [] => []
  | c :: rest =>
    let small :=
      if c = capitalSigma then
        [Char.ofNat (if meetsCased before && !meetsCased rest then 0x3C2 else 0x3C3)]
      else
        smallLetters c
    small ++ lowercaseAfter (c :: before) rest

/-- The string in small letters. -/
def lowercase (s : String) : String :=
  String.ofList (lowercaseAfter [] s.toList)

/-- The string with its ASCII capitals in small letters. -/
def lowercaseAscii (s : String) : String :=
  String.ofList (s.toList.map Char.toLower)

end Gamebook.Text
