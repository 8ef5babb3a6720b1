import Gamebook.Proofs.Text.Blanks
import Gamebook.Script.Parse

/-! # Tokens as text

A token is written with a lexeme: a name or a number as it is, a string with quotes around it and a
backslash before each quote and backslash in it. Lexemes with blanks between them are cut into the
tokens again (`scan_of_spaced`), and nothing is trimmed from such a text nor taken for braces around
it (`ofText_of_spaced`).
-/

namespace Gamebook.Text

theorem isLetter_eq_false_of_isBlank {c : Char} (h : isBlank c = true) : isLetter c = false :=
  covers_eq_false (by decide +kernel) (mem_blankCodes h)

theorem isNumeral_eq_false_of_isBlank {c : Char} (h : isBlank c = true) : isNumeral c = false :=
  covers_eq_false (by decide +kernel) (mem_blankCodes h)

theorem toNat_of_isDigit {c : Char} (h : c.isDigit = true) : 48 ≤ c.toNat ∧ c.toNat ≤ 57 := by
  simp only [Char.isDigit, Bool.and_eq_true, decide_eq_true_eq] at h
  exact ⟨UInt32.le_iff_toNat_le.1 h.1, UInt32.le_iff_toNat_le.1 h.2⟩

theorem toLower_of_isDigit {c : Char} (h : c.isDigit = true) : c.toLower = c := by
  refine dif_neg fun hupper => ?_
  have hcode : 65 ≤ c.toNat := UInt32.le_iff_toNat_le.1 hupper.1
  have hrange := toNat_of_isDigit h
  omega

theorem isLetter_eq_false_of_isDigit {c : Char} (h : c.isDigit = true) : isLetter c = false := by
  have hrange := toNat_of_isDigit h
  have hcode : c.toNat ∈ List.range' 48 10 := by
    rw [List.mem_range'_1]
    omega
  exact covers_eq_false (by decide +kernel) hcode

theorem isBlank_eq_false_of_isDigit {c : Char} (h : c.isDigit = true) : isBlank c = false := by
  have hrange := toNat_of_isDigit h
  simp only [isBlank, Bool.or_eq_false_iff, Bool.and_eq_false_iff, decide_eq_false_iff_not,
    beq_eq_false_iff_ne]
  omega

end Gamebook.Text

namespace Gamebook.Number

/-- Digits, perhaps with a point and further digits behind it. -/
def isDecimal (cs : List Char) : Bool :=
  !(cs.takeWhile Char.isDigit).isEmpty &&
    match cs.dropWhile Char.isDigit with
    | [] => true
    | '.' :: fraction => !fraction.isEmpty && fraction.all Char.isDigit
    | _ => false

end Gamebook.Number

namespace Gamebook.Script

open Number (isDecimal)

/-- A text that the scanner takes for one word. -/
def isName : List Char → Bool
  | [] => false
  | first :: rest => startsWord first && rest.all continuesWord

/-- How a character of a string is written between double quotes. -/
def escapedChar (c : Char) : List Char :=
  if c = '"' ∨ c = '\\' then ['\\', c] else [c]

/-- A string in double quotes. -/
def stringText (s : String) : List Char :=
  '"' :: s.toList.flatMap escapedChar ++ ['"']

/-- What a token is written with, where `decimal` is the text that is taken for a number. -/
def Token.lexeme (decimal : Float → List Char) : Token → List Char
  | .number x => decimal x
  | .string s => stringText s
  | .word name => name.toList
  | .assign => ['=']
  | .eq => ['=', '=']
  | .ne => ['!', '=']
  | .lt => ['<']
  | .gt => ['>']
  | .le => ['<', '=']
  | .ge => ['>', '=']
  | .plus => ['+']
  | .minus => ['-']
  | .star => ['*']
  | .slash => ['/']
  | .percent => ['%']
  | .bang => ['!']
  | .andAnd => ['&', '&']
  | .orOr => ['|', '|']
  | .leftParen => ['(']
  | .rightParen => [')']
  | .semicolon => [';']

/-- The text for a number is a decimal that reads back as the number. -/
def ReadsBack (decimal : Float → List Char) (x : Float) : Prop :=
  isDecimal (decimal x) = true ∧ Number.readDouble? (decimal x) = some x

/-- A token has a lexeme: a word is a name, and the text for a number reads back. -/
def Token.Writable (decimal : Float → List Char) : Token → Prop
  | .number x => ReadsBack decimal x
  | .word name => isName name.toList = true
  | _ => True

/-- Lexemes of tokens with blanks between them. -/
inductive Spaced (decimal : Float → List Char) : List Token → List Char → Prop where
  | single (token : Token) : Spaced decimal [token] (token.lexeme decimal)
  | cons (token : Token) {gap text : List Char} {tokens : List Token} (hne : gap ≠ [])
      (hgap : ∀ c ∈ gap, Text.isBlank c = true) (hrest : Spaced decimal tokens text) :
      Spaced decimal (token :: tokens) (token.lexeme decimal ++ gap ++ text)

/-- The lexemes of tokens with one space between them. -/
def lineOf (decimal : Float → List Char) : List Token → List Char
  | [] => []
  | [token] => token.lexeme decimal
  | token :: next :: rest => token.lexeme decimal ++ [' '] ++ lineOf decimal (next :: rest)

/-- Nothing or a blank follows a lexeme. -/
def EndsLexeme (after : List Char) : Prop :=
  ∀ c ∈ after.head?, Text.isBlank c = true

/-- A text with visible ends is cut off as one token before a blank and at the end. -/
structure Lexes (token : Token) (first : Char) (rest : List Char) : Prop where
  first_visible : Text.isBlank first = false
  first_ne_brace : first ≠ '{'
  last_visible : ∀ c ∈ (first :: rest).getLast?, Text.isBlank c = false
  cut : ∀ after, EndsLexeme after → lex first (rest ++ after) = .ok (token, after)

variable {decimal : Float → List Char} {token : Token} {tokens : List Token}
  {after text : List Char}

/-! ## Characters -/

theorem continuesWord_eq_false_of_isBlank {c : Char} (h : Text.isBlank c = true) :
    continuesWord c = false := by
  have hunderscore : c ≠ '_' := by
    rintro rfl
    exact absurd h (by decide)
  simp [continuesWord, Text.isLetter_eq_false_of_isBlank h, Text.isNumeral_eq_false_of_isBlank h,
    hunderscore]

theorem isBlank_eq_false_of_continuesNumber {c : Char} (h : continuesNumber c = true) :
    Text.isBlank c = false := by
  rcases Bool.or_eq_true_iff.1 h with hdigit | hpoint
  · exact Text.isBlank_eq_false_of_isDigit hdigit
  · rw [beq_iff_eq.1 hpoint]
    decide

theorem continuesNumber_eq_false_of_isBlank {c : Char} (h : Text.isBlank c = true) :
    continuesNumber c = false := by
  rw [Bool.eq_false_iff]
  intro hnumber
  rw [isBlank_eq_false_of_continuesNumber hnumber] at h
  cases h

theorem continuesWord_of_startsWord {c : Char} (h : startsWord c = true) :
    continuesWord c = true := by
  rcases Bool.or_eq_true_iff.1 h with hletter | hunderscore
  · simp [continuesWord, hletter]
  · simp [continuesWord, hunderscore]

theorem isBlank_eq_false_of_continuesWord {c : Char} (h : continuesWord c = true) :
    Text.isBlank c = false := by
  rw [Bool.eq_false_iff]
  intro hblank
  rw [continuesWord_eq_false_of_isBlank hblank] at h
  cases h

theorem startsNumber_eq_false {c : Char} (hdigit : c.isDigit = false) (hpoint : c ≠ '.')
    (rest : List Char) : startsNumber c rest = false := by
  simp [startsNumber, hdigit, hpoint]

theorem startsNumber_eq_false_of_startsWord {c : Char} (h : startsWord c = true)
    (rest : List Char) : startsNumber c rest = false := by
  have hdigit : c.isDigit = false := by
    rw [Bool.eq_false_iff]
    intro hdigit
    rcases Bool.or_eq_true_iff.1 h with hletter | hunderscore
    · rw [Text.isLetter_eq_false_of_isDigit hdigit] at hletter
      cases hletter
    · rw [beq_iff_eq.1 hunderscore] at hdigit
      exact absurd hdigit (by decide)
  refine startsNumber_eq_false hdigit ?_ rest
  rintro rfl
  revert h
  decide +kernel

theorem takeWhile_append_of_ends {p : Char → Bool} {cs : List Char} (hcs : ∀ c ∈ cs, p c = true)
    (hafter : ∀ c ∈ after.head?, p c = false) :
    (cs ++ after).takeWhile p = cs ∧ (cs ++ after).dropWhile p = after := by
  rw [List.takeWhile_append_of_pos hcs, List.dropWhile_append_of_pos hcs]
  cases after with
  | nil => simp
  | cons c rest => simp [hafter c rfl]

/-! ## Words, numbers, strings and signs -/

theorem lexes_name {first : Char} {rest : List Char} (h : isName (first :: rest) = true) :
    Lexes (.word (String.ofList (first :: rest))) first rest := by
  obtain ⟨hfirst, hrest⟩ := Bool.and_eq_true_iff.1 h
  have hall : ∀ c ∈ first :: rest, continuesWord c = true := by
    intro c hc
    rcases List.mem_cons.1 hc with rfl | hc
    · exact continuesWord_of_startsWord hfirst
    · exact List.all_eq_true.1 hrest c hc
  refine ⟨isBlank_eq_false_of_continuesWord (hall first List.mem_cons_self), ?_, ?_, ?_⟩
  · rintro rfl
    revert hfirst
    decide +kernel
  · exact fun c hc => isBlank_eq_false_of_continuesWord (hall c (List.mem_of_getLast? hc))
  · intro after hafter
    obtain ⟨htake, hdrop⟩ := takeWhile_append_of_ends (List.all_eq_true.1 hrest)
      fun d hd => continuesWord_eq_false_of_isBlank (hafter d hd)
    rw [lex, startsNumber_eq_false_of_startsWord hfirst, if_neg Bool.false_ne_true,
      if_pos hfirst, htake, hdrop]

theorem exists_of_isDecimal {cs : List Char} (h : isDecimal cs = true) :
    ∃ first rest, cs = first :: rest ∧ first.isDigit = true ∧
      ∀ c ∈ first :: rest, continuesNumber c = true := by
  obtain ⟨hwhole, hfraction⟩ := Bool.and_eq_true_iff.1 h
  have hall : ∀ c ∈ cs, continuesNumber c = true := by
    intro c hc
    rw [← List.takeWhile_append_dropWhile (p := Char.isDigit) (l := cs), List.mem_append] at hc
    rcases hc with hc | hc
    · have hdigit := List.all_eq_true.1 (List.all_takeWhile (p := Char.isDigit) (l := cs)) c hc
      simp [continuesNumber, hdigit]
    · split at hfraction
      next heq =>
        rw [heq] at hc
        cases hc
      next fraction heq =>
        rw [heq] at hc
        rcases List.mem_cons.1 hc with rfl | hc
        · rfl
        · have hdigits := (Bool.and_eq_true_iff.1 hfraction).2
          simp [continuesNumber, List.all_eq_true.1 hdigits c hc]
      next => cases hfraction
  cases cs with
  | nil => cases hwhole
  | cons first rest =>
      refine ⟨first, rest, rfl, ?_, hall⟩
      rw [← Bool.not_eq_false]
      intro hdigit
      rw [List.takeWhile_cons_of_neg (by simp [hdigit])] at hwhole
      cases hwhole

/-- A decimal is read without a sign, a name of a number or an exponent. -/
theorem readDouble?_of_isDecimal {cs : List Char} (h : isDecimal cs = true) :
    Number.readDouble? cs =
      (Number.readDecimal? cs).map fun decimal => Number.nearest decimal.1 decimal.2 := by
  obtain ⟨first, rest, rfl, hdigit, hall⟩ := exists_of_isDecimal h
  have hsign : Number.splitSign (first :: rest) = (false, first :: rest) := by
    rw [Number.splitSign]
    · intro _ heq
      cases heq
      exact absurd hdigit (by decide)
    · intro _ heq
      cases heq
      exact absurd hdigit (by decide)
  have hword (letter : Char) (letters : List Char) (hletter : letter.isDigit = false) :
      (first :: rest).map Char.toLower ≠ letter :: letters := by
    rw [List.map_cons, Text.toLower_of_isDigit hdigit]
    intro heq
    cases heq
    rw [hdigit] at hletter
    cases hletter
  have hmark : ∀ c ∈ first :: rest, (!(c == 'e' || c == 'E')) = true := by
    intro c hc
    have hnumber := hall c hc
    have hletters : c ≠ 'e' ∧ c ≠ 'E' := by
      constructor
      · rintro rfl
        exact absurd hnumber (by decide)
      · rintro rfl
        exact absurd hnumber (by decide)
    simp [hletters]
  obtain ⟨htake, hdrop⟩ := @takeWhile_append_of_ends [] _ _ hmark (by simp)
  rw [List.append_nil] at htake hdrop
  have hscientific : Number.readScientific? (first :: rest) =
      (Number.readDecimal? (first :: rest)).map fun decimal =>
        Number.nearest decimal.1 decimal.2 := by
    simp only [Number.readScientific?, htake, hdrop]
    cases Number.readDecimal? (first :: rest) <;> rfl
  have hinf : (first :: rest).map Char.toLower ≠ "inf".toList := hword 'i' _ rfl
  have hinfinity : (first :: rest).map Char.toLower ≠ "infinity".toList := hword 'i' _ rfl
  have hnan : (first :: rest).map Char.toLower ≠ "nan".toList := hword 'n' _ rfl
  simp only [Number.readDouble?, hsign, hinf, hinfinity, hnan, hscientific, decide_false,
    Bool.or_self, Bool.false_eq_true, if_false]
  cases Number.readDecimal? (first :: rest) <;> rfl

theorem lexes_number {x : Float} {first : Char} {rest : List Char}
    (hdecimal : isDecimal (first :: rest) = true)
    (hread : Number.readDouble? (first :: rest) = some x) : Lexes (.number x) first rest := by
  obtain ⟨_, _, heq, hdigit, hall⟩ := exists_of_isDecimal hdecimal
  cases heq
  refine ⟨Text.isBlank_eq_false_of_isDigit hdigit, ?_, ?_, ?_⟩
  · rintro rfl
    exact absurd hdigit (by decide)
  · exact fun c hc => isBlank_eq_false_of_continuesNumber (hall c (List.mem_of_getLast? hc))
  · intro after hafter
    obtain ⟨htake, hdrop⟩ := takeWhile_append_of_ends
      (fun c hc => hall c (List.mem_cons_of_mem _ hc))
      fun d hd => continuesNumber_eq_false_of_isBlank (hafter d hd)
    rw [readDouble?_of_isDecimal hdecimal] at hread
    obtain ⟨⟨coefficient, exponent⟩, hparts, rfl⟩ := Option.map_eq_some_iff.1 hread
    have hstarts : startsNumber first (rest ++ after) = true := by
      simp [startsNumber, hdigit]
    rw [lex, if_pos hstarts, htake, hdrop]
    dsimp only
    rw [hparts]

theorem closeString_escapedChar (c : Char) (rest : List Char) :
    closeString '"' (escapedChar c ++ rest) =
      (closeString '"' rest).map fun (value, after) => (c :: value, after) := by
  by_cases hescape : c = '"' ∨ c = '\\'
  · rw [escapedChar, if_pos hescape, List.cons_append, List.singleton_append, closeString,
      if_neg (by decide)]
  · rw [not_or] at hescape
    rw [escapedChar, if_neg (by simp [hescape]), List.singleton_append, closeString,
      if_neg hescape.1]
    rintro _ _ rfl
    exact absurd rfl hescape.2

theorem closeString_flatMap (cs after : List Char) :
    closeString '"' (cs.flatMap escapedChar ++ '"' :: after) = some (cs, after) := by
  induction cs with
  | nil => rfl
  | cons c cs ih =>
      rw [List.flatMap_cons, List.append_assoc, closeString_escapedChar, ih]
      rfl

theorem lexes_string (s : String) :
    Lexes (.string s) '"' (s.toList.flatMap escapedChar ++ ['"']) := by
  refine ⟨by decide, by decide, ?_, ?_⟩
  · intro c hc
    rw [← List.cons_append, List.getLast?_append, List.getLast?_singleton, Option.some_or] at hc
    cases hc
    decide
  · intro after _
    have hclose := closeString_flatMap s.toList after
    have hword : startsWord '"' = false := by decide +kernel
    rw [lex, startsNumber_eq_false (by decide) (by decide), if_neg Bool.false_ne_true,
      if_neg (by simp [hword]), if_pos (Or.inl rfl), List.append_assoc, List.singleton_append,
      hclose]
    dsimp only
    rw [String.ofList_toList]

/-- The characters that signs are made of. -/
def signChars : List Char :=
  ['=', '!', '<', '>', '+', '-', '*', '/', '%', '&', '|', '(', ')', ';']

theorem of_mem_signChars {c : Char} (h : c ∈ signChars) :
    Text.isBlank c = false ∧ c.isDigit = false ∧ c ≠ '.' ∧ startsWord c = false ∧ c ≠ '{' ∧
      ¬ (c = '"' ∨ c = '\'') := by
  have hall : signChars.all (fun c => decide (Text.isBlank c = false ∧ c.isDigit = false ∧ c ≠ '.' ∧
      startsWord c = false ∧ c ≠ '{' ∧ ¬ (c = '"' ∨ c = '\''))) = true := by
    decide +kernel
  exact of_decide_eq_true (List.all_eq_true.1 hall c h)

theorem lexes_sign {first : Char} {rest : List Char} (hfirst : first ∈ signChars)
    (hrest : ∀ c ∈ rest, c ∈ signChars)
    (hsign : ∀ after, EndsLexeme after → sign? (first :: (rest ++ after)) = some (token, after)) :
    Lexes token first rest := by
  obtain ⟨hblank, hdigit, hpoint, hword, hbrace, hquote⟩ := of_mem_signChars hfirst
  refine ⟨hblank, hbrace, ?_, ?_⟩
  · intro c hc
    rcases List.mem_cons.1 (List.mem_of_getLast? hc) with rfl | hc
    · exact hblank
    · exact (of_mem_signChars (hrest c hc)).1
  · intro after hafter
    rw [lex, startsNumber_eq_false hdigit hpoint, if_neg Bool.false_ne_true,
      if_neg (by simp [hword]), if_neg hquote, hsign after hafter]

/-- A sign that begins a longer one is not taken for it before a blank. -/
theorem EndsLexeme.head?_ne (h : EndsLexeme after) (rest : List Char) : after ≠ '=' :: rest := by
  rintro rfl
  exact absurd (h '=' rfl) (by decide)

theorem exists_lexes (h : token.Writable decimal) :
    ∃ first rest, token.lexeme decimal = first :: rest ∧ Lexes token first rest := by
  cases token with
  | number x =>
      obtain ⟨first, rest, heq, -⟩ := exists_of_isDecimal h.1
      refine ⟨first, rest, heq, lexes_number ?_ ?_⟩
      · rw [← heq]
        exact h.1
      · rw [← heq]
        exact h.2
  | string s => exact ⟨'"', _, rfl, lexes_string s⟩
  | word name =>
      have h : isName name.toList = true := h
      cases hname : name.toList with
      | nil =>
          rw [hname] at h
          cases h
      | cons first rest =>
          rw [hname] at h
          refine ⟨first, rest, hname, ?_⟩
          have hlexes := lexes_name h
          rwa [← hname, String.ofList_toList] at hlexes
  | assign | bang | lt | gt =>
      refine ⟨_, [], rfl, lexes_sign (by decide) (by simp) fun after hafter => ?_⟩
      rw [List.nil_append, sign?]
      exact hafter.head?_ne
  | _ => exact ⟨_, _, rfl, lexes_sign (by decide) (by simp [signChars]) fun _ _ => rfl⟩

/-! ## Texts of several tokens -/

theorem scan_lexeme (h : token.Writable decimal) (hafter : EndsLexeme after) :
    scan (token.lexeme decimal ++ after) = (scan after).map (token :: ·) := by
  obtain ⟨first, rest, heq, hlexes⟩ := exists_lexes h
  rw [heq, List.cons_append, scan, if_neg (by simp [hlexes.first_visible])]
  split
  next hlex => cases (hlexes.cut after hafter).symm.trans hlex
  next hlex =>
    cases (hlexes.cut after hafter).symm.trans hlex
    rfl

theorem scan_blanks {gap : List Char} (hgap : ∀ c ∈ gap, Text.isBlank c = true)
    (text : List Char) : scan (gap ++ text) = scan text := by
  induction gap with
  | nil => rfl
  | cons c gap ih =>
      rw [List.cons_append, scan, if_pos (hgap c List.mem_cons_self)]
      exact ih fun d hd => hgap d (List.mem_cons_of_mem _ hd)

/-- Lexemes with blanks between them are cut into the tokens again. -/
theorem scan_of_spaced (h : Spaced decimal tokens text)
    (hwritable : ∀ token ∈ tokens, token.Writable decimal) : scan text = .ok tokens := by
  induction h with
  | single token =>
      have hends : EndsLexeme [] := by simp [EndsLexeme]
      have hscan := scan_lexeme (hwritable token List.mem_cons_self) hends
      rw [List.append_nil] at hscan
      rw [hscan]
      simp [scan, Except.map]
  | @cons token gap text tokens hne hgap hrest ih =>
      have hends : EndsLexeme (gap ++ text) := by
        obtain ⟨blank, others, rfl⟩ := List.exists_cons_of_ne_nil hne
        intro c hc
        cases hc
        exact hgap blank List.mem_cons_self
      rw [List.append_assoc, scan_lexeme (hwritable token List.mem_cons_self) hends,
        scan_blanks hgap, ih fun other hother => hwritable other (List.mem_cons_of_mem _ hother)]
      rfl

theorem Spaced.first_visible (h : Spaced decimal tokens text)
    (hwritable : ∀ token ∈ tokens, token.Writable decimal) :
    ∃ first rest, text = first :: rest ∧ Text.isBlank first = false ∧ first ≠ '{' := by
  cases h with
  | single token =>
      obtain ⟨first, rest, heq, hlexes⟩ := exists_lexes (hwritable token List.mem_cons_self)
      exact ⟨first, rest, heq, hlexes.first_visible, hlexes.first_ne_brace⟩
  | cons token hne hgap hrest =>
      obtain ⟨first, rest, heq, hlexes⟩ := exists_lexes (hwritable token List.mem_cons_self)
      rw [heq, List.cons_append, List.cons_append]
      exact ⟨first, _, rfl, hlexes.first_visible, hlexes.first_ne_brace⟩

theorem Spaced.last_visible (h : Spaced decimal tokens text)
    (hwritable : ∀ token ∈ tokens, token.Writable decimal) :
    ∀ c ∈ text.getLast?, Text.isBlank c = false := by
  induction h with
  | single token =>
      obtain ⟨first, rest, heq, hlexes⟩ := exists_lexes (hwritable token List.mem_cons_self)
      rw [heq]
      exact hlexes.last_visible
  | cons token hne hgap hrest ih =>
      have hothers := fun other hother => hwritable other (List.mem_cons_of_mem _ hother)
      obtain ⟨first, rest, rfl, -⟩ := hrest.first_visible hothers
      intro c hc
      rw [List.getLast?_append, List.getLast?_cons, Option.some_or, ← List.getLast?_cons] at hc
      exact ih hothers c hc

/-- A text of lexemes with blanks between them is read as the expression of its tokens. -/
theorem ofText_of_spaced (h : Spaced decimal tokens text)
    (hwritable : ∀ token ∈ tokens, token.Writable decimal) :
    Expr.ofText text = Expr.ofTokens tokens none := by
  have hlast := h.last_visible hwritable
  have hscan := scan_of_spaced h hwritable
  obtain ⟨first, rest, rfl, hblank, hbrace⟩ := h.first_visible hwritable
  have hbare : Text.unbraced? (first :: rest) = none := by
    rw [Text.unbraced?]
    intro _ heq
    cases heq
    exact hbrace rfl
  have htrim : Text.trim (first :: rest) = first :: rest := by
    rw [Text.trim_eq_self_iff]
    exact ⟨by simpa using hblank, hlast⟩
  rw [Expr.ofText, htrim, hbare]
  simp only [Option.getD_none, Expr.ofBody, hscan]
  rfl

theorem spaced_lineOf (decimal : Float → List Char) (h : tokens ≠ []) :
    Spaced decimal tokens (lineOf decimal tokens) := by
  have hspace : ∀ c ∈ [' '], Text.isBlank c = true := by
    intro c hc
    rw [List.mem_singleton.1 hc]
    decide
  fun_induction lineOf decimal tokens with
  | case1 => exact absurd rfl h
  | case2 token => exact .single token
  | case3 token next rest ih => exact .cons token (by simp) hspace (ih (by simp))

end Gamebook.Script
