import Gamebook.Proofs.Json.Strings

/-! # Cutting written values into tokens

A value is cut into the tokens that it was written with, and its blanks are passed over. Only a
number can stop the reader, by a spelling that no number has. `Layout.cutsInto_chars` says so for
every layout of blanks, if the value spells its numbers with the characters of numbers.
-/

namespace Gamebook.Json

/-- The characters that numbers are written with. -/
def isNumberChar (c : Char) : Bool :=
  c.isDigit || c == '-' || c == '+' || c == '.' || c == 'e'

/-- A text of characters that numbers are written with, whether it is a number or not. -/
structure NumberLike (literal : String) : Prop where
  ne_nil : literal.toList ≠ []
  all : ∀ c ∈ literal.toList, isNumberChar c = true

/-- A value in which everything has a spelling, and numbers are spelled with characters of
numbers. -/
inductive Spelled : Json → Prop where
  | null : Spelled .null
  | boolean (b : Bool) : Spelled (.boolean b)
  | number {literal : String} (h : NumberLike literal) : Spelled (.number literal)
  | string (s : String) : Spelled (.string s)
  | array {items : List Json} (h : ∀ item ∈ items, Spelled item) : Spelled (.array items)
  | object {fields : List (String × Json)} (h : ∀ field ∈ fields, Spelled field.2) :
    Spelled (.object fields)

mutual

/-- The tokens of a value that was written, unless a number in it is spelled as none. -/
def tokens? : Json → Except Failure (List Token)
  | .null => .ok [.literal .null]
  | .boolean b => .ok [.literal (.boolean b)]
  | .number literal => (literal? literal.toList).map fun value => [.literal value]
  | .string s => .ok [.string (some s)]
  | .undecodable => .ok [.literal .null]
  | .array items =>
    ((itemTokens? items).map [Token.comma].intercalate).map fun tokens =>
      .openArray :: (tokens ++ [.closeArray])
  | .object fields =>
    ((fieldTokens? fields).map [Token.comma].intercalate).map fun tokens =>
      .openObject :: (tokens ++ [.closeObject])

/-- The tokens of items, without the commas between them. -/
def itemTokens? : List Json → Except Failure (List (List Token))
  | [] => .ok []
  | item :: rest =>
    (tokens? item).bind fun tokens => (itemTokens? rest).map fun parts => tokens :: parts

/-- The tokens of fields, without the commas between them. -/
def fieldTokens? : List (String × Json) → Except Failure (List (List Token))
  | [] => .ok []
  | (name, value) :: rest =>
    (tokens? value).bind fun tokens =>
      (fieldTokens? rest).map fun parts => (.string (some name) :: .colon :: tokens) :: parts

end

theorem itemTokens?_eq_mapM (items : List Json) : itemTokens? items = items.mapM tokens? := by
  induction items with
  | nil => rfl
  | cons item rest ih =>
      rw [itemTokens?, ih, List.mapM_cons]
      cases tokens? item <;> cases rest.mapM tokens? <;> rfl

theorem fieldTokens?_eq_mapM (fields : List (String × Json)) :
    fieldTokens? fields = fields.mapM fun field =>
      (tokens? field.2).map fun tokens => .string (some field.1) :: .colon :: tokens := by
  induction fields with
  | nil => rfl
  | cons field rest ih =>
      rw [fieldTokens?, ih, List.mapM_cons]
      cases tokens? field.2 with
      | error failure => rfl
      | ok tokens => rfl

theorem continuesLiteral_of_isNumberChar {c : Char} (h : isNumberChar c = true) :
    continuesLiteral c = true := by
  simp only [isNumberChar, Bool.or_eq_true, beq_iff_eq, or_assoc] at h
  rcases h with h | rfl | rfl | rfl | rfl
  · simp [continuesLiteral, Char.isAlphanum, h]
  all_goals decide

/-- What follows a number ends it. -/
def EndsLiteral (rest : List Char) : Prop :=
  ∀ c ∈ rest.head?, continuesLiteral c = false

theorem endsLiteral_nil : EndsLiteral [] := by
  intro c h
  cases h

theorem endsLiteral_cons {c : Char} (h : continuesLiteral c = false) (rest : List Char) :
    EndsLiteral (c :: rest) := by
  intro first hfirst
  cases hfirst
  exact h

theorem scan_space {c : Char} (h : isSpace c = true) (rest : List Char) :
    scan (c :: rest) = scan rest := by
  rw [scan, if_pos h]

theorem scan_of_lex {c : Char} {rest after : List Char} {token : Token}
    (hspace : isSpace c = false) (h : lex c rest = .ok (token, after)) :
    scan (c :: rest) = (scan after).map (token :: ·) := by
  rw [scan, if_neg (Bool.eq_false_iff.1 hspace)]
  split
  next heq => cases h.symm.trans heq
  next heq =>
    cases h.symm.trans heq
    rfl

theorem scan_of_lex_error {c : Char} {rest : List Char} {failure : Failure}
    (hspace : isSpace c = false) (h : lex c rest = .error failure) :
    scan (c :: rest) = .error failure := by
  rw [scan, if_neg (Bool.eq_false_iff.1 hspace)]
  split
  next heq =>
    cases h.symm.trans heq
    rfl
  next heq => cases h.symm.trans heq

theorem scan_stringChars (s : String) (rest : List Char) :
    scan (stringChars s ++ rest) = (scan rest).map (.string (some s) :: ·) := by
  rw [stringChars, List.append_assoc]
  exact scan_of_lex (by decide) (lex_stringChars s rest)

/-- A character of numbers begins a literal. -/
theorem lex_of_continuesLiteral {c : Char} (h : continuesLiteral c = true) (rest : List Char) :
    lex c rest = (literal? (c :: rest.takeWhile continuesLiteral)).map fun value =>
      (.literal value, rest.dropWhile continuesLiteral) := by
  unfold lex
  split
  case h_8 =>
    rw [if_pos h]
    cases literal? (c :: rest.takeWhile continuesLiteral) <;> rfl
  all_goals exact absurd h (by decide)

theorem isSpace_of_continuesLiteral {c : Char} (h : continuesLiteral c = true) :
    isSpace c = false := by
  refine Bool.eq_false_iff.2 fun hspace => ?_
  simp only [isSpace, Bool.or_eq_true, beq_iff_eq, or_assoc] at hspace
  rcases hspace with rfl | rfl | rfl | rfl <;> exact absurd h (by decide)

theorem takeWhile_of_endsLiteral {rest : List Char} (h : EndsLiteral rest) :
    rest.takeWhile continuesLiteral = [] ∧ rest.dropWhile continuesLiteral = rest := by
  cases rest with
  | nil => exact ⟨rfl, rfl⟩
  | cons c after =>
      have hc : continuesLiteral c = false := h c rfl
      simp [hc]

/-- Literal characters up to what ends them are cut out together. -/
theorem scan_literal {text rest : List Char} (hne : text ≠ [])
    (hall : ∀ c ∈ text, continuesLiteral c = true) (hrest : EndsLiteral rest) :
    scan (text ++ rest) = (literal? text).bind fun value =>
      (scan rest).map (.literal value :: ·) := by
  obtain ⟨c, cs, rfl⟩ := List.exists_cons_of_ne_nil hne
  have hcs : ∀ a ∈ cs, continuesLiteral a = true := fun a ha => hall a (List.mem_cons_of_mem _ ha)
  have hc := hall c List.mem_cons_self
  have hspace := isSpace_of_continuesLiteral hc
  obtain ⟨htake, hdrop⟩ := takeWhile_of_endsLiteral hrest
  have hlex := lex_of_continuesLiteral hc (cs ++ rest)
  rw [List.takeWhile_append_of_pos hcs, List.dropWhile_append_of_pos hcs, htake, hdrop,
    List.append_nil] at hlex
  rw [List.cons_append]
  cases hliteral : literal? (c :: cs) with
  | error failure =>
      rw [hliteral] at hlex
      exact scan_of_lex_error hspace hlex
  | ok value =>
      rw [hliteral] at hlex
      exact scan_of_lex hspace hlex

/-! ## Parts of a text

The tokens of a text are put together from those of its parts. A part that ends in a number must be
followed by something that ends the number.
-/

/-- The text is cut into the tokens, and the reader goes on behind it, if what follows ends a
number. -/
def CutsInto (text : List Char) (tokens : Except Failure (List Token)) : Prop :=
  ∀ ⦃rest⦄, EndsLiteral rest →
    scan (text ++ rest) = tokens.bind fun tokens => (scan rest).map (tokens ++ ·)

theorem CutsInto.nil : CutsInto [] (.ok []) := by
  intro rest _
  change scan rest = (scan rest).map ([] ++ ·)
  cases scan rest <;> rfl

theorem CutsInto.append {text more : List Char} {tokens others : Except Failure (List Token)}
    (htext : CutsInto text tokens) (hmore : CutsInto more others)
    (hends : ∀ ⦃rest⦄, EndsLiteral rest → EndsLiteral (more ++ rest)) :
    CutsInto (text ++ more) (tokens.bind fun tokens => others.map (tokens ++ ·)) := by
  intro rest hrest
  rw [List.append_assoc, htext (hends hrest), hmore hrest]
  cases tokens <;> cases others <;> cases scan rest <;> simp [Except.bind, Except.map]

/-- A character in front that is a token of its own. -/
theorem CutsInto.mark {c : Char} {token : Token} (hspace : isSpace c = false)
    (hlex : ∀ after, lex c after = .ok (token, after)) {text : List Char}
    {tokens : Except Failure (List Token)} (htext : CutsInto text tokens) :
    CutsInto (c :: text) (tokens.map (token :: ·)) := by
  intro rest hrest
  rw [List.cons_append, scan_of_lex hspace (hlex _), htext hrest]
  cases tokens <;> cases scan rest <;> rfl

theorem CutsInto.stringChars (s : String) {text : List Char}
    {tokens : Except Failure (List Token)} (htext : CutsInto text tokens) :
    CutsInto (stringChars s ++ text) (tokens.map (.string (some s) :: ·)) := by
  intro rest hrest
  rw [List.append_assoc, scan_stringChars, htext hrest]
  cases tokens <;> cases scan rest <;> rfl

/-- A word that is a value. -/
theorem CutsInto.word {text : List Char} {value : Json} (h : literal? text = .ok value)
    (hne : text ≠ []) (hall : text.all continuesLiteral = true) :
    CutsInto text (.ok [.literal value]) := by
  intro rest hrest
  rw [scan_literal hne (List.all_eq_true.1 hall) hrest, h]
  rfl

theorem CutsInto.number {literal : String} (h : NumberLike literal) :
    CutsInto literal.toList
      ((literal? literal.toList).map fun value => [.literal value]) := by
  intro rest hrest
  have hall := fun c hc => continuesLiteral_of_isNumberChar (h.all c hc)
  rw [scan_literal h.ne_nil hall hrest]
  cases literal? literal.toList <;> rfl

/-- A text that the reader passes over. -/
def AreBlanks (text : List Char) : Prop :=
  ∀ c ∈ text, isSpace c = true

theorem scan_append_of_areBlanks {blanks : List Char} (h : AreBlanks blanks) (rest : List Char) :
    scan (blanks ++ rest) = scan rest := by
  induction blanks with
  | nil => rfl
  | cons c blanks ih =>
      obtain ⟨hc, hblanks⟩ := List.forall_mem_cons.1 h
      rw [List.cons_append, scan_space hc, ih hblanks]

theorem CutsInto.blanks {blanks text : List Char} {tokens : Except Failure (List Token)}
    (h : AreBlanks blanks) (htext : CutsInto text tokens) : CutsInto (blanks ++ text) tokens := by
  intro rest hrest
  rw [List.append_assoc, scan_append_of_areBlanks h, htext hrest]

/-- Blanks before what ends a number end it too. -/
theorem endsLiteral_append_of_areBlanks {blanks rest : List Char} (h : AreBlanks blanks)
    (hrest : EndsLiteral rest) : EndsLiteral (blanks ++ rest) := by
  cases blanks with
  | nil => exact hrest
  | cons c blanks =>
      have hspace : isSpace c = true := h c List.mem_cons_self
      refine endsLiteral_cons (Bool.eq_false_iff.2 fun hcontinues => ?_) _
      exact Bool.false_ne_true ((isSpace_of_continuesLiteral hcontinues).symm.trans hspace)

/-- Two parts with a comma between them. -/
theorem CutsInto.comma {text more : List Char} {tokens others : Except Failure (List Token)}
    (htext : CutsInto text tokens) (hmore : CutsInto more others) :
    CutsInto (text ++ ',' :: more)
      (tokens.bind fun tokens => others.map fun others => tokens ++ .comma :: others) := by
  have hcomma := hmore.mark (c := ',') rfl fun _ => rfl
  have hboth := htext.append hcomma fun _ _ => endsLiteral_cons rfl _
  cases others <;> exact hboth

section Parts

variable {α : Type} {write : α → List Char} {read : α → Except Failure (List Token)}

theorem map_intercalate_singleton (x : α) :
    ([x].mapM read).map [Token.comma].intercalate = read x := by
  rw [List.mapM_cons, List.mapM_nil]
  cases read x with
  | error failure => rfl
  | ok tokens => exact congrArg Except.ok List.intercalate_singleton

theorem map_intercalate_cons_cons (x next : α) (rest : List α) :
    ((x :: next :: rest).mapM read).map [Token.comma].intercalate =
      (read x).bind fun tokens =>
        (((next :: rest).mapM read).map [Token.comma].intercalate).map fun others =>
          tokens ++ .comma :: others := by
  rw [List.mapM_cons, List.mapM_cons]
  cases read x <;> cases read next <;> cases rest.mapM read <;> rfl

/-- Parts with commas between them. -/
theorem CutsInto.intercalate {xs : List α} (h : ∀ x ∈ xs, CutsInto (write x) (read x)) :
    CutsInto ([','].intercalate (xs.map write)) ((xs.mapM read).map [Token.comma].intercalate) := by
  induction xs with
  | nil => exact .nil
  | cons x rest ih =>
      obtain ⟨hx, hrest⟩ := List.forall_mem_cons.1 h
      cases rest with
      | nil =>
          rw [List.map_singleton, List.intercalate_singleton, map_intercalate_singleton]
          exact hx
      | cons next rest =>
          rw [List.map_cons, List.map_cons, List.intercalate_cons_cons, List.append_assoc,
            map_intercalate_cons_cons]
          exact hx.comma (ih hrest)

end Parts

/-- A field, with blanks before its value. -/
theorem CutsInto.field (name : String) {blanks text : List Char}
    {tokens : Except Failure (List Token)} (hblanks : AreBlanks blanks)
    (htext : CutsInto text tokens) :
    CutsInto (Json.stringChars name ++ ':' :: (blanks ++ text))
      (tokens.map fun tokens => .string (some name) :: .colon :: tokens) := by
  have hcolon := (htext.blanks hblanks).mark (c := ':') rfl fun _ => rfl
  have hname := hcolon.stringChars name
  cases tokens <;> exact hname

/-- A part between brackets, with blanks before the second one. -/
theorem CutsInto.brackets {opening closing : Char} {first last : Token}
    {inner blanks : List Char} {tokens : Except Failure (List Token)}
    (hopening : isSpace opening = false) (hclosing : continuesLiteral closing = false)
    (hspace : isSpace closing = false) (hfirst : ∀ after, lex opening after = .ok (first, after))
    (hlast : ∀ after, lex closing after = .ok (last, after)) (hblanks : AreBlanks blanks)
    (hinner : CutsInto inner tokens) :
    CutsInto (opening :: (inner ++ blanks ++ [closing]))
      (tokens.map fun tokens => first :: (tokens ++ [last])) := by
  have hend : CutsInto (blanks ++ [closing]) (.ok [last]) :=
    .blanks hblanks (CutsInto.nil.mark hspace hlast)
  have hends ⦃rest : List Char⦄ (_ : EndsLiteral rest) :
      EndsLiteral (blanks ++ [closing] ++ rest) := by
    rw [List.append_assoc]
    exact endsLiteral_append_of_areBlanks hblanks (endsLiteral_cons hclosing rest)
  have hboth := (hinner.append hend hends).mark hopening hfirst
  rw [List.append_assoc]
  cases tokens <;> exact hboth

theorem CutsInto.array {inner blanks : List Char} {tokens : Except Failure (List Token)}
    (hblanks : AreBlanks blanks) (hinner : CutsInto inner tokens) :
    CutsInto ('[' :: (inner ++ blanks ++ [']']))
      (tokens.map fun tokens => .openArray :: (tokens ++ [.closeArray])) :=
  .brackets rfl rfl rfl (fun _ => rfl) (fun _ => rfl) hblanks hinner

theorem CutsInto.object {inner blanks : List Char} {tokens : Except Failure (List Token)}
    (hblanks : AreBlanks blanks) (hinner : CutsInto inner tokens) :
    CutsInto ('{' :: (inner ++ blanks ++ ['}']))
      (tokens.map fun tokens => .openObject :: (tokens ++ [.closeObject])) :=
  .brackets rfl rfl rfl (fun _ => rfl) (fun _ => rfl) hblanks hinner

/-! ## Written values -/

namespace Layout

/-- The blanks of a layout are blanks to the reader. -/
structure IsBlank (layout : Layout) : Prop where
  lead (level : Nat) : AreBlanks (layout.lead level)
  gap : AreBlanks layout.gap

theorem isBlank_oneLine : oneLine.IsBlank where
  lead _ := List.forall_mem_nil _
  gap := List.forall_mem_nil _

theorem isBlank_indented : indented.IsBlank where
  lead _ := List.forall_mem_cons.2 ⟨rfl, fun _ hc => List.eq_of_mem_replicate hc ▸ rfl⟩
  gap := List.forall_mem_singleton.2 rfl

variable {layout : Layout}

theorem itemParts_eq_map (level : Nat) (items : List Json) :
    layout.itemParts level items =
      items.map fun item => layout.lead level ++ layout.chars level item := by
  induction items with
  | nil => rfl
  | cons item rest ih => rw [itemParts, ih, List.map_cons]

theorem fieldParts_eq_map (level : Nat) (fields : List (String × Json)) :
    layout.fieldParts level fields = fields.map fun field => layout.lead level ++
      (stringChars field.1 ++ ':' :: (layout.gap ++ layout.chars level field.2)) := by
  induction fields with
  | nil => rfl
  | cons field rest ih => rw [fieldParts, ih, List.map_cons]

/-- A written value is cut into its tokens, or fails with the first number that is none. -/
theorem cutsInto_chars (hblank : layout.IsBlank) {json : Json} (h : Spelled json) (level : Nat) :
    CutsInto (layout.chars level json) (tokens? json) := by
  induction h generalizing level with
  | null =>
      have hword : CutsInto "null".toList (.ok [.literal .null]) :=
        .word rfl (by decide) (by decide)
      exact hword
  | boolean b =>
      have htrue : CutsInto "true".toList (.ok [.literal (.boolean true)]) :=
        .word rfl (by decide) (by decide)
      have hfalse : CutsInto "false".toList (.ok [.literal (.boolean false)]) :=
        .word rfl (by decide) (by decide)
      cases b with
      | true => exact htrue
      | false => exact hfalse
  | number h => exact .number h
  | string s =>
      have hstring := CutsInto.nil.stringChars s
      rw [List.append_nil] at hstring
      exact hstring
  | @array items _ ih =>
      cases items with
      | nil => exact .array (List.forall_mem_nil _) .nil
      | cons item others =>
          have hitems := CutsInto.intercalate fun item hitem =>
            (ih item hitem (level + 1)).blanks (hblank.lead (level + 1))
          rw [← itemParts_eq_map, ← itemTokens?_eq_mapM] at hitems
          exact hitems.array (hblank.lead level)
  | @object fields _ ih =>
      cases fields with
      | nil => exact .object (List.forall_mem_nil _) .nil
      | cons field others =>
          have hfields := CutsInto.intercalate fun field hfield =>
            ((ih field hfield (level + 1)).field field.1 hblank.gap).blanks
              (hblank.lead (level + 1))
          rw [← fieldParts_eq_map, ← fieldTokens?_eq_mapM] at hfields
          exact hfields.object (hblank.lead level)

end Layout

end Gamebook.Json
