import Gamebook.Proofs.Json.Scanning
import Gamebook.Proofs.Result

/-! # Values that are written and read

`ofText_compact` and `ofText_pretty` say what comes of reading a value that was written on one line
or over several: the same value again, or a failure if a number in it is spelled as none.
-/

namespace Gamebook.Json

/-- Within an array that has just been opened, a value is read as after a comma. -/
theorem foldlM_openedArray {stack : List Open} {first : Token} (h : first ≠ .closeArray)
    (rest : List Token) :
    (first :: rest).foldlM Progress.step (.openedArray stack) =
      (first :: rest).foldlM Progress.step (.beforeValue (.array [] :: stack)) := by
  have hstep : (Progress.openedArray stack).step first =
      (Progress.beforeValue (.array [] :: stack)).step first := by
    cases first <;> first | exact absurd rfl h | rfl
  rw [List.foldlM_cons, hstep, List.foldlM_cons]

/-- The tokens of a value do not begin with the end of an array. -/
theorem exists_cons_of_tokens? {json : Json} {tokens : List Token} (h : tokens? json = .ok tokens) :
    ∃ first rest, tokens = first :: rest ∧ first ≠ .closeArray := by
  cases json with
  | null => cases h; exact ⟨_, _, rfl, by simp⟩
  | boolean b => cases h; exact ⟨_, _, rfl, by simp⟩
  | number literal =>
      obtain ⟨value, -, rfl⟩ := Except.map_eq_ok_iff.1 h
      exact ⟨_, _, rfl, by simp⟩
  | string s => cases h; exact ⟨_, _, rfl, by simp⟩
  | undecodable => cases h; exact ⟨_, _, rfl, by simp⟩
  | array items =>
      obtain ⟨inner, -, rfl⟩ := Except.map_eq_ok_iff.1 h
      exact ⟨_, _, rfl, by simp⟩
  | object fields =>
      obtain ⟨inner, -, rfl⟩ := Except.map_eq_ok_iff.1 h
      exact ⟨_, _, rfl, by simp⟩

/-- Parts with commas between them begin with what the first part begins with. -/
theorem exists_intercalate_eq_cons (first : Token) (part : List Token) (parts : List (List Token)) :
    ∃ rest, [Token.comma].intercalate ((first :: part) :: parts) = first :: rest := by
  cases parts with
  | nil => exact ⟨part, List.intercalate_singleton⟩
  | cons next parts =>
      rw [List.intercalate_cons_cons]
      exact ⟨_, rfl⟩

/-- A number that is spelled as one is kept as it is spelled. -/
theorem literal?_of_numberLike {literal : String} {value : Json} (hlike : NumberLike literal)
    (h : literal? literal.toList = .ok value) : value = .number literal := by
  -- Each of the three words has a letter that no number is written with.
  have hword {word : List Char} {c : Char} (hmem : c ∈ word) (hc : isNumberChar c = false) :
      literal.toList ≠ word := by
    intro heq
    have hnumber := hlike.all c (heq ▸ hmem)
    rw [hc] at hnumber
    cases hnumber
  have hnull : literal.toList ≠ "null".toList := hword (c := 'n') (by decide) (by decide)
  have htrue : literal.toList ≠ "true".toList := hword (c := 't') (by decide) (by decide)
  have hfalse : literal.toList ≠ "false".toList := hword (c := 'f') (by decide) (by decide)
  rw [literal?, if_neg hnull, if_neg htrue, if_neg hfalse, String.ofList_toList] at h
  split at h
  · cases h
    rfl
  · cases h

theorem ofFields_map_some (fields : List (String × Json)) :
    ofFields (fields.map (Prod.map some id)).reverse = .object fields := by
  have hdecode : (fields.map (Prod.map some id)).mapM
      (fun field => field.1.map fun name => (name, field.2)) = some fields := by
    induction fields with
    | nil => rfl
    | cons field rest ih =>
        rw [List.map_cons, List.mapM_cons, ih]
        rfl
  rw [ofFields, List.reverse_reverse]
  split
  next decoded hdecoded => rw [Option.some.inj (hdecoded.symm.trans hdecode)]
  next hnone => cases hnone.symm.trans hdecode

/-! ## Reading tokens -/

/-- How the parts of an array or an object are read: a comma leads from behind one part to before
the next, and the bracket ends the series. -/
structure Series (α : Type) where
  /-- Before a part, with the parts that have been read already. -/
  before : List α → Progress
  /-- Behind a part. -/
  after : List α → α → Progress
  /-- Behind the bracket. -/
  closed : List α → Progress
  bracket : Token
  step_comma : ∀ done x, (after done x).step .comma = .ok (before (done ++ [x]))
  step_bracket : ∀ done x, (after done x).step bracket = .ok (closed (done ++ [x]))

namespace Series

/-- The items of an array, which are kept in reverse while it is open. -/
def items (stack : List Open) : Series Json where
  before done := .beforeValue (.array done.reverse :: stack)
  after done item := .afterValue (.array done.reverse :: stack) item
  closed items := .afterValue stack (.array items)
  bracket := .closeArray
  step_comma done item := by
    rw [List.reverse_append]
    rfl
  step_bracket done item := by
    rw [Progress.step, List.reverse_cons, List.reverse_reverse]

/-- The fields of an object, with names that have all been decoded. -/
def fields (stack : List Open) : Series (String × Json) where
  before done := .beforeName stack (done.map (Prod.map some id)).reverse
  after done field :=
    .afterValue (.field (done.map (Prod.map some id)).reverse (some field.1) :: stack) field.2
  closed fields := .afterValue stack (.object fields)
  bracket := .closeObject
  step_comma done field := by
    rw [List.map_append, List.reverse_append]
    rfl
  step_bracket done field := by
    rw [← ofFields_map_some, List.map_append, List.reverse_append]
    rfl

/-- Parts with commas between them and the bracket behind them are read one after the other. -/
theorem foldlM_intercalate {α : Type} (series : Series α) {x : α} {rest : List α}
    {parts : List (List Token)}
    (hparts : List.Forall₂ (fun x tokens => ∀ done,
      tokens.foldlM Progress.step (series.before done) = .ok (series.after done x))
      (x :: rest) parts)
    (done : List α) :
    ([Token.comma].intercalate parts ++ [series.bracket]).foldlM Progress.step
        (series.before done) =
      .ok (series.closed (done ++ x :: rest)) := by
  induction rest generalizing x parts done with
  | nil =>
      obtain ⟨part, others, hpart, hothers, rfl⟩ := List.forall₂_cons_left_iff.1 hparts
      obtain rfl := List.forall₂_nil_left_iff.1 hothers
      rw [List.intercalate_singleton, List.foldlM_append, hpart, Except.ok_bind, List.foldlM_cons,
        series.step_bracket, Except.ok_bind]
      rfl
  | cons next rest ih =>
      obtain ⟨part, others, hpart, hothers, rfl⟩ := List.forall₂_cons_left_iff.1 hparts
      have hrest := ih hothers (done ++ [x])
      obtain ⟨second, more, -, -, rfl⟩ := List.forall₂_cons_left_iff.1 hothers
      rw [List.append_assoc, List.singleton_append] at hrest
      rw [List.intercalate_cons_cons, List.append_assoc, List.append_assoc, List.foldlM_append,
        hpart, Except.ok_bind, List.singleton_append, List.foldlM_cons, series.step_comma,
        Except.ok_bind]
      exact hrest

end Series

/-- The tokens of the value are read as the value, whatever is open around it. -/
def IsReadFromTokens (json : Json) : Prop :=
  ∀ ⦃tokens⦄, tokens? json = .ok tokens → ∀ stack,
    tokens.foldlM Progress.step (.beforeValue stack) = .ok (.afterValue stack json)

theorem isReadFromTokens_array {items : List Json} (h : ∀ item ∈ items, IsReadFromTokens item) :
    IsReadFromTokens (.array items) := by
  intro tokens htokens stack
  obtain ⟨inner, hinner, rfl⟩ := Except.map_eq_ok_iff.1 htokens
  obtain ⟨parts, hparts, rfl⟩ := Except.map_eq_ok_iff.1 hinner
  rw [itemTokens?_eq_mapM] at hparts
  have hall := Except.forall₂_of_mapM hparts
  cases items with
  | nil =>
      cases hparts
      rfl
  | cons item others =>
      have hread := (Series.items stack).foldlM_intercalate
        (((List.forall₂_and_left _ _).2 ⟨h, hall⟩).imp
          fun item tokens hitem done => hitem.1 hitem.2 _) []
      -- The first item is read right after the bracket, the others after a comma.
      obtain ⟨part, more, hpart, -, rfl⟩ := List.forall₂_cons_left_iff.1 hall
      obtain ⟨first, rest, rfl, hfirst⟩ := exists_cons_of_tokens? hpart
      obtain ⟨tail, htail⟩ := exists_intercalate_eq_cons first rest more
      rw [htail] at hread ⊢
      rw [List.foldlM_cons]
      exact (foldlM_openedArray hfirst _).trans hread

/-- The name of a field and the colon lead to its value. -/
theorem foldlM_field (stack : List Open) {field : String × Json} {tokens : List Token}
    (h : IsReadFromTokens field.2)
    (htokens : ((tokens? field.2).map fun tokens => .string (some field.1) :: .colon :: tokens) =
      .ok tokens) (done : List (String × Json)) :
    tokens.foldlM Progress.step ((Series.fields stack).before done) =
      .ok ((Series.fields stack).after done field) := by
  obtain ⟨value, hvalue, rfl⟩ := Except.map_eq_ok_iff.1 htokens
  exact h hvalue _

theorem isReadFromTokens_object {fields : List (String × Json)}
    (h : ∀ field ∈ fields, IsReadFromTokens field.2) : IsReadFromTokens (.object fields) := by
  intro tokens htokens stack
  obtain ⟨inner, hinner, rfl⟩ := Except.map_eq_ok_iff.1 htokens
  obtain ⟨parts, hparts, rfl⟩ := Except.map_eq_ok_iff.1 hinner
  rw [fieldTokens?_eq_mapM] at hparts
  have hall := Except.forall₂_of_mapM hparts
  cases fields with
  | nil =>
      cases hparts
      rfl
  | cons field others =>
      have hread := (Series.fields stack).foldlM_intercalate
        (((List.forall₂_and_left _ _).2 ⟨h, hall⟩).imp
          fun field tokens hfield => foldlM_field stack hfield.1 hfield.2) []
      obtain ⟨part, more, hpart, -, rfl⟩ := List.forall₂_cons_left_iff.1 hall
      obtain ⟨value, -, rfl⟩ := Except.map_eq_ok_iff.1 hpart
      obtain ⟨tail, htail⟩ := exists_intercalate_eq_cons (.string (some field.1))
        (.colon :: value) more
      rw [htail] at hread ⊢
      exact hread

/-- The tokens of a value are read as that value. -/
theorem isReadFromTokens {json : Json} (h : Spelled json) : IsReadFromTokens json := by
  induction h with
  | null =>
      intro tokens htokens stack
      cases htokens
      rfl
  | boolean b =>
      intro tokens htokens stack
      cases htokens
      rfl
  | @number literal hlike =>
      intro tokens htokens stack
      obtain ⟨value, hvalue, rfl⟩ := Except.map_eq_ok_iff.1 htokens
      rw [literal?_of_numberLike hlike hvalue]
      rfl
  | string s =>
      intro tokens htokens stack
      cases htokens
      rfl
  | array _ ih => exact isReadFromTokens_array ih
  | object _ ih => exact isReadFromTokens_object ih

/-- A number that is spelled as one has its token. -/
theorem isOk_tokens?_number {literal : String} (h : (Numeral.ofText? literal.toList).isSome) :
    (tokens? (.number literal)).isOk = true := by
  have hliteral : ∃ value, literal? literal.toList = .ok value := by
    unfold literal?
    rw [if_pos h]
    split
    · exact ⟨_, rfl⟩
    · split
      · exact ⟨_, rfl⟩
      · split <;> exact ⟨_, rfl⟩
  obtain ⟨value, hvalue⟩ := hliteral
  rw [tokens?, hvalue]
  rfl

/-- An array has its tokens if its items have theirs. -/
theorem isOk_tokens?_array {items : List Json} (h : ∀ item ∈ items, (tokens? item).isOk = true) :
    (tokens? (.array items)).isOk = true := by
  rw [tokens?, Except.isOk_map, Except.isOk_map, itemTokens?_eq_mapM]
  exact Except.isOk_mapM h

/-- An object has its tokens if the values of its fields have theirs. -/
theorem isOk_tokens?_object {fields : List (String × Json)}
    (h : ∀ field ∈ fields, (tokens? field.2).isOk = true) :
    (tokens? (.object fields)).isOk = true := by
  rw [tokens?, Except.isOk_map, Except.isOk_map, fieldTokens?_eq_mapM]
  exact Except.isOk_mapM fun field hfield => (Except.isOk_map _ _).trans (h field hfield)

/-- A text that is cut into the tokens of a value is read as that value. -/
theorem ofChars_of_cutsInto {json : Json} (h : Spelled json) {text : List Char}
    (htext : CutsInto text (tokens? json)) :
    ofChars text = (tokens? json).map fun _ => json := by
  have hscan := htext endsLiteral_nil
  rw [List.append_nil] at hscan
  rw [ofChars, hscan]
  cases htokens : tokens? json with
  | error failure => rfl
  | ok tokens =>
      have hempty : scan [] = .ok [] := by rw [scan]
      have hread := isReadFromTokens h htokens []
      simp only [Except.bind, hempty, Except.map, List.append_nil]
      change Except.bind (tokens.foldlM Progress.step (.beforeValue [])) Progress.finish = _
      rw [hread]
      rfl

theorem map_tokens?_eq_ok_iff {json read : Json} :
    ((tokens? json).map fun _ => json) = .ok read ↔ (tokens? json).isOk = true ∧ read = json := by
  cases tokens? json with
  | error failure => simp [Except.map, Except.isOk, Except.toBool]
  | ok tokens => simp [Except.map, Except.isOk, Except.toBool, eq_comm]

/-- A value written on one line is read as itself, unless a number in it is spelled as none. -/
theorem ofText_compact {json : Json} (h : Spelled json) :
    ofText json.compact = (tokens? json).map fun _ => json := by
  rw [ofText, compact, String.toList_ofList]
  exact ofChars_of_cutsInto h (Layout.cutsInto_chars Layout.isBlank_oneLine h 0)

/-- A value written over several lines is read as itself, unless a number in it is spelled as
none. -/
theorem ofText_pretty {json : Json} (h : Spelled json) :
    ofText json.pretty = (tokens? json).map fun _ => json := by
  rw [ofText, pretty, String.toList_ofList]
  exact ofChars_of_cutsInto h (Layout.cutsInto_chars Layout.isBlank_indented h 0)

/-- A written value is read as itself exactly if its numbers are spelled as numbers. -/
theorem ofText_compact_eq_ok_iff {json read : Json} (h : Spelled json) :
    ofText json.compact = .ok read ↔ (tokens? json).isOk = true ∧ read = json := by
  rw [ofText_compact h]
  exact map_tokens?_eq_ok_iff

/-- A written value is read as itself exactly if its numbers are spelled as numbers. -/
theorem ofText_pretty_eq_ok_iff {json read : Json} (h : Spelled json) :
    ofText json.pretty = .ok read ↔ (tokens? json).isOk = true ∧ read = json := by
  rw [ofText_pretty h]
  exact map_tokens?_eq_ok_iff

end Gamebook.Json
