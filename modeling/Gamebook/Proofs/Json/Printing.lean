import Gamebook.Proofs.Json.Scanning

/-! # What is written for a value

No control character is written for a string, so a value on one line has no line break:
`isPrinted_of_mem_compact`. Where the text of a string ends can be seen from the text alone:
`stringChars_append_inj`.
-/

namespace Gamebook.Json

/-- Whether a character is no control character. -/
def isPrinted (c : Char) : Bool :=
  0x20 ≤ c.toNat

theorem isPrinted_of_mem_controlDigits {n : Nat} (h : n < 0x20) :
    ∀ c ∈ controlDigits n, isPrinted c = true := by
  rw [← List.all_eq_true]
  revert n
  decide

/-- Every control character has an escape, and escapes have no control characters. -/
theorem isPrinted_of_mem_escapedChar {a : Char} : ∀ c ∈ escapedChar a, isPrinted c = true := by
  unfold escapedChar
  -- Seven characters have an escape by a letter.
  iterate 7
    split
    · exact List.all_eq_true.1 rfl
  split
  next hcontrol =>
    exact List.forall_mem_append.2
      ⟨List.all_eq_true.1 rfl, isPrinted_of_mem_controlDigits hcontrol⟩
  next hplain =>
    exact List.forall_mem_singleton.2 (decide_eq_true (Nat.le_of_not_lt hplain))

theorem isPrinted_of_mem_stringChars {s : String} : ∀ c ∈ stringChars s, isPrinted c = true := by
  rw [stringChars, List.forall_mem_append, List.forall_mem_cons, List.forall_mem_singleton]
  refine ⟨⟨rfl, fun c hc => ?_⟩, rfl⟩
  obtain ⟨a, -, hc⟩ := List.mem_flatMap.1 hc
  exact isPrinted_of_mem_escapedChar c hc

theorem isPrinted_of_isNumberChar {c : Char} (h : isNumberChar c = true) : isPrinted c = true := by
  simp only [isNumberChar, Bool.or_eq_true, beq_iff_eq, or_assoc] at h
  rcases h with h | rfl | rfl | rfl | rfl
  · have hzero : 0x20 ≤ '0'.toNat := by decide
    exact decide_eq_true (Nat.le_trans hzero (Char.isDigit_iff_toNat.1 h).1)
  all_goals rfl

/-- Neither a part nor the comma between two parts is a control character. -/
theorem isPrinted_of_mem_intercalate {parts : List (List Char)}
    (h : ∀ part ∈ parts, ∀ c ∈ part, isPrinted c = true) :
    ∀ c ∈ [','].intercalate parts, isPrinted c = true := by
  induction parts with
  | nil => exact List.forall_mem_nil _
  | cons part rest ih =>
      obtain ⟨hpart, hrest⟩ := List.forall_mem_cons.1 h
      cases rest with
      | nil => rwa [List.intercalate_singleton]
      | cons next rest =>
          rw [List.intercalate_cons_cons, List.append_assoc]
          exact List.forall_mem_append.2 ⟨hpart, List.forall_mem_cons.2 ⟨rfl, ih hrest⟩⟩

namespace Layout

theorem isPrinted_chars {json : Json} (h : Spelled json) (level : Nat) :
    ∀ c ∈ oneLine.chars level json, isPrinted c = true := by
  induction h generalizing level with
  | null => exact List.all_eq_true.1 rfl
  | boolean b =>
      cases b with
      | true => exact List.all_eq_true.1 (rfl : "true".toList.all isPrinted = true)
      | false => exact List.all_eq_true.1 (rfl : "false".toList.all isPrinted = true)
  | number h => exact fun c hc => isPrinted_of_isNumberChar (h.all c hc)
  | string s => exact isPrinted_of_mem_stringChars
  | @array items _ ih =>
      cases items with
      | nil => exact List.all_eq_true.1 rfl
      | cons item others =>
          have hparts : ∀ part ∈ oneLine.itemParts (level + 1) (item :: others),
              ∀ c ∈ part, isPrinted c = true := by
            rw [itemParts_eq_map, List.forall_mem_map]
            exact fun item hitem => ih item hitem (level + 1)
          have hitems := isPrinted_of_mem_intercalate hparts
          simp only [chars, List.forall_mem_cons, List.forall_mem_append]
          exact ⟨rfl, ⟨hitems, List.forall_mem_nil _⟩, rfl, List.forall_mem_nil _⟩
  | @object fields _ ih =>
      cases fields with
      | nil => exact List.all_eq_true.1 rfl
      | cons field others =>
          have hparts : ∀ part ∈ oneLine.fieldParts (level + 1) (field :: others),
              ∀ c ∈ part, isPrinted c = true := by
            rw [fieldParts_eq_map, List.forall_mem_map]
            intro field hfield
            have hcolon : ∀ c ∈ ':' :: oneLine.chars (level + 1) field.2, isPrinted c = true :=
              List.forall_mem_cons.2 ⟨rfl, ih field hfield (level + 1)⟩
            have hname := List.forall_mem_append.2
              ⟨isPrinted_of_mem_stringChars (s := field.1), hcolon⟩
            exact List.forall_mem_append.2 ⟨List.forall_mem_nil _, hname⟩
          have hfields := isPrinted_of_mem_intercalate hparts
          simp only [chars, List.forall_mem_cons, List.forall_mem_append]
          exact ⟨rfl, ⟨hfields, List.forall_mem_nil _⟩, rfl, List.forall_mem_nil _⟩

end Layout

/-- A value on one line is written without control characters. -/
theorem isPrinted_of_mem_compact {json : Json} (h : Spelled json) :
    ∀ c ∈ json.compact.toList, isPrinted c = true := by
  rw [compact, String.toList_ofList]
  exact Layout.isPrinted_chars h 0

/-- From the text of a string and what follows, both are found again. -/
theorem stringChars_append_inj {s t : String} {rest more : List Char}
    (h : stringChars s ++ rest = stringChars t ++ more) : s = t ∧ rest = more := by
  have hclose (u : String) (after : List Char) :
      stringChars u ++ after = '"' :: (u.toList.flatMap escapedChar ++ '"' :: after) := by
    simp [stringChars]
  rw [hclose, hclose] at h
  have hlex := congrArg (lex '"') (List.cons.inj h).2
  rw [lex_stringChars, lex_stringChars] at hlex
  cases hlex
  exact ⟨rfl, rfl⟩

theorem stringText_injective : Function.Injective stringText := by
  intro s t h
  have hchars : stringChars s ++ [] = stringChars t ++ [] := by
    rw [List.append_nil, List.append_nil]
    exact String.ofList_injective h
  exact (stringChars_append_inj hchars).1

end Gamebook.Json
