import Gamebook.Proofs.Markup.Cuts

/-! # Line ends that are written as they are

Tabs and line ends are written as they are, but read as blanks in an attribute, and a carriage
return is read as the end of a line in a text. `settled` is what a row of marks becomes on the way,
and `settled_eq_self_iff` says which rows stay as they are.
-/

namespace Gamebook.Markup

/-- Whether a character is written by name in a text. -/
def isNamed (c : Char) : Bool :=
  c == '&' || c == '<' || c == '>'

/-- What is read for a character that was written in a text. -/
def textUnit (c : Char) : TextUnit :=
  if isNamed c then .reference c else .literal c

/-- What is read for a character that was written in an attribute. -/
def attributeUnit (c : Char) : TextUnit :=
  if c = '"' then .reference c else textUnit c

/-- What is read for a run of characters that was written in a text. `afterNamed` says whether it
stands directly after a character that was written by name. -/
def settledFrom (afterNamed : Bool) (run : List Char) : List Char :=
  textChars [] afterNamed (run.map textUnit)

/-- What is read for a value that was written in an attribute. -/
def settledValue (value : List Char) : List Char :=
  attributeChars (value.map attributeUnit)

/-- What is read for an attribute that was written. -/
def settledPair (pair : String × String) : String × String :=
  (pair.1, String.ofList (settledValue pair.2.toList))

/-- What is read for a bracket that was written. -/
def Bracket.settled : Bracket → Bracket
  | .opening name attributes => .opening name (attributes.map settledPair)
  | .closing name => .closing name

/-- What is read for a row of marks that was written after the characters `run`. -/
def settled (run : List Char) : List Mark → List Mark
  | [] => (settledFrom false run).map .char
  | .char c :: rest => settled (run ++ [c]) rest
  | .bracket b :: rest => (settledFrom false run).map .char ++ .bracket b.settled :: settled [] rest

/-! ## References -/

theorem units?_cons_of_ne {c : Char} (h : c ≠ '&') (rest : List Char) :
    units? (c :: rest) = (units? rest).map (.literal c :: ·) := by
  rw [units?, if_neg h]

theorem units?_reference (inside : List Char) {named : Char} (h : ';' ∉ inside)
    (hnamed : namedChar? inside = some named) (rest : List Char) :
    units? ('&' :: (inside ++ ';' :: rest)) = (units? rest).map (.reference named :: ·) := by
  have hall : ∀ c ∈ inside, (c != ';') = true := by
    intro c hc
    rw [bne_iff_ne]
    rintro rfl
    exact h hc
  have htake : (inside ++ ';' :: rest).takeWhile (· != ';') = inside := by
    rw [List.takeWhile_append_of_pos hall]
    simp
  have hdrop : (inside ++ ';' :: rest).dropWhile (· != ';') = ';' :: rest := by
    rw [List.dropWhile_append_of_pos hall]
    simp
  rw [units?, if_pos rfl]
  split
  next semicolon after hafter =>
    cases hdrop.symm.trans hafter
    rw [htake, hnamed]
  next hafter => cases hdrop.symm.trans hafter

theorem units?_escapeTextChar_append (c : Char) (rest : List Char) :
    units? (Text.escapeTextChar c ++ rest) = (units? rest).map (textUnit c :: ·) := by
  rcases Text.escapeTextChar_cases c with (rfl | rfl | rfl) | ⟨⟨hamp, hless, hmore⟩, hself⟩
  · exact units?_reference ['a', 'm', 'p'] (by decide) rfl rest
  · exact units?_reference ['l', 't'] (by decide) rfl rest
  · exact units?_reference ['g', 't'] (by decide) rfl rest
  · rw [hself, List.singleton_append, units?_cons_of_ne hamp]
    simp [textUnit, isNamed, hamp, hless, hmore]

theorem units?_escapeText (text : List Char) :
    units? (Text.escapeText text) = some (text.map textUnit) := by
  induction text with
  | nil => rw [Text.escapeText, List.flatMap_nil, units?]; rfl
  | cons c rest ih =>
      rw [Text.escapeText, List.flatMap_cons, units?_escapeTextChar_append]
      rw [Text.escapeText] at ih
      rw [ih]
      rfl

theorem units?_escapeAttribute (value : List Char) :
    units? (Text.escapeAttribute value) = some (value.map attributeUnit) := by
  induction value with
  | nil => rw [Text.escapeAttribute, List.flatMap_nil, units?]; rfl
  | cons c rest ih =>
      rw [Text.escapeAttribute] at ih
      rw [Text.escapeAttribute, List.flatMap_cons, Text.escapeAttributeChar, List.map_cons,
        attributeUnit]
      split
      next h =>
        subst h
        have hquote := units?_reference ['q', 'u', 'o', 't'] (by decide) rfl
          (rest.flatMap Text.escapeAttributeChar)
        rw [ih] at hquote
        exact hquote
      next =>
        rw [units?_escapeTextChar_append, ih]
        rfl

/-! ## Attributes -/

/-- Whether a character is read as a blank where it stands in an attribute. -/
def isBreak (c : Char) : Bool :=
  c == '\t' || c == '\n' || c == '\r'

theorem head?_attributeChars_of_isBreak {c : Char} (h : isBreak c = true) (rest : List TextUnit) :
    (attributeChars (.literal c :: rest)).head? = some ' ' := by
  simp only [isBreak, Bool.or_eq_true, beq_iff_eq] at h
  rw [attributeChars.eq_def]
  split
  next => rfl
  next heq =>
    cases (List.cons.inj heq).1
    rw [List.head?_cons, if_pos (by tauto)]
  next heq => cases (List.cons.inj heq).1
  next heq => cases heq

theorem attributeChars_attributeUnit_cons {c : Char} (h : isBreak c = false)
    (rest : List TextUnit) :
    attributeChars (attributeUnit c :: rest) = c :: attributeChars rest := by
  have hliteral : attributeChars (.literal c :: rest) = c :: attributeChars rest := by
    simp only [isBreak, Bool.or_eq_false_iff, beq_eq_false_iff_ne] at h
    rw [attributeChars, if_neg (by tauto)]
    exact fun _ _ hreturn => h.2 hreturn
  unfold attributeUnit textUnit
  split
  · rw [attributeChars]
  · split
    · rw [attributeChars]
    · exact hliteral

theorem attributeUnit_of_isBreak {c : Char} (h : isBreak c = true) :
    attributeUnit c = .literal c := by
  simp only [isBreak, Bool.or_eq_true, beq_iff_eq] at h
  rcases h with (rfl | rfl) | rfl <;> rfl

/-- A value is read back exactly if it has no tabs and no line ends. -/
theorem settledValue_eq_self_iff (value : List Char) :
    settledValue value = value ↔ ∀ c ∈ value, isBreak c = false := by
  induction value with
  | nil => simp [settledValue, attributeChars]
  | cons c rest ih =>
      rw [List.forall_mem_cons, ← ih, settledValue, settledValue, List.map_cons]
      cases hbreak : isBreak c with
      | true =>
          refine iff_of_false ?_ (by simp)
          intro heq
          have hhead := head?_attributeChars_of_isBreak hbreak (rest.map attributeUnit)
          rw [← attributeUnit_of_isBreak hbreak, heq] at hhead
          cases hhead
          cases hbreak
      | false =>
          rw [attributeChars_attributeUnit_cons hbreak]
          simp

theorem Bracket.settled_eq_self_iff (b : Bracket) :
    b.settled = b ↔ ∀ pair ∈ b.attributes, ∀ c ∈ pair.2.toList, isBreak c = false := by
  cases b with
  | closing name => simp [Bracket.settled, Bracket.attributes]
  | opening name attributes =>
      have hpair (pair : String × String) :
          settledPair pair = pair ↔ ∀ c ∈ pair.2.toList, isBreak c = false := by
        rw [← settledValue_eq_self_iff, settledPair, Prod.ext_iff, ← String.toList_inj,
          ← String.toList_inj]
        simp
      have hmap := List.map_inj_left (f := settledPair) (g := id) (l := attributes)
      rw [List.map_id] at hmap
      simp only [Bracket.settled, Bracket.attributes, Bracket.opening.injEq, true_and, hmap, id,
        hpair]

/-! ## Texts -/

theorem readLiteral_cons_of_ne {last : Char} (h : last ≠ '\r') (before : List Char) (c : Char)
    (isLast : Bool) :
    readLiteral (last :: before) c isLast =
      (if isLast = true ∧ c = '\r' then '\n' else c) :: last :: before := by
  unfold readLiteral
  dsimp only
  split
  next heq => exact absurd (List.cons.inj heq).1 h
  next => rfl

theorem readLiteral_append {read : List Char} (h : read ≠ []) (before : List Char) (c : Char)
    (isLast : Bool) :
    readLiteral (read ++ before) c isLast = readLiteral read c isLast ++ before := by
  obtain ⟨last, others, rfl⟩ := List.exists_cons_of_ne_nil h
  by_cases hlast : last = '\r'
  · subst hlast
    simp only [readLiteral, List.cons_append]
    split <;> rfl
  · rw [List.cons_append, readLiteral_cons_of_ne hlast, readLiteral_cons_of_ne hlast]
    rfl

theorem readLiteral_ne_nil (read : List Char) (c : Char) (isLast : Bool) :
    readLiteral read c isLast ≠ [] := by
  unfold readLiteral
  dsimp only
  split
  · split <;> exact List.cons_ne_nil _ _
  · exact List.cons_ne_nil _ _

/-- Reading goes on at the character that was read last, whatever was read before. -/
theorem textChars_append {read : List Char} (h : read ≠ []) (before : List Char)
    (afterReference : Bool) (units : List TextUnit) :
    textChars (read ++ before) afterReference units =
      before.reverse ++ textChars read afterReference units := by
  induction units generalizing read afterReference with
  | nil => rw [textChars, textChars, List.reverse_append]
  | cons first rest ih =>
      cases first with
      | reference c =>
          rw [textChars, textChars, ← List.cons_append, ih (List.cons_ne_nil _ _)]
      | literal c =>
          rw [textChars, textChars]
          split
          · rw [← List.cons_append, ih (List.cons_ne_nil _ _)]
          · rw [readLiteral_append h, ih (readLiteral_ne_nil _ _ _)]

/-- A character that is not taken for the end of a line is kept as it stands. -/
theorem textChars_singleton {c : Char} {afterReference : Bool}
    (h : afterReference = true ∨ c ≠ '\r') (units : List TextUnit) :
    textChars [c] afterReference units = c :: textChars [] afterReference units := by
  cases units with
  | nil => rfl
  | cons first rest =>
      cases first with
      | reference d =>
          rw [textChars, textChars]
          exact textChars_append (List.cons_ne_nil d []) [c] true rest
      | literal d =>
          rw [textChars, textChars]
          split
          · exact textChars_append (List.cons_ne_nil d []) [c] false rest
          next hafter =>
            rw [readLiteral_cons_of_ne (h.resolve_left hafter)]
            exact textChars_append (List.cons_ne_nil _ []) [c] false rest

section Run

variable {c : Char} {afterNamed : Bool} (rest : List Char)

theorem settledFrom_cons_of_isNamed (h : isNamed c = true) :
    settledFrom afterNamed (c :: rest) = c :: settledFrom true rest := by
  rw [settledFrom, List.map_cons, textUnit, if_pos h, textChars, textChars_singleton (Or.inl rfl)]
  rfl

theorem settledFrom_cons_of_ne (h : isNamed c = false) (hreturn : c ≠ '\r') :
    settledFrom afterNamed (c :: rest) = c :: settledFrom false rest := by
  have hliteral : readLiteral [] c (rest.map textUnit).isEmpty = [c] := by
    simp [readLiteral, hreturn]
  rw [settledFrom, List.map_cons, textUnit, if_neg (by simp [h]), textChars, hliteral, ite_self,
    textChars_singleton (Or.inr hreturn)]
  rfl

/-- A carriage return before a character that is written by name is kept. -/
theorem settledFrom_return_of_isNamed (h : isNamed c = true) :
    settledFrom afterNamed ('\r' :: c :: rest) = '\r' :: settledFrom false (c :: rest) := by
  have hunit : textUnit c = .reference c := if_pos h
  have hliteral : readLiteral [] '\r' (List.map textUnit (c :: rest)).isEmpty = ['\r'] := rfl
  rw [settledFrom, settledFrom, List.map_cons, show textUnit '\r' = .literal '\r' from rfl,
    textChars, hliteral, ite_self, List.map_cons, hunit, textChars, textChars]
  exact textChars_append (List.cons_ne_nil c []) ['\r'] true _

/-- Before any other character it is read as the end of a line. -/
theorem head?_settledFrom_return (h : isNamed c = false) :
    (settledFrom afterNamed ('\r' :: c :: rest)).head? = some '\n' := by
  have hunit : textUnit c = .literal c := if_neg (by simp [h])
  have hliteral : readLiteral [] '\r' (List.map textUnit (c :: rest)).isEmpty = ['\r'] := rfl
  rw [settledFrom, List.map_cons, show textUnit '\r' = .literal '\r' from rfl, textChars,
    hliteral, ite_self, List.map_cons, hunit, textChars, if_neg Bool.false_ne_true]
  by_cases hfeed : c = '\n'
  · subst hfeed
    rw [show ∀ isLast, readLiteral ['\r'] '\n' isLast = ['\n'] from fun _ => rfl,
      textChars_singleton (Or.inr (by decide)), List.head?_cons]
  · have hline (isLast : Bool) : ∃ d, readLiteral ['\r'] c isLast = [d] ++ ['\n'] :=
      ⟨_, if_neg hfeed⟩
    obtain ⟨d, hd⟩ := hline (rest.map textUnit).isEmpty
    rw [hd, textChars_append (List.cons_ne_nil d [])]
    rfl

end Run

/-! ## Carriage returns -/

/-- Whether a mark is a character that is written by name. -/
def Mark.isNamed : Mark → Bool
  | .bracket _ => false
  | .char c => Markup.isNamed c

/-- Whether a mark is a bracket. -/
def Mark.isBracket : Mark → Bool
  | .bracket _ => true
  | .char _ => false

/-- Every carriage return of a row stands before a character that is written by name, or between
such a character and a bracket or the end. `afterNamed` says whether such a character stands before
the row. -/
def ReturnsKept (afterNamed : Bool) : List Mark → Prop
  | [] => True
  | .bracket _ :: rest => ReturnsKept false rest
  | .char c :: rest =>
    (c = '\r' → rest.head?.any Mark.isNamed = true ∨
      afterNamed = true ∧ rest.head?.all Mark.isBracket = true) ∧
    ReturnsKept (isNamed c) rest

theorem forall_split_cons_iff {α : Type} {first x : α} {rest : List α}
    {p : List α → List α → Prop} :
    (∀ before after, first :: rest = before ++ x :: after → p before after) ↔
      (first = x → p [] rest) ∧
        ∀ before after, rest = before ++ x :: after → p (first :: before) after := by
  constructor
  · intro h
    exact ⟨fun hfirst => h [] rest (by rw [hfirst]; rfl),
      fun before after hrest => h (first :: before) after (by rw [hrest]; rfl)⟩
  · rintro ⟨hfirst, hrest⟩ before after heq
    cases before with
    | nil =>
        obtain ⟨rfl, rfl⟩ := List.cons.inj heq
        exact hfirst rfl
    | cons other before =>
        obtain ⟨rfl, hafter⟩ := List.cons.inj heq
        exact hrest before after hafter

theorem returnsKept_iff {afterNamed : Bool} {marks : List Mark} :
    ReturnsKept afterNamed marks ↔ ∀ before after, marks = before ++ .char '\r' :: after →
      after.head?.any Mark.isNamed = true ∨
        (before.getLast?.any Mark.isNamed = true ∨ before = [] ∧ afterNamed = true) ∧
          after.head?.all Mark.isBracket = true := by
  induction marks generalizing afterNamed with
  | nil => simp [ReturnsKept]
  | cons first rest ih =>
      have hlast (before : List Mark) (flag : Bool) :
          ((first :: before).getLast?.any Mark.isNamed = true ∨
              first :: before = [] ∧ flag = true) ↔
            (before.getLast?.any Mark.isNamed = true ∨ before = [] ∧ first.isNamed = true) := by
        cases before with
        | nil => simp
        | cons second before => simp
      rw [forall_split_cons_iff]
      simp only [hlast]
      cases first with
      | bracket b =>
          rw [ReturnsKept, ih]
          simp [Mark.isNamed]
      | char c =>
          rw [ReturnsKept, ih]
          simp [Mark.isNamed]

theorem settledFrom_eq_self_iff (afterNamed : Bool) (run : List Char) :
    settledFrom afterNamed run = run ↔ ReturnsKept afterNamed (run.map .char) := by
  induction run generalizing afterNamed with
  | nil => simp [settledFrom, textChars, ReturnsKept]
  | cons c rest ih =>
      rw [List.map_cons, ReturnsKept]
      by_cases hreturn : c = '\r'
      · subst hreturn
        cases rest with
        | nil =>
            have hend : settledFrom afterNamed ['\r'] = ['\r'] ↔ afterNamed = true := by
              cases afterNamed <;> decide
            simp [hend, ReturnsKept]
        | cons next rest =>
            cases hnamed : isNamed next with
            | true =>
                rw [settledFrom_return_of_isNamed rest hnamed, List.cons.injEq, ih]
                simp [Mark.isNamed, hnamed, show isNamed '\r' = false from rfl]
            | false =>
                have hhead : (settledFrom afterNamed ('\r' :: next :: rest)).head? = some '\n' :=
                  head?_settledFrom_return rest hnamed
                refine iff_of_false ?_ ?_
                · intro heq
                  rw [heq] at hhead
                  simp at hhead
                · simp [Mark.isNamed, Mark.isBracket, hnamed]
      · cases hnamed : isNamed c with
        | true =>
            rw [settledFrom_cons_of_isNamed rest hnamed, List.cons.injEq, ih]
            simp [hreturn]
        | false =>
            rw [settledFrom_cons_of_ne rest hnamed hreturn, List.cons.injEq, ih]
            simp [hreturn]

theorem returnsKept_append_bracket (afterNamed : Bool) (run : List Char) (b : Bracket)
    (rest : List Mark) :
    ReturnsKept afterNamed (run.map .char ++ .bracket b :: rest) ↔
      ReturnsKept afterNamed (run.map .char) ∧ ReturnsKept false rest := by
  induction run generalizing afterNamed with
  | nil => simp [ReturnsKept]
  | cons c run ih =>
      rw [List.map_cons, List.cons_append, ReturnsKept, ReturnsKept, ih, and_assoc]
      cases run with
      | nil => simp [Mark.isNamed, Mark.isBracket]
      | cons next run => simp

theorem map_char_append_bracket_inj {xs ys : List Char} {b other : Bracket}
    {rest more : List Mark} :
    xs.map .char ++ .bracket b :: rest = ys.map .char ++ .bracket other :: more ↔
      xs = ys ∧ b = other ∧ rest = more := by
  induction xs generalizing ys with
  | nil => cases ys <;> simp
  | cons c xs ih =>
      cases ys with
      | nil => simp
      | cons d ys => simp [ih, and_assoc]

theorem settled_eq_append_iff (run : List Char) (marks : List Mark) :
    settled run marks = run.map .char ++ marks ↔
      (∀ b, .bracket b ∈ marks → b.settled = b) ∧ ReturnsKept false (run.map .char ++ marks) := by
  induction marks generalizing run with
  | nil =>
      have hinj : Function.Injective Mark.char := fun c d h => Mark.char.inj h
      rw [settled, List.append_nil, hinj.list_map.eq_iff, settledFrom_eq_self_iff]
      simp
  | cons first rest ih =>
      cases first with
      | char c =>
          have hrun : run.map Mark.char ++ .char c :: rest = (run ++ [c]).map .char ++ rest := by
            simp
          rw [settled, hrun, ih]
          simp
      | bracket b =>
          have hrest := ih []
          rw [List.map_nil, List.nil_append] at hrest
          rw [settled, map_char_append_bracket_inj, hrest, settledFrom_eq_self_iff,
            returnsKept_append_bracket]
          simp only [List.mem_cons, Mark.bracket.injEq, forall_eq_or_imp]
          tauto

/-- A row of marks is read back exactly if no value of an attribute has a tab or a line end, and
every carriage return of a text stands before a character that is written by name, or between such a
character and a bracket or the end. -/
theorem settled_eq_self_iff (marks : List Mark) :
    settled [] marks = marks ↔
      (∀ mark ∈ marks, ∀ pair ∈ mark.attributes, ∀ c ∈ pair.2.toList, isBreak c = false) ∧
      ∀ before after, marks = before ++ .char '\r' :: after →
        after.head?.any Mark.isNamed = true ∨
          before.getLast?.any Mark.isNamed = true ∧ after.head?.all Mark.isBracket = true := by
  have hself := settled_eq_append_iff [] marks
  rw [List.map_nil, List.nil_append] at hself
  simp only [hself, returnsKept_iff, Bracket.settled_eq_self_iff, Bool.false_eq_true, and_false,
    or_false]
  refine and_congr_left fun _ => ⟨?_, ?_⟩
  · intro h mark hmark
    cases mark with
    | bracket b => exact h b hmark
    | char c => simp [Mark.attributes]
  · intro h b hmem
    exact h _ hmem

theorem length_textChars_le (read : List Char) (afterReference : Bool) (units : List TextUnit) :
    (textChars read afterReference units).length ≤ read.length + units.length := by
  induction units generalizing read afterReference with
  | nil => simp [textChars]
  | cons first rest ih =>
      cases first with
      | reference c =>
          have hread := ih (c :: read) true
          rw [List.length_cons] at hread
          rw [textChars, List.length_cons]
          omega
      | literal c =>
          have hliteral : (readLiteral read c rest.isEmpty).length ≤ read.length + 1 := by
            unfold readLiteral
            dsimp only
            split
            · split <;> simp
            · simp
          have hkept := ih (c :: read) false
          have hread := ih (readLiteral read c rest.isEmpty) false
          rw [List.length_cons] at hkept
          rw [textChars, List.length_cons]
          split <;> omega

theorem length_settledFrom_le (afterNamed : Bool) (run : List Char) :
    (settledFrom afterNamed run).length ≤ run.length := by
  have hlength := length_textChars_le [] afterNamed (run.map textUnit)
  rwa [List.length_nil, Nat.zero_add, List.length_map] at hlength

/-- Nothing is put in on the way. -/
theorem length_settled_le (run : List Char) (marks : List Mark) :
    (settled run marks).length ≤ run.length + marks.length := by
  induction marks generalizing run with
  | nil =>
      rw [settled, List.length_map]
      exact length_settledFrom_le false run
  | cons first rest ih =>
      cases first with
      | char c =>
          have hrun := ih (run ++ [c])
          rw [List.length_append, List.length_singleton] at hrun
          rw [settled, List.length_cons]
          omega
      | bracket b =>
          have hrun := length_settledFrom_le false run
          have hrest := ih []
          rw [List.length_nil] at hrest
          rw [settled, List.length_append, List.length_map, List.length_cons, List.length_cons]
          omega

end Gamebook.Markup
