import Mathlib.Data.List.DropRight
import Gamebook.Markup.Printer
import Gamebook.Proofs.Text.Blanks

/-! # Marks

A tree is written as a row of marks: the brackets around its elements and the characters of its
texts. The row says what is written (`markups_eq_written`) and what the text within the tree is
(`contents_eq_chars`), and it does not tell apart texts that stand side by side. Brackets are
balanced in it, also when the blanks at its ends are taken away (`Balanced.trimmedMarks`).
-/

namespace Gamebook.Markup

/-- A tag that begins or ends an element. -/
inductive Bracket where
  | opening (name : String) (attributes : List (String × String))
  | closing (name : String)
deriving DecidableEq

/-- A bracket, or a character of a text. -/
inductive Mark where
  | bracket (bracket : Bracket)
  | char (c : Char)
deriving DecidableEq

/-- What a bracket says. -/
def Bracket.inside : Bracket → List Char
  | .opening name attributes => name.toList ++ attributes.flatMap attributeMarkup
  | .closing name => '/' :: name.toList

/-- A bracket as it is written. -/
def Bracket.markup (b : Bracket) : List Char :=
  '<' :: (b.inside ++ ['>'])

/-- A mark as it is written. -/
def Mark.markup : Mark → List Char
  | .bracket b => b.markup
  | .char c => Text.escapeTextChar c

/-- The character that a mark is. -/
def Mark.char? : Mark → Option Char
  | .bracket _ => none
  | .char c => some c

/-- The attributes of an opening bracket. -/
def Bracket.attributes : Bracket → List (String × String)
  | .opening _ attributes => attributes
  | .closing _ => []

/-- The attributes that a mark has. -/
def Mark.attributes : Mark → List (String × String)
  | .bracket b => b.attributes
  | .char _ => []

/-- A row of marks as it is written. -/
def written (marks : List Mark) : List Char :=
  marks.flatMap Mark.markup

/-- The characters in a row of marks. -/
def chars (marks : List Mark) : List Char :=
  marks.filterMap Mark.char?

mutual

/-- The marks of a node. -/
def Node.marks : Node → List Mark
  | .element name attributes children _ =>
    .bracket (.opening name attributes) :: (marksAll children ++ [.bracket (.closing name)])
  | .text content _ => content.toList.map .char

/-- The marks of several nodes, one after the other. -/
def marksAll : List Node → List Mark
  | [] => []
  | first :: rest => first.marks ++ marksAll rest

end

@[simp]
theorem written_nil : written [] = [] := rfl

@[simp]
theorem written_cons (mark : Mark) (marks : List Mark) :
    written (mark :: marks) = mark.markup ++ written marks := rfl

@[simp]
theorem written_append (xs ys : List Mark) : written (xs ++ ys) = written xs ++ written ys :=
  List.flatMap_append

theorem written_map_char (text : List Char) : written (text.map .char) = Text.escapeText text := by
  simp only [written, Text.escapeText, List.flatMap_map, Mark.markup]

@[simp]
theorem chars_append (xs ys : List Mark) : chars (xs ++ ys) = chars xs ++ chars ys :=
  List.filterMap_append

@[simp]
theorem chars_map_char (text : List Char) : chars (text.map .char) = text := by
  rw [chars, List.filterMap_map]
  exact List.filterMap_some

theorem marksAll_append (xs ys : List Node) : marksAll (xs ++ ys) = marksAll xs ++ marksAll ys := by
  induction xs with
  | nil => rfl
  | cons first rest ih => rw [List.cons_append, marksAll, marksAll, ih, List.append_assoc]

theorem mem_marksAll {mark : Mark} {nodes : List Node} :
    mark ∈ marksAll nodes ↔ ∃ node ∈ nodes, mark ∈ node.marks := by
  induction nodes with
  | nil => simp [marksAll]
  | cons first rest ih => simp [marksAll, ih]

mutual

theorem markup_eq_written : (node : Node) → node.markup = written node.marks
  | .element name attributes children span => by
    simp [Node.markup, Node.marks, Mark.markup, Bracket.markup, Bracket.inside,
      markups_eq_written children]
  | .text content span => by
    rw [Node.markup, Node.marks, written_map_char]

/-- Nodes are written mark by mark. -/
theorem markups_eq_written : (nodes : List Node) → markups nodes = written (marksAll nodes)
  | [] => rfl
  | first :: rest => by
    rw [markups, marksAll, written_append, markup_eq_written first, markups_eq_written rest]

end

mutual

theorem content_eq_chars : (node : Node) → node.content = chars node.marks
  | .element name attributes children span => by
    rw [Node.content, Node.marks, contents_eq_chars children]
    simp [chars, Mark.char?, List.filterMap_cons]
  | .text content span => by
    rw [Node.content, Node.marks, chars_map_char]

/-- The text within nodes is what their marks are without the brackets. -/
theorem contents_eq_chars : (nodes : List Node) → contents nodes = chars (marksAll nodes)
  | [] => rfl
  | first :: rest => by
    rw [contents, marksAll, chars_append, content_eq_chars first, contents_eq_chars rest]

end

/-! ## Blanks at the ends -/

/-- Whether a mark is a blank character. -/
def Mark.isBlank : Mark → Bool
  | .bracket _ => false
  | .char c => Text.isBlank c

/-- A row of marks without the blanks at its ends. -/
def trimmedMarks (marks : List Mark) : List Mark :=
  (marks.dropWhile Mark.isBlank).rdropWhile Mark.isBlank

theorem trimmedMarks_sublist (marks : List Mark) : (trimmedMarks marks).Sublist marks :=
  (List.rdropWhile_prefix _ _).sublist.trans (List.dropWhile_sublist _)

theorem exists_trimmedMarks (marks : List Mark) :
    ∃ start stop, marks = start ++ (trimmedMarks marks ++ stop) ∧
      (∀ mark ∈ start, mark.isBlank = true) ∧ ∀ mark ∈ stop, mark.isBlank = true := by
  refine ⟨marks.takeWhile Mark.isBlank, (marks.dropWhile Mark.isBlank).rtakeWhile Mark.isBlank, ?_,
    fun mark hmark => List.mem_takeWhile_imp hmark, fun mark hmark => List.mem_rtakeWhile_imp hmark⟩
  rw [trimmedMarks, List.rdropWhile_append_rtakeWhile, List.takeWhile_append_dropWhile]

theorem trimmedMarks_map_char (text : List Char) :
    trimmedMarks (text.map .char) = (Text.trim text).map .char := by
  simp only [trimmedMarks, List.rdropWhile, List.dropWhile_map, ← List.map_reverse, Text.trim,
    Text.trimRight]
  rfl

theorem isBlank_of_mem_chars {marks : List Mark} (h : ∀ mark ∈ marks, mark.isBlank = true)
    {c : Char} (hc : c ∈ chars marks) : Text.isBlank c = true := by
  obtain ⟨mark, hmark, hchar⟩ := List.mem_filterMap.1 hc
  cases mark with
  | bracket b => cases hchar
  | char other =>
      cases hchar
      exact h _ hmark

/-- The text of a row of marks is the same up to the blanks around it. -/
theorem trim_chars_trimmedMarks (marks : List Mark) :
    Text.trim (chars (trimmedMarks marks)) = Text.trim (chars marks) := by
  obtain ⟨start, stop, heq, hstart, hstop⟩ := exists_trimmedMarks marks
  have hchars := congrArg chars heq
  rw [chars_append, chars_append] at hchars
  rw [hchars, Text.trim_append_blanks (fun c => isBlank_of_mem_chars hstart)
    (fun c => isBlank_of_mem_chars hstop)]

/-- What is written for a blank is the blank itself. -/
theorem Mark.exists_markup_of_isBlank {mark : Mark} (h : mark.isBlank = true) :
    ∃ c, mark.markup = [c] ∧ Text.isBlank c = true := by
  cases mark with
  | bracket b => cases h
  | char c =>
      have hc : Text.isBlank c = true := h
      rcases Text.escapeTextChar_cases c with (rfl | rfl | rfl) | ⟨-, hself⟩
      · exact absurd hc (by decide)
      · exact absurd hc (by decide)
      · exact absurd hc (by decide)
      · exact ⟨c, hself, hc⟩

/-- What is written for any other mark has no blanks at its ends. -/
theorem Mark.trim_markup {mark : Mark} (h : mark.isBlank = false) :
    mark.markup ≠ [] ∧ Text.trim mark.markup = mark.markup := by
  cases mark with
  | bracket b =>
      rw [Text.trim_eq_self_iff, Mark.markup, Bracket.markup, ← List.cons_append,
        List.getLast?_concat]
      simp only [List.cons_append, List.head?_cons, Option.mem_some_iff, forall_eq']
      exact ⟨List.cons_ne_nil _ _, by decide, by decide⟩
  | char c =>
      have hc : Text.isBlank c = false := h
      rcases Text.escapeTextChar_cases c with (rfl | rfl | rfl) | ⟨-, hself⟩
      · decide
      · decide
      · decide
      · rw [Mark.markup, hself, Text.trim_eq_self_iff]
        simp [hc]

theorem dropWhile_written (marks : List Mark) :
    (written marks).dropWhile Text.isBlank = written (marks.dropWhile Mark.isBlank) := by
  induction marks with
  | nil => rfl
  | cons first rest ih =>
      rw [written_cons, List.dropWhile_cons]
      split
      next hblank =>
        obtain ⟨c, hc, hblank⟩ := Mark.exists_markup_of_isBlank hblank
        rw [hc, List.singleton_append, List.dropWhile_cons_of_pos hblank, ih]
      next hblank =>
        obtain ⟨hne, htrim⟩ := Mark.trim_markup (Bool.eq_false_iff.2 hblank)
        rw [Text.trim_eq_self_iff] at htrim
        have hself : (first.markup ++ written rest).dropWhile Text.isBlank =
            first.markup ++ written rest := by
          rw [Text.dropWhile_isBlank_eq_self_iff, List.head?_append_of_ne_nil _ hne]
          exact htrim.1
        rw [hself, written_cons]

theorem trimRight_written (marks : List Mark) :
    Text.trimRight (written marks) = written (marks.rdropWhile Mark.isBlank) := by
  induction marks using List.reverseRecOn with
  | nil => rfl
  | append_singleton marks last ih =>
      rw [written_append, List.rdropWhile_concat]
      split
      next hblank =>
        obtain ⟨c, hc, hblank⟩ := Mark.exists_markup_of_isBlank hblank
        rw [written_cons, hc, Text.trimRight_append_blanks (by simp [hblank]), ih]
      next hblank =>
        obtain ⟨hne, htrim⟩ := Mark.trim_markup (Bool.eq_false_iff.2 hblank)
        rw [Text.trim_eq_self_iff] at htrim
        rw [written_append, written_cons, written_nil, List.append_nil,
          Text.trimRight_eq_self_iff, List.getLast?_append_of_ne_nil _ hne]
        exact htrim.2

/-- The blanks around what is written are the blanks around the marks. -/
theorem trim_written (marks : List Mark) :
    Text.trim (written marks) = written (trimmedMarks marks) := by
  rw [Text.trim, dropWhile_written, trimRight_written, trimmedMarks]

/-! ## Balance -/

/-- Rows of marks in which every opening bracket has a closing bracket of its own. -/
inductive Balanced : List Mark → Prop where
  | nil : Balanced []
  | char {rest : List Mark} (c : Char) (hrest : Balanced rest) : Balanced (.char c :: rest)
  | element {inner rest : List Mark} (name : String) (attributes : List (String × String))
      (hinner : Balanced inner) (hrest : Balanced rest) :
      Balanced (.bracket (.opening name attributes) :: (inner ++ .bracket (.closing name) :: rest))

namespace Balanced

variable {xs ys : List Mark}

theorem append (hxs : Balanced xs) (hys : Balanced ys) : Balanced (xs ++ ys) := by
  induction hxs with
  | nil => exact hys
  | char c _ ih => exact .char c ih
  | element name attributes hinner _ _ ih =>
      rw [List.cons_append, List.append_assoc, List.cons_append]
      exact .element name attributes hinner ih

theorem map_char (text : List Char) : Balanced (text.map .char) := by
  induction text with
  | nil => exact .nil
  | cons c rest ih => exact .char c ih

theorem dropWhile (h : Balanced xs) : Balanced (xs.dropWhile Mark.isBlank) := by
  induction h with
  | nil => exact .nil
  | char c hrest ih =>
      rw [List.dropWhile_cons]
      split
      · exact ih
      · exact .char c hrest
  | element name attributes hinner hrest _ _ => exact .element name attributes hinner hrest

/-- A character at the end does not count for the balance. -/
theorem of_append_char {c : Char} (h : Balanced (xs ++ [.char c])) : Balanced xs := by
  generalize hwhole : xs ++ [.char c] = whole at h
  induction h generalizing xs with
  | nil => simp at hwhole
  | char other hrest ih =>
      cases xs with
      | nil => exact .nil
      | cons first xs =>
          obtain ⟨rfl, heq⟩ := List.cons.inj hwhole
          exact .char other (ih heq)
  | @element inner rest name attributes hinner hrest _ ih =>
      have hsplit : xs ++ [.char c] =
          (.bracket (.opening name attributes) :: (inner ++ [.bracket (.closing name)])) ++
            rest := by
        rw [hwhole]
        simp
      rcases List.append_eq_append_iff.1 hsplit with ⟨more, hfront, hmore⟩ | ⟨more, rfl, rfl⟩
      · -- The row cannot end within the element, whose last mark is a bracket.
        cases more with
        | nil =>
            rw [List.append_nil] at hfront
            rw [← hfront]
            exact .element name attributes hinner .nil
        | cons first more =>
            obtain ⟨rfl, hnil⟩ := List.cons.inj hmore
            obtain ⟨rfl, -⟩ := List.append_eq_nil_iff.1 hnil.symm
            rw [← List.cons_append] at hfront
            have hlast := (List.append_inj' hfront rfl).2
            cases hlast
      · have hrow := Balanced.element name attributes hinner (ih rfl)
        simpa using hrow

theorem rdropWhile (h : Balanced xs) : Balanced (xs.rdropWhile Mark.isBlank) := by
  induction xs using List.reverseRecOn with
  | nil => exact .nil
  | append_singleton xs last ih =>
      rw [List.rdropWhile_concat]
      split
      next hblank =>
        cases last with
        | bracket b => cases hblank
        | char c => exact ih h.of_append_char
      next => exact h

theorem trimmedMarks (h : Balanced xs) : Balanced (trimmedMarks xs) :=
  h.dropWhile.rdropWhile

end Balanced

mutual

theorem balanced_marks : (node : Node) → Balanced node.marks
  | .element name attributes children _ =>
    .element name attributes (balanced_marksAll children) .nil
  | .text content _ => .map_char content.toList

theorem balanced_marksAll : (nodes : List Node) → Balanced (marksAll nodes)
  | [] => .nil
  | first :: rest => (balanced_marks first).append (balanced_marksAll rest)

end

end Gamebook.Markup
