import Mathlib.Tactic.SplitIfs
import Gamebook.Play.StateBlock
import Gamebook.Proofs.Text.Blanks
import Gamebook.Text.Entity

/-! # Where the spans of a text are

Only braces open and close spans. Spans therefore stay what they are when other characters are
written by name (`spanBodies_escapeText`) and when blanks are taken from the ends of a text
(`spanBodies_trim`).
-/

namespace Gamebook.Text

/-! ## The first double brace -/

variable {b : Char}

/-- A text is cut at two braces in a row. -/
theorem splitText_cons (b c : Char) (rest : List Char) :
    splitText [b, b] (c :: rest) =
      if c = b ∧ rest.head? = some b then some ([], rest.tail)
      else (splitText [b, b] rest).map fun parts => (c :: parts.1, parts.2) := by
  have hpair : [b, b].isPrefixOf (c :: rest) = true ↔ c = b ∧ rest.head? = some b := by
    rw [List.isPrefixOf_iff_prefix, List.cons_prefix_cons]
    cases rest with
    | nil => simp
    | cons next rest => simp [List.cons_prefix_cons, eq_comm]
  rw [splitText]
  by_cases h : c = b ∧ rest.head? = some b
  · rw [if_pos (hpair.2 h), if_pos h]
    cases rest <;> rfl
  · rw [if_neg fun hprefix => h (hpair.1 hprefix), if_neg h]

theorem splitText_append_left {start : List Char} (h : b ∉ start) (text : List Char) :
    splitText [b, b] (start ++ text) =
      (splitText [b, b] text).map fun parts => (start ++ parts.1, parts.2) := by
  induction start with
  | nil => simp
  | cons c start ih =>
      have hc : c ≠ b := fun heq => h (heq ▸ List.mem_cons_self)
      have hstart : b ∉ start := fun hmem => h (List.mem_cons_of_mem _ hmem)
      rw [List.cons_append, splitText_cons, if_neg fun hpair => hc hpair.1, ih hstart,
        Option.map_map]
      rfl

theorem splitText_eq_none {text : List Char} (h : b ∉ text) : splitText [b, b] text = none := by
  have hsplit := splitText_append_left h []
  rw [List.append_nil] at hsplit
  exact hsplit

theorem splitText_append_right {stop : List Char} (h : b ∉ stop) (text : List Char) :
    splitText [b, b] (text ++ stop) =
      (splitText [b, b] text).map fun parts => (parts.1, parts.2 ++ stop) := by
  induction text with
  | nil => exact splitText_eq_none h
  | cons c rest ih =>
      have hhead : (rest ++ stop).head? = some b ↔ rest.head? = some b := by
        cases rest with
        | nil => exact iff_of_false (fun hstop => h (List.mem_of_head? hstop)) (by simp)
        | cons next rest => rfl
      rw [List.cons_append, splitText_cons, splitText_cons]
      by_cases hpair : c = b ∧ rest.head? = some b
      · rw [if_pos (by rwa [hhead]), if_pos hpair]
        cases rest with
        | nil => simp at hpair
        | cons next rest => rfl
      · rw [if_neg (by rwa [hhead]), if_neg hpair, ih, Option.map_map, Option.map_map]
        rfl

/-- Characters are written in a way that leaves a brace where it is: the brace is written as it
stands, and no other character is written with one or with nothing. -/
structure Spares (write : Char → List Char) (b : Char) : Prop where
  same : write b = [b]
  ne_nil : ∀ c, write c ≠ []
  not_mem : ∀ c, c ≠ b → b ∉ write c

namespace Spares

variable {write : Char → List Char}

theorem head?_flatMap (h : Spares write b) (text : List Char) :
    (text.flatMap write).head? = some b ↔ text.head? = some b := by
  cases text with
  | nil => rfl
  | cons c rest =>
      rw [List.flatMap_cons, List.head?_append, List.head?_cons, Option.some.injEq]
      by_cases hc : c = b
      · simp [hc, h.same]
      · refine iff_of_false ?_ hc
        cases hwrite : write c with
        | nil => exact absurd hwrite (h.ne_nil c)
        | cons first others =>
            intro hfirst
            apply h.not_mem c hc
            rw [hwrite, List.mem_cons]
            exact Or.inl (Option.some.inj hfirst).symm

theorem splitText_flatMap (h : Spares write b) (text : List Char) :
    splitText [b, b] (text.flatMap write) =
      (splitText [b, b] text).map fun parts => (parts.1.flatMap write, parts.2.flatMap write) := by
  induction text with
  | nil => rfl
  | cons c rest ih =>
      rw [List.flatMap_cons, splitText_cons]
      by_cases hc : c = b
      · rw [hc, h.same, List.singleton_append, splitText_cons]
        by_cases hhead : rest.head? = some b
        · rw [if_pos ⟨rfl, (h.head?_flatMap rest).2 hhead⟩, if_pos ⟨rfl, hhead⟩]
          cases rest with
          | nil => simp at hhead
          | cons next rest =>
              rw [List.head?_cons, Option.some.injEq] at hhead
              simp [hhead, h.same]
        · rw [if_neg fun hpair => hhead ((h.head?_flatMap rest).1 hpair.2),
            if_neg fun hpair => hhead hpair.2, ih, Option.map_map, Option.map_map]
          congr 1
          funext parts
          simp [h.same]
      · rw [splitText_append_left (h.not_mem c hc), if_neg fun hpair => hc hpair.1, ih,
          Option.map_map, Option.map_map]
        rfl

end Spares

/-! ## Spans -/

theorem spanBodies_eq (text : List Char) :
    spanBodies text = match splitText openBraces text with
      | none => []
      | some (_, rest) =>
        match splitText closeBraces rest with
        | none => []
        | some (body, after) => body :: spanBodies after := by
  rw [spanBodies, pieces]
  split
  next hopen => rw [hopen]; rfl
  next before rest hopen =>
    rw [hopen]
    dsimp only
    split
    next hclose => rw [hclose]; rfl
    next body after hclose => rw [hclose]; rfl

theorem spanBodies_append_left {start : List Char} (h : '{' ∉ start) (text : List Char) :
    spanBodies (start ++ text) = spanBodies text := by
  rw [spanBodies_eq, spanBodies_eq text, openBraces, splitText_append_left h]
  cases splitText ['{', '{'] text <;> rfl

/-- A change of texts that can be made before a cut or after it. What stands before the cut may
change in another way than what stands behind it. -/
def CommutesWithCut (marks : List Char) (before write : List Char → List Char) : Prop :=
  ∀ text, splitText marks (write text) =
    (splitText marks text).map fun parts => (before parts.1, write parts.2)

/-- A change that can be made before or after every cut is made to every span. -/
theorem spanBodies_map {before inner write : List Char → List Char}
    (hopen : CommutesWithCut openBraces before write)
    (hclose : CommutesWithCut closeBraces inner write) (text : List Char) :
    spanBodies (write text) = (spanBodies text).map inner := by
  fun_induction pieces text with
  | case1 text hnone =>
      rw [spanBodies_eq, spanBodies_eq text, hopen text, hnone]
      rfl
  | case2 text start rest hsome hnone =>
      rw [spanBodies_eq, spanBodies_eq text, hopen text, hsome]
      simp only [Option.map_some]
      rw [hclose rest, hnone]
      rfl
  | case3 text start rest hsome body after hbody ih =>
      rw [spanBodies_eq, spanBodies_eq text, hopen text, hsome]
      simp only [Option.map_some]
      rw [hclose rest, hbody]
      simp only [Option.map_some, List.map_cons]
      rw [ih]

theorem spanBodies_append_right {stop : List Char} (hopen : '{' ∉ stop) (hclose : '}' ∉ stop)
    (text : List Char) : spanBodies (text ++ stop) = spanBodies text := by
  have hopens : CommutesWithCut openBraces id (· ++ stop) := splitText_append_right hopen
  have hcloses : CommutesWithCut closeBraces id (· ++ stop) := splitText_append_right hclose
  exact (spanBodies_map hopens hcloses text).trans (List.map_id _)

/-- Spans are written character by character like the text around them. -/
theorem spanBodies_flatMap {write : Char → List Char} (hopen : Spares write '{')
    (hclose : Spares write '}') (text : List Char) :
    spanBodies (text.flatMap write) = (spanBodies text).map (List.flatMap write) :=
  spanBodies_map hopen.splitText_flatMap hclose.splitText_flatMap text

theorem spares_escapeTextChar {b : Char} (hamp : b ≠ '&') (hless : b ≠ '<') (hmore : b ≠ '>')
    (hname : b ∉ ['&', 'a', 'm', 'p', ';', 'l', 't', 'g']) : Spares escapeTextChar b where
  same := by simp [escapeTextChar, hamp, hless, hmore]
  ne_nil c := by
    unfold escapeTextChar
    split_ifs <;> simp
  not_mem c hc := by
    unfold escapeTextChar
    split_ifs <;> simp_all [eq_comm]

/-- Writing characters by name changes no span but in the same way. -/
theorem spanBodies_escapeText (text : List Char) :
    spanBodies (escapeText text) = (spanBodies text).map escapeText :=
  spanBodies_flatMap (spares_escapeTextChar (by decide) (by decide) (by decide) (by decide))
    (spares_escapeTextChar (by decide) (by decide) (by decide) (by decide)) text

theorem not_mem_of_forall_isBlank {b : Char} (hb : isBlank b = false) {cs : List Char}
    (h : ∀ c ∈ cs, isBlank c = true) : b ∉ cs := by
  intro hmem
  rw [h b hmem] at hb
  cases hb

/-- The spans of a text are not at its blank ends. -/
theorem spanBodies_trim (text : List Char) : spanBodies (trim text) = spanBodies text := by
  obtain ⟨start, stop, heq, hstart, hstop⟩ := exists_trim text
  calc spanBodies (trim text)
      = spanBodies (start ++ trim text) :=
        (spanBodies_append_left (not_mem_of_forall_isBlank (by decide) hstart) _).symm
    _ = spanBodies (start ++ trim text ++ stop) :=
        (spanBodies_append_right (not_mem_of_forall_isBlank (by decide) hstop)
          (not_mem_of_forall_isBlank (by decide) hstop) _).symm
    _ = spanBodies text := by rw [← heq]

end Gamebook.Text
