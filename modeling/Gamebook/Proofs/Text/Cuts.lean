import Mathlib.Data.List.Basic
import Gamebook.Text.Braces

/-! # Where a text is cut

A text is cut at the first place where another text stands (`splitText_eq_some_iff`), and into spans
from the first double opening brace that is left to the first double closing brace after it. There
is one such way to cut it, `pieces` (`isCut_iff`), and `pieces_eq_span_iff` says when it makes the
whole text one span.
-/

namespace Gamebook.Text

/-- What stands before and after the first place where `stop` stands. -/
structure CutsFirst (stop text before after : List Char) : Prop where
  eq_append : text = before ++ (stop ++ after)
  le_length : ∀ start rest, text = start ++ (stop ++ rest) → before.length ≤ start.length

/-- A text with literal text and spans in turn: each span goes from the first double opening brace
that is left to the first double closing brace after it, and the last literal text has none in
it. -/
inductive IsCut : List Char → List Piece → Prop where
  | rest {text : List Char}
      (hnone : ∀ before body after,
        text ≠ before ++ (openBraces ++ (body ++ (closeBraces ++ after)))) :
      IsCut text [.literal text]
  | span {text before rest body after : List Char} {others : List Piece}
      (hopen : CutsFirst openBraces text before rest)
      (hclose : CutsFirst closeBraces rest body after) (hothers : IsCut after others) :
      IsCut text (.literal before :: .span body :: others)

/-! ## The first place -/

variable {stop text before after : List Char}

theorem CutsFirst.unique (h : CutsFirst stop text before after) {start rest : List Char}
    (hother : CutsFirst stop text start rest) : before = start ∧ after = rest := by
  have hlength := Nat.le_antisymm (h.le_length _ _ hother.eq_append)
    (hother.le_length _ _ h.eq_append)
  obtain ⟨hbefore, hrest⟩ := List.append_inj (h.eq_append.symm.trans hother.eq_append) hlength
  exact ⟨hbefore, List.append_cancel_left hrest⟩

/-- What stands behind any place where `stop` stands also stands behind the first. -/
theorem CutsFirst.suffix (h : CutsFirst stop text before after) {start rest : List Char}
    (heq : text = start ++ (stop ++ rest)) : rest <:+ after := by
  have hle := h.le_length start rest heq
  have hafter : after <:+ text := ⟨before ++ stop, by rw [h.eq_append, List.append_assoc]⟩
  have hrest : rest <:+ text := ⟨start ++ stop, by rw [heq, List.append_assoc]⟩
  refine List.suffix_of_suffix_length_le hrest hafter ?_
  have hlength := congrArg List.length (h.eq_append.symm.trans heq)
  simp only [List.length_append] at hlength
  omega

theorem cutsFirst_of_splitText (h : splitText stop text = some (before, after)) :
    CutsFirst stop text before after := by
  refine ⟨eq_append_of_splitText h, ?_⟩
  intro start rest heq
  induction text generalizing before start with
  | nil => cases h
  | cons c tail ih =>
      rw [splitText] at h
      split at h
      · cases h
        exact Nat.zero_le _
      next hstop =>
        obtain ⟨⟨inner, last⟩, hinner, hparts⟩ := Option.map_eq_some_iff.1 h
        cases hparts
        cases start with
        | nil =>
            rw [List.nil_append] at heq
            rw [heq] at hstop
            exact absurd (List.isPrefixOf_iff_prefix.2 (List.prefix_append stop rest)) hstop
        | cons first start =>
            rw [List.cons_append, List.cons.injEq] at heq
            exact Nat.succ_le_succ (ih hinner start heq.2)

theorem splitText_append_ne_none (hstop : stop ≠ []) (before after : List Char) :
    splitText stop (before ++ (stop ++ after)) ≠ none := by
  induction before with
  | nil =>
      cases stop with
      | nil => exact absurd rfl hstop
      | cons c stop =>
          rw [List.nil_append, List.cons_append, splitText, if_pos]
          · exact Option.some_ne_none _
          · exact List.isPrefixOf_iff_prefix.2 (List.prefix_append (c :: stop) after)
  | cons c before ih =>
      rw [List.cons_append, splitText]
      split
      · exact Option.some_ne_none _
      · rwa [Ne, Option.map_eq_none_iff]

theorem splitText_eq_some_iff (hstop : stop ≠ []) :
    splitText stop text = some (before, after) ↔ CutsFirst stop text before after := by
  refine ⟨cutsFirst_of_splitText, ?_⟩
  intro h
  cases hsplit : splitText stop text with
  | none =>
      rw [h.eq_append] at hsplit
      exact absurd hsplit (splitText_append_ne_none hstop before after)
  | some parts =>
      obtain ⟨rfl, rfl⟩ := h.unique (cutsFirst_of_splitText hsplit)
      rfl

/-- A text holds another if that stands somewhere in it. -/
theorem holds_iff (hstop : stop ≠ []) : holds stop text = true ↔ stop <:+: text := by
  unfold holds
  rw [Option.isSome_iff_exists]
  constructor
  · rintro ⟨⟨before, after⟩, hsplit⟩
    refine ⟨before, after, ?_⟩
    rw [eq_append_of_splitText hsplit, List.append_assoc]
  · rintro ⟨before, after, rfl⟩
    apply Option.ne_none_iff_exists'.1
    rw [List.append_assoc]
    exact splitText_append_ne_none hstop before after

/-! ## All spans -/

theorem openBraces_ne_nil : openBraces ≠ [] := List.cons_ne_nil _ _

theorem closeBraces_ne_nil : closeBraces ≠ [] := List.cons_ne_nil _ _

theorem isCut_pieces (text : List Char) : IsCut text (pieces text) := by
  fun_induction pieces text with
  | case1 text hnone =>
      refine .rest ?_
      rintro before body after rfl
      exact splitText_append_ne_none openBraces_ne_nil before _ hnone
  | case2 text before rest hopen hnone =>
      refine .rest ?_
      intro start body after heq
      -- A closing brace behind any opening brace is also behind the first.
      obtain ⟨skipped, hskipped⟩ := (cutsFirst_of_splitText hopen).suffix heq
      rw [← hskipped, ← List.append_assoc] at hnone
      exact splitText_append_ne_none closeBraces_ne_nil _ after hnone
  | case3 text before rest hopen body after hclose ih =>
      exact .span (cutsFirst_of_splitText hopen) (cutsFirst_of_splitText hclose) ih

theorem IsCut.eq_pieces {cut : List Piece} (h : IsCut text cut) : cut = pieces text := by
  induction h with
  | rest hnone =>
      rw [pieces]
      split
      · rfl
      next before rest hopen =>
        split
        · rfl
        next body after hclose =>
          refine absurd ?_ (hnone before body after)
          rw [← eq_append_of_splitText hclose, ← eq_append_of_splitText hopen]
  | span hopen hclose _ ih =>
      rw [← splitText_eq_some_iff openBraces_ne_nil] at hopen
      rw [← splitText_eq_some_iff closeBraces_ne_nil] at hclose
      rw [pieces]
      split
      next hnone => simp [hopen] at hnone
      next before rest hopen' =>
        cases hopen.symm.trans hopen'
        split
        next hnone => simp [hclose] at hnone
        next body after hclose' =>
          cases hclose.symm.trans hclose'
          rw [ih]

/-- There is one way to cut a text into literal text and spans. -/
theorem isCut_iff {cut : List Piece} : IsCut text cut ↔ cut = pieces text := by
  refine ⟨IsCut.eq_pieces, ?_⟩
  rintro rfl
  exact isCut_pieces text

/-- A text is cut into one span and nothing else exactly if it stands between double braces of which
the closing ones are the first. -/
theorem pieces_eq_span_iff {body : List Char} :
    pieces text = [.literal [], .span body, .literal []] ↔
      text = braced body ∧ CutsFirst closeBraces (body ++ closeBraces) body [] := by
  rw [eq_comm, ← isCut_iff]
  constructor
  · intro h
    cases h with
    | span hopen hclose hothers =>
        cases hothers
        have hrest := hclose.eq_append
        rw [List.append_nil] at hrest
        subst hrest
        refine ⟨?_, hclose⟩
        rw [hopen.eq_append, braced, List.nil_append, List.append_assoc]
  · rintro ⟨rfl, hclose⟩
    refine .span ⟨?_, fun _ _ _ => Nat.zero_le _⟩ hclose (.rest ?_)
    · rw [braced, List.nil_append, List.append_assoc]
    · intro before inner after
      simp [openBraces]

end Gamebook.Text
