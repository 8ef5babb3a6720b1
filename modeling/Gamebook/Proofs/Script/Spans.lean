import Gamebook.Proofs.Result
import Gamebook.Proofs.Text.Cuts
import Gamebook.Proofs.Text.Spans
import Gamebook.Script.Parse

/-! # Scripts that are spans

The name of an enemy is a script if the whole line is one span. No script ends with a brace
(`getLast?_ne_brace_of_scan`), so the span that is found by its two ends is the one that is found
from the left (`spanBodies_of_ofSpan?`), and only spans with a double opening brace in them are
found in one of the two ways alone (`ofSpan?_eq_some_iff`).
-/

namespace Gamebook.Script

/-! ## The last character of a script -/

/-- What follows a string is the text behind its closing quote. -/
theorem eq_append_of_closeString {quote : Char} {cs value after : List Char}
    (h : closeString quote cs = some (value, after)) : ∃ inside, cs = inside ++ quote :: after := by
  fun_induction closeString quote cs generalizing value with
  | case1 => cases h
  | case2 c rest hquote =>
      cases h
      exact ⟨[], by rw [hquote, List.nil_append]⟩
  | case3 c rest hquote ih =>
      obtain ⟨parts, hparts, heq⟩ := Option.map_eq_some_iff.1 h
      cases heq
      obtain ⟨inside, hinside⟩ := ih hparts
      exact ⟨'\\' :: c :: inside, by rw [hinside]; rfl⟩
  | case4 rest =>
      cases h
      exact ⟨[], rfl⟩
  | case5 c rest _ hquote ih =>
      obtain ⟨parts, hparts, heq⟩ := Option.map_eq_some_iff.1 h
      cases heq
      obtain ⟨inside, hinside⟩ := ih hparts
      exact ⟨c :: inside, by rw [hinside]; rfl⟩

/-- A part of a text is taken from its beginning, and its last character is no brace. -/
def TakenUpTo (cs after : List Char) : Prop :=
  ∃ taken last, cs = taken ++ last :: after ∧ last ≠ '}'

theorem takenUpTo_of_forall {taken after : List Char} (hne : taken ≠ [])
    (h : ∀ c ∈ taken, c ≠ '}') : TakenUpTo (taken ++ after) after := by
  refine ⟨taken.dropLast, taken.getLast hne, ?_, h _ (List.getLast_mem hne)⟩
  rw [List.append_cons, List.dropLast_concat_getLast]

theorem takenUpTo_of_sign? {cs after : List Char} {token : Token}
    (h : sign? cs = some (token, after)) : TakenUpTo cs after := by
  unfold sign? at h
  split at h
  all_goals
    cases h
  all_goals
    first
    | exact ⟨[_], _, rfl, by decide⟩
    | exact ⟨[], _, rfl, by decide⟩

/-- No token ends with a brace. -/
theorem takenUpTo_of_lex {c : Char} {rest after : List Char} {token : Token}
    (h : lex c rest = .ok (token, after)) : TakenUpTo (c :: rest) after := by
  -- Words and numbers go on for as long as their characters do.
  have hrun {p : Char → Bool} (hp : p '}' = false) (hc : c ≠ '}') :
      TakenUpTo (c :: rest) (rest.dropWhile p) := by
    have htaken : TakenUpTo (c :: rest.takeWhile p ++ rest.dropWhile p) (rest.dropWhile p) := by
      apply takenUpTo_of_forall (List.cons_ne_nil _ _)
      intro x hx
      rcases List.mem_cons.1 hx with rfl | hx
      · exact hc
      · rintro rfl
        rw [List.mem_takeWhile_imp hx] at hp
        cases hp
    rwa [List.cons_append, List.takeWhile_append_dropWhile] at htaken
  unfold lex at h
  split at h
  next hnumber =>
    dsimp only at h
    split at h
    · cases h
      refine hrun (by decide) ?_
      rintro rfl
      exact absurd hnumber (by simp [startsNumber])
    · cases h
  next =>
    split at h
    next hword =>
      cases h
      refine hrun (by decide) ?_
      rintro rfl
      exact absurd hword (by decide)
    next =>
      split at h
      next hquote =>
        split at h
        next value tail hclose =>
          cases h
          obtain ⟨inside, hinside⟩ := eq_append_of_closeString hclose
          refine ⟨c :: inside, c, by rw [hinside]; rfl, ?_⟩
          rintro rfl
          exact absurd hquote (by decide)
        · cases h
      next =>
        split at h
        next found hsign =>
          cases h
          exact takenUpTo_of_sign? hsign
        · cases h

/-- A text that can be cut into tokens does not end with a brace. -/
theorem getLast?_ne_brace_of_scan {cs : List Char} {tokens : List Token}
    (h : scan cs = .ok tokens) : cs.getLast? ≠ some '}' := by
  fun_induction scan cs generalizing tokens with
  | case1 => simp
  | case2 c rest hblank ih =>
      have hrest := ih h
      cases rest with
      | nil =>
          rintro heq
          obtain rfl : c = '}' := by simpa using heq
          exact absurd hblank (by decide)
      | cons next rest => exact hrest
  | case3 c rest _ failure hlex => cases h
  | case4 c rest _ token after hlex ih =>
      obtain ⟨others, hothers, -⟩ := Except.map_eq_ok_iff.1 h
      obtain ⟨taken, last, heq, hlast⟩ := takenUpTo_of_lex hlex
      have hafter := ih hothers
      rw [heq, List.getLast?_append, List.getLast?_cons, Option.some_or]
      cases hend : after.getLast? with
      | none => simpa using hlast
      | some c => rwa [hend] at hafter

/-! ## Whole spans -/

theorem splitText_append_pair {b : Char} {text : List Char}
    (hnone : Text.splitText [b, b] text = none) (hlast : text.getLast? ≠ some b)
    (after : List Char) :
    Text.splitText [b, b] (text ++ b :: b :: after) = some (text, after) := by
  induction text with
  | nil => simp [Text.splitText_cons]
  | cons c rest ih =>
      rw [Text.splitText_cons] at hnone
      rw [List.cons_append, Text.splitText_cons]
      split at hnone
      · cases hnone
      next hpair =>
        rw [Option.map_eq_none_iff] at hnone
        cases rest with
        | nil =>
            have hc : c ≠ b := by simpa using hlast
            simp [Text.splitText_cons, hc]
        | cons next rest =>
            have hstays : ¬ (c = b ∧ (next :: rest ++ b :: b :: after).head? = some b) := hpair
            rw [if_neg hstays, ih hnone hlast]
            rfl

theorem unbraced?_eq_some_iff {text body : List Char} :
    Text.unbraced? text = some body ↔ text = Text.braced body := by
  constructor
  · intro h
    unfold Text.unbraced? at h
    split at h
    next rest =>
      split at h
      next inner hreverse =>
        cases h
        rw [List.reverse_eq_iff] at hreverse
        rw [hreverse]
        simp [Text.braced, Text.openBraces, Text.closeBraces]
      · cases h
    · cases h
  · rintro rfl
    simp [Text.unbraced?, Text.braced, Text.openBraces, Text.closeBraces]

/-- The closing braces behind the body of a script are the first if there are none within it. -/
theorem cutsFirst_of_ofBody {body : List Char} {script : Script} (h : ofBody body = .ok script)
    (hclose : ¬ Text.closeBraces <:+: body) :
    Text.CutsFirst Text.closeBraces (body ++ Text.closeBraces) body [] := by
  obtain ⟨tokens, hscan, -⟩ := Except.bind_eq_ok_iff.1 h
  rw [← Text.holds_iff Text.closeBraces_ne_nil] at hclose
  have hnone : Text.splitText ['}', '}'] body = none := by
    simpa [Text.holds, Text.closeBraces] using hclose
  exact Text.cutsFirst_of_splitText
    (splitText_append_pair hnone (getLast?_ne_brace_of_scan hscan) [])

/-- There are no closing braces within a body if those behind it are the first. -/
theorem not_closeBraces_infix {body : List Char}
    (h : Text.CutsFirst Text.closeBraces (body ++ Text.closeBraces) body []) :
    ¬ Text.closeBraces <:+: body := by
  rintro ⟨before, after, hbody⟩
  have hle := h.le_length before (after ++ Text.closeBraces) (by simp [← hbody])
  have hlength := congrArg List.length hbody
  simp [Text.closeBraces] at hle hlength
  omega

theorem pieces_of_ofSpan? {text : List Char} {script : Script} (h : ofSpan? text = some script) :
    ∃ body, Text.pieces (Text.trim text) = [.literal [], .span body, .literal []] ∧
      ofBody body = .ok script ∧ ¬ Text.openBraces <:+: body := by
  obtain ⟨body, hbody, h⟩ := Option.bind_eq_some_iff.1 h
  split at h
  · cases h
  next hholds =>
    rw [Bool.or_eq_true, not_or, Text.holds_iff Text.openBraces_ne_nil,
      Text.holds_iff Text.closeBraces_ne_nil] at hholds
    have hscript := Except.toOption_eq_some_iff.1 h
    refine ⟨body, ?_, hscript, hholds.1⟩
    rw [Text.pieces_eq_span_iff]
    exact ⟨unbraced?_eq_some_iff.1 hbody, cutsFirst_of_ofBody hscript hholds.2⟩

/-- The script of a text that is one span is that of its only span. -/
theorem spanBodies_of_ofSpan? {text : List Char} {script : Script}
    (h : ofSpan? text = some script) :
    ∃ body, Text.spanBodies (Text.trim text) = [body] ∧ ofBody body = .ok script := by
  obtain ⟨body, hpieces, hscript, -⟩ := pieces_of_ofSpan? h
  refine ⟨body, ?_, hscript⟩
  rw [Text.spanBodies, hpieces]
  rfl

/-- A text is a script by itself exactly if the cut from the left makes it one span, with nothing
but blanks around it, whose body is a script and has no double opening brace in it. The script is
that of the body. -/
theorem ofSpan?_eq_some_iff (text : List Char) (script : Script) :
    ofSpan? text = some script ↔
      ∃ body, Text.pieces (Text.trim text) = [.literal [], .span body, .literal []] ∧
        ofBody body = .ok script ∧ ¬ Text.openBraces <:+: body := by
  refine ⟨pieces_of_ofSpan?, ?_⟩
  rintro ⟨body, hpieces, hscript, hopen⟩
  obtain ⟨htext, hfirst⟩ := Text.pieces_eq_span_iff.1 hpieces
  refine Option.bind_eq_some_iff.2 ⟨body, unbraced?_eq_some_iff.2 htext, ?_⟩
  rw [if_neg]
  · exact Except.toOption_eq_some_iff.2 hscript
  · rw [Bool.or_eq_true, not_or, Text.holds_iff Text.openBraces_ne_nil,
      Text.holds_iff Text.closeBraces_ne_nil]
    exact ⟨hopen, not_closeBraces_infix hfirst⟩

/-- The cut from the left alone does not decide it: a span whose script is a text of two opening
braces is no script by itself. -/
theorem ofSpan?_of_quoted_openBraces :
    ¬ ∀ (text : List Char) (script : Script), ofSpan? text = some script ↔
      ∃ body, Text.pieces (Text.trim text) = [.literal [], .span body, .literal []] ∧
        ofBody body = .ok script := by
  intro h
  have hquoted := (h ['{', '{', '\'', '{', '{', '\'', '}', '}']
    ⟨[.expr (.literal (.string r"{{"))]⟩).2 ⟨['\'', '{', '{', '\''], ?_, ?_⟩
  · revert hquoted
    decide +kernel
  · decide +kernel
  · decide +kernel

end Gamebook.Script
