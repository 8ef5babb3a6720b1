import Gamebook.Content.Rendering
import Gamebook.Proofs.Text.Cuts
import Gamebook.Proofs.Text.Entities

/-! # What replaces spans

A text is cut into literal text and spans in one way. Rendering leaves the literal text as it is and
replaces each span by what its script comes to after the spans before it, so that nothing in the
place of a span is taken for a span (`exists_cut_renders_iff`).
-/

namespace Gamebook.Content

/-- What replaces a span whose body is given, with the context for the spans behind it. A span that
is no script or whose script fails stays as it is; otherwise its assignments are made, and its value
is shown unless all its statements assign. -/
inductive Replaces (context : Context) (body : List Char) : List Char → Context → Prop where
  | unreadable {failure : Script.ParseFailure}
      (hread : Script.ofBody (Text.replaceEach Text.entities body) = .error failure) :
      Replaces context body (Text.braced body) context
  | failing {script : Script} {failure : Script.Failure}
      (hread : Script.ofBody (Text.replaceEach Text.entities body) = .ok script)
      (hrun : script.run context = .error failure) :
      Replaces context body (Text.braced body) context
  | silent {script : Script} {effect : Script.Effect}
      (hread : Script.ofBody (Text.replaceEach Text.entities body) = .ok script)
      (hrun : script.run context = .ok effect)
      (hsilent : ∀ statement ∈ script.statements, ∃ name e, statement = .assign name e) :
      Replaces context body [] (context.assignAll effect.assignments)
  | shown {script : Script} {effect : Script.Effect} {e : Script.Expr}
      (hread : Script.ofBody (Text.replaceEach Text.entities body) = .ok script)
      (hrun : script.run context = .ok effect) (hshown : .expr e ∈ script.statements) :
      Replaces context body effect.value.text.toList (context.assignAll effect.assignments)

/-- What pieces of a text come to, one after the other. -/
inductive Renders : Context → List Text.Piece → List Char → Prop where
  | nil {context : Context} : Renders context [] []
  | literal {context : Context} {text out : List Char} {rest : List Text.Piece}
      (hrest : Renders context rest out) : Renders context (.literal text :: rest) (text ++ out)
  | span {context next : Context} {body shown out : List Char} {rest : List Text.Piece}
      (hspan : Replaces context body shown next) (hrest : Renders next rest out) :
      Renders context (.span body :: rest) (shown ++ out)

theorem isAssignment_iff {script : Script} :
    script.isAssignment = true ↔
      ∀ statement ∈ script.statements, ∃ name e, statement = .assign name e := by
  rw [Script.isAssignment, List.all_eq_true]
  refine forall₂_congr fun statement _ => ?_
  cases statement <;> simp [Script.Statement.isAssignment]

/-- A script that shows a value does not only assign. -/
theorem not_isAssignment_of_expr {script : Script} {e : Script.Expr}
    (h : .expr e ∈ script.statements) : ¬ script.isAssignment = true := by
  intro hall
  obtain ⟨name, value, heq⟩ := isAssignment_iff.1 hall _ h
  cases heq

theorem exists_expr_of_not_isAssignment {script : Script} (h : script.isAssignment = false) :
    ∃ e, .expr e ∈ script.statements := by
  rw [Script.isAssignment, List.all_eq_false] at h
  obtain ⟨statement, hmem, hnot⟩ := h
  cases statement with
  | assign name e => exact absurd rfl hnot
  | expr e => exact ⟨e, hmem⟩

/-- A span is replaced in one way. -/
theorem replaces_iff {context next : Context} {body shown : List Char} :
    Replaces context body shown next ↔ (shown, next) = renderSpan context body := by
  have hbody : Script.ofBody (Text.replaceEach Text.entities body) = spanScript body := by
    rw [spanScript, Text.decodeEntities_eq_replaceEach]
  constructor
  · intro h
    cases h with
    | unreadable hread =>
        rw [hbody] at hread
        rw [renderSpan, hread]
    | failing hread hrun =>
        rw [hbody] at hread
        simp only [renderSpan, hread, hrun]
    | silent hread hrun hsilent =>
        rw [hbody] at hread
        simp only [renderSpan, hread, hrun, if_pos (isAssignment_iff.2 hsilent)]
        rfl
    | shown hread hrun hshown =>
        rw [hbody] at hread
        simp only [renderSpan, hread, hrun, if_neg (not_isAssignment_of_expr hshown)]
        rfl
  · intro h
    unfold renderSpan at h
    split at h
    next failure hread =>
      cases h
      exact .unreadable (hbody.trans hread)
    next script hread =>
      split at h
      next failure hrun =>
        cases h
        exact .failing (hbody.trans hread) hrun
      next effect hrun =>
        cases h
        cases hassign : script.isAssignment with
        | true => exact .silent (hbody.trans hread) hrun (isAssignment_iff.1 hassign)
        | false =>
            obtain ⟨e, he⟩ := exists_expr_of_not_isAssignment hassign
            exact .shown (hbody.trans hread) hrun he

theorem renders_iff {context : Context} {cut : List Text.Piece} {out : List Char} :
    Renders context cut out ↔ out = renderPieces context cut := by
  induction cut generalizing context out with
  | nil =>
      constructor
      · rintro ⟨⟩
        rfl
      · rintro rfl
        exact .nil
  | cons piece rest ih =>
      cases piece with
      | literal text =>
          constructor
          · intro h
            cases h with
            | literal hrest => rw [renderPieces, ih.1 hrest]
          · rintro rfl
            exact .literal (ih.2 rfl)
      | span body =>
          constructor
          · intro h
            cases h with
            | span hspan hrest => rw [renderPieces, ← replaces_iff.1 hspan, ih.1 hrest]
          · rintro rfl
            exact .span (replaces_iff.2 rfl) (ih.2 rfl)

/-- Every text is cut into literal text and spans in exactly one way, which leaves nothing out; and
what its pieces come to one after the other is what it is rendered as. -/
theorem exists_cut_renders_iff (context : Context) (text : List Char) :
    ∃ cut, (∀ other, Text.IsCut text other ↔ other = cut) ∧ cut.flatMap Text.Piece.source = text ∧
      ∀ out, Renders context cut out ↔ out = renderSpans context text :=
  ⟨Text.pieces text, fun _ => Text.isCut_iff, Text.flatten_pieces text, fun _ => renders_iff⟩

/-- A text whose spans have braces in them, fail, assign and show at once, or are never closed. -/
def echo : String :=
  "{{{word}}} {{word}} " ++
    r"{{tone = '{' + word + '}'; tone}} {{none}}" ++
    r"{{tone = 'a &lt; b'}} {{tone}} {{tone"

/-- The context that the echo is heard in. The value of its only variable looks like a span. -/
def cave : Context :=
  NameMap.ofList [("word", .string "{{tone}}")]

/-- The value that looks like a span is not replaced, and what fails or is not closed stays. -/
theorem exists_cut_renders_iff_echo :
    ∃ cut, Text.IsCut echo.toList cut ∧ Renders cave cut
      ("{{{word}}} {{tone}} {{{tone}}} " ++
        r"{{none}} a < b {{tone").toList := by
  obtain ⟨cut, hcut, -, hrenders⟩ := exists_cut_renders_iff cave echo.toList
  refine ⟨cut, (hcut cut).2 rfl, (hrenders _).2 ?_⟩
  decide +kernel

end Gamebook.Content
